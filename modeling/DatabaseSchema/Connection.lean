import DatabaseSchema.Environment
import DatabaseSchema.Provider
import DatabaseSchema.Settings
import DatabaseSchema.Text
import DatabaseSchema.Text.Category

namespace DatabaseSchema.Expansion

inductive Piece where
  | plain (c : Char)
  | reference (name : String)
  deriving DecidableEq, Repr

def isNameChar (c : Char) : Bool :=
  Text.isAlphanumeric c || c == '_'

-- The name that stands after a dollar sign, and what follows it. A name in braces ends with the
-- text if it is not closed.
def splitName : List Char → List Char × List Char
  | '\x7b' :: cs => (cs.takeWhile (· != '\x7d'), (cs.dropWhile (· != '\x7d')).drop 1)
  | cs => (cs.takeWhile isNameChar, cs.dropWhile isNameChar)

def pieceOf (name : List Char) : Piece :=
  if name.isEmpty then .plain '$' else .reference (String.ofList name)

theorem length_dropWhile_le (p : Char → Bool) (cs : List Char) :
    (cs.dropWhile p).length ≤ cs.length :=
  (List.dropWhile_sublist p).length_le

theorem length_splitName_le (cs : List Char) : (splitName cs).2.length ≤ cs.length := by
  unfold splitName
  split
  · rename_i cs
    have h := length_dropWhile_le (· != '\x7d') cs
    simp only [List.length_drop, List.length_cons]
    omega
  · exact length_dropWhile_le _ _

def pieces : List Char → List Piece
  | [] => []
  | c :: cs =>
      if c = '$' then pieceOf (splitName cs).1 :: pieces (splitName cs).2
      else .plain c :: pieces cs
termination_by cs => cs.length
decreasing_by
  · have := length_splitName_le cs
    simp only [List.length_cons]
    omega
  · simp

def Piece.value (e : Environment) : Piece → Except SettingsError (List Char)
  | .plain c => .ok [c]
  | .reference name =>
      match e.value? name with
      | some value => .ok value.toList
      | none => .error (.missingVariable name)

def values (e : Environment) : List Piece → Except SettingsError (List Char)
  | [] => .ok []
  | p :: ps => do return (← p.value e) ++ (← values e ps)

end DatabaseSchema.Expansion

namespace DatabaseSchema

def Environment.expand (e : Environment) (s : String) : Except SettingsError String :=
  (Expansion.values e (Expansion.pieces s.toList)).map String.ofList

inductive Driver where
  | sqlite
  deriving DecidableEq, Repr

def Driver.name : Driver → String
  | sqlite => "sqlite"

inductive ConnectionError where
  | missingVariable (name : String)
  | unsupportedDriver (name : String)
  | cannotOpen (path message : String)
  deriving DecidableEq, Repr

def ConnectionError.message : ConnectionError → String
  | missingVariable name => "Missing required environment variable: " ++ name
  | unsupportedDriver name => "Unsupported driver: " ++ name ++ ". Supported: sqlite"
  | cannotOpen path message => "Failed to open database " ++ path ++ ": " ++ message

def Driver.ofName (name : String) : Except ConnectionError Driver :=
  let name := Text.lower name
  if name = "sqlite" ∨ name = "sqlite3" then .ok .sqlite else .error (.unsupportedDriver name)

-- What a path opens: a source that may answer as it likes, or the message of a failure.
abbrev Databases := String → Except String Source

structure Connection where
  driver : Driver := .sqlite
  path : String
  schema : Option String := none
  deriving DecidableEq, Repr

namespace ConnectionSettings

def supportedDriver (c : ConnectionSettings) : Except SettingsError Driver :=
  match Driver.ofName c.driver with
  | .ok driver => .ok driver
  | .error _ => .error (.unsupportedDriver c.driver)

def expandedPath (c : ConnectionSettings) (e : Environment) : Except SettingsError String :=
  e.expand c.path

def connection (c : ConnectionSettings) (e : Environment) : Except SettingsError Connection := do
  return { driver := ← c.supportedDriver, path := ← c.expandedPath e, schema := c.schema }

end ConnectionSettings

namespace Connection

def driverVariable : String := "SCHEMALENS_DB_DRIVER"

def pathVariable : String := "SCHEMALENS_DB_PATH"

def schemaVariable : String := "SCHEMALENS_DB_SCHEMA"

def ofEnvironment (e : Environment) : Except ConnectionError Connection := do
  let driver ← match e.value? driverVariable with
    | some name => Driver.ofName name
    | none => .ok .sqlite
  match e.value? pathVariable with
  | some path => return { driver, path, schema := e.value? schemaVariable }
  | none => throw (.missingVariable pathVariable)

def source (c : Connection) (databases : Databases) : Except ConnectionError Source :=
  match c.driver with
  | .sqlite => (databases c.path).mapError (.cannotOpen c.path)

def opening (c : Connection) : Event := .openingDatabase c.path

def session (c : Connection) (policy : Policy) : Session :=
  Session.start { policy, schema := c.schema }

end Connection

end DatabaseSchema
