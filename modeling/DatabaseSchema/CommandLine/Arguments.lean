import DatabaseSchema.Logged
import DatabaseSchema.Text

namespace DatabaseSchema

inductive DumpFormat where
  | text
  | json
  deriving DecidableEq, Repr

inductive Command where
  | tables
  | views
  | describe (table : String)
  | dump (format : DumpFormat)
  deriving DecidableEq, Repr

inductive Verbosity where
  | error
  | warn
  | info
  | debug
  | trace
  deriving DecidableEq, Repr

def Verbosity.shows (v : Verbosity) (l : Level) : Bool :=
  match v, l with
  | .info, .info | .debug, _ | .trace, _ => true
  | _, _ => false

structure Invocation where
  command : Command
  database : Option String := none
  schema : Option String := none
  settingsFile : Option String := none
  connection : Option String := none
  verbosity : Verbosity := .warn
  deriving DecidableEq, Repr

end DatabaseSchema

namespace DatabaseSchema.CommandLine

inductive Key where
  | settingsFile
  | connection
  | verbosity
  | schema
  | format
  deriving DecidableEq, Repr

def Key.name : Key → String
  | settingsFile => "config"
  | connection => "connection"
  | verbosity => "log-level"
  | schema => "schema"
  | format => "format"

def Key.letter? : Key → Option Char
  | connection => some 'c'
  | format => some 'f'
  | _ => none

def verbosity? : String → Option Verbosity
  | "error" => some .error
  | "warn" => some .warn
  | "info" => some .info
  | "debug" => some .debug
  | "trace" => some .trace
  | _ => none

def format? : String → Option DumpFormat
  | "text" => some .text
  | "json" => some .json
  | _ => none

def Key.accepts (key : Key) (value : String) : Bool :=
  match key with
  | settingsFile => !value.isEmpty
  | verbosity => (verbosity? value).isSome
  | format => (format? value).isSome
  | connection | schema => true

inductive Role where
  | table
  | database
  deriving DecidableEq, Repr

def Role.accepts (role : Role) (word : String) : Bool :=
  match role with
  | table => true
  | database => !word.isEmpty

inductive Refusal where
  | help
  | version
  | misuse
  deriving DecidableEq, Repr

inductive Argument where
  | word (s : String)
  | separator
  | long (name : List Char) (value : Option (List Char))
  | short (letter : Char) (value : Option (List Char))
  deriving DecidableEq, Repr

def attached? : List Char → Option (List Char)
  | [] => none
  | '=' :: value => some value
  | value => some value

def Argument.ofText (s : String) : Argument :=
  match s.toList with
  | ['-', '-'] => .separator
  | '-' :: '-' :: cs =>
      match Text.splitFirst? '=' cs with
      | some (name, value) => .long name (some value)
      | none => .long cs none
  | '-' :: letter :: cs => .short letter (attached? cs)
  | _ => .word s

structure Grammar where
  keys : List Key
  roles : List Role := []
  leads : Bool := false
  deriving DecidableEq, Repr

def commonKeys : List Key := [.settingsFile, .connection, .verbosity]

def Grammar.leading : Grammar := { keys := commonKeys, leads := true }

inductive Meaning where
  | word (s : String)
  | separator
  | option (key : Key) (value : Option String)
  deriving DecidableEq, Repr

namespace Grammar

def optionOf (g : Grammar) (value : Option (List Char)) (p : Key → Bool) :
    Except Refusal Meaning :=
  match g.keys.find? p with
  | some key => .ok (.option key (value.map String.ofList))
  | none => .error .misuse

def meaning (g : Grammar) : Argument → Except Refusal Meaning
  | .word s => .ok (.word s)
  | .separator => .ok .separator
  | .long name value =>
      let name := String.ofList name
      if name = "help" ∧ value.isNone then .error .help
      else if name = "version" ∧ value.isNone ∧ g.leads then .error .version
      else g.optionOf value (·.name == name)
  | .short letter value =>
      if letter = 'h' then .error .help
      else if letter = 'V' ∧ g.leads then .error .version
      else g.optionOf value (·.letter? == some letter)

end Grammar

structure Reading where
  values : List (Key × String) := []
  words : List String := []
  deriving DecidableEq, Repr

namespace Reading

def addValue (r : Reading) (key : Key) (value : String) : Except Refusal Reading :=
  if (r.values.lookup key).isNone && key.accepts value then
    .ok { r with values := (key, value) :: r.values }
  else .error .misuse

def addWord (g : Grammar) (r : Reading) (word : String) : Except Refusal Reading :=
  match g.roles[r.words.length]? with
  | some role =>
      if role.accepts word then .ok { r with words := r.words ++ [word] } else .error .misuse
  | none => .error .misuse

def word? (g : Grammar) (r : Reading) (role : Role) : Option String :=
  (g.roles.zip r.words).lookup role

end Reading

def isValue (arg : String) : Bool :=
  match Argument.ofText arg with
  | .word _ => true
  | _ => false

def scan (g : Grammar) (r : Reading) : List String → Except Refusal (Reading × List String)
  | [] => .ok (r, [])
  | arg :: args => do
      match ← g.meaning (.ofText arg) with
      | .word word =>
          if g.leads then return (r, arg :: args)
          else scan g (← r.addWord g word) args
      | .separator =>
          if g.leads then throw .misuse
          else return (← args.foldlM (Reading.addWord g) r, [])
      | .option key (some value) => scan g (← r.addValue key value) args
      | .option key none =>
          match args with
          | [] => throw .misuse
          | value :: args =>
              if isValue value then scan g (← r.addValue key value) args else throw .misuse

def following : String → Option Grammar
  | "tables" | "views" => some { keys := commonKeys ++ [.schema], roles := [.database] }
  | "describe" => some { keys := commonKeys ++ [.schema], roles := [.table, .database] }
  | "dump" => some { keys := commonKeys ++ [.schema, .format], roles := [.database] }
  | _ => none

def command? (name : String) (g : Grammar) (r : Reading) : Option Command :=
  match name with
  | "tables" => some .tables
  | "views" => some .views
  | "describe" => (r.word? g .table).map .describe
  | "dump" => some (.dump (((r.values.lookup .format).bind format?).getD .text))
  | _ => none

def parse (args : List String) : Except Refusal Invocation := do
  let (before, rest) ← scan .leading {} args
  match rest with
  | [] => throw .misuse
  | name :: rest =>
      if name = "help" then throw .help
      match following name with
      | none => throw .misuse
      | some g =>
          let (after, _) ← scan g {} rest
          let common (key : Key) := after.values.lookup key <|> before.values.lookup key
          match command? name g after with
          | none => throw .misuse
          | some command =>
              return {
                command
                database := after.word? g .database
                schema := after.values.lookup .schema
                settingsFile := common .settingsFile
                connection := common .connection
                verbosity := ((common .verbosity).bind verbosity?).getD .warn }

end DatabaseSchema.CommandLine
