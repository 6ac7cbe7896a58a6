import DatabaseSchema.Text
import DatabaseSchema.Text.Category

namespace DatabaseSchema.Sqlite

structure CheckDefinition where
  name : Option String := none
  condition : String
  deriving DecidableEq, Repr

structure UniqueDefinition where
  name : Option String := none
  columns : List String
  deriving DecidableEq, Repr

structure ColumnDefinition where
  name : String
  type : Option String := none
  notNull : Bool := false
  default : Option String := none
  key : Bool := false
  autoincrement : Bool := false
  unique : Bool := false
  checks : List CheckDefinition := []
  deriving DecidableEq, Repr

structure TableDefinition where
  name : String
  columns : List ColumnDefinition
  primaryKey : Option (List String) := none
  keyName : Option String := none
  uniques : List UniqueDefinition := []
  checks : List CheckDefinition := []
  withoutRowid : Bool := false
  deriving DecidableEq, Repr

inductive IndexedTerm where
  | column (name : String)
  | expression (sql : String)
  deriving DecidableEq, Repr

structure IndexDefinition where
  name : String
  table : String
  terms : List IndexedTerm
  unique : Bool := false
  deriving DecidableEq, Repr

inductive DropKind where
  | table
  | index
  | view
  deriving DecidableEq, Repr

inductive Statement where
  | attach (database : String)
  | createTable (database : Option String) (t : TableDefinition)
  | createIndex (database : Option String) (i : IndexDefinition)
  | createView (database : Option String) (name : String)
  | drop (database : Option String) (kind : DropKind) (name : String)
  deriving DecidableEq, Repr

def quoteName (name : String) : String :=
  String.ofList
    ('"' :: name.toList.flatMap (fun c => if c = '"' then ['"', '"'] else [c]) ++ ['"'])

def nameList (names : List String) : String :=
  "(" ++ ", ".intercalate (names.map quoteName) ++ ")"

def clause (present : Bool) (text : String) : String := if present then " " ++ text else ""

def named (name : Option String) (constraint : String) : String :=
  (name.map fun n => "CONSTRAINT " ++ quoteName n ++ " ").getD "" ++ constraint

def CheckDefinition.sql (c : CheckDefinition) : String :=
  named c.name ("CHECK (" ++ c.condition ++ ")")

def UniqueDefinition.sql (u : UniqueDefinition) : String :=
  named u.name ("UNIQUE " ++ nameList u.columns)

def ColumnDefinition.sql (c : ColumnDefinition) : String :=
  quoteName c.name
    ++ (c.type.map (" " ++ ·)).getD ""
    ++ clause c.notNull "NOT NULL"
    ++ (c.default.map (" DEFAULT " ++ ·)).getD ""
    ++ clause c.key "PRIMARY KEY"
    ++ clause c.autoincrement "AUTOINCREMENT"
    ++ clause c.unique "UNIQUE"
    ++ String.join (c.checks.map (" " ++ ·.sql))

def TableDefinition.sql (t : TableDefinition) : String :=
  let parts := t.columns.map (·.sql)
    ++ (t.primaryKey.map fun names => named t.keyName ("PRIMARY KEY " ++ nameList names)).toList
    ++ t.uniques.map (·.sql)
    ++ t.checks.map (·.sql)
  "CREATE TABLE " ++ quoteName t.name ++ " (" ++ ", ".intercalate parts ++ ")"
    ++ clause t.withoutRowid "WITHOUT ROWID"

inductive Token where
  | word (s : String)
  | quotedName (s : String)
  | literal (s : String)
  | call (s : String)
  | other (c : Char)
  deriving DecidableEq, Repr

def isNameStart (c : Char) : Bool := c.isAlpha || c == '_' || 128 ≤ c.toNat

def isNameChar (c : Char) : Bool := isNameStart c || c.isDigit || c == '$'

def quotedPart (quote : Char) : List Char → List Char × List Char
  | [] => ([], [])
  | [c] => if c = quote then ([], []) else ([c], [])
  | c :: d :: cs =>
      if c = quote then
        if d = quote then
          let (part, rest) := quotedPart quote cs
          (quote :: part, rest)
        else ([], d :: cs)
      else
        let (part, rest) := quotedPart quote (d :: cs)
        (c :: part, rest)

def tokens : Nat → List Char → List Token
  | 0, _ => []
  | _, [] => []
  | fuel + 1, c :: cs =>
      if Text.isBlank c then tokens fuel cs
      else if c = '\'' then
        let (part, rest) := quotedPart '\'' cs
        .literal (String.ofList part) :: tokens fuel rest
      else if c = '"' then
        let (part, rest) := quotedPart '"' cs
        .quotedName (String.ofList part) :: tokens fuel rest
      else if isNameStart c then
        let name := String.ofList (c :: cs.takeWhile isNameChar)
        let rest := cs.dropWhile isNameChar
        match rest.dropWhile Text.isBlank with
        | '(' :: _ => .call name :: tokens fuel rest
        | _ => .word name :: tokens fuel rest
      else if c.isDigit then tokens fuel (cs.dropWhile fun d => isNameChar d || d == '.')
      else .other c :: tokens fuel cs

def operatorWords : List String :=
  ["AND", "OR", "NOT", "IS", "IN", "NULL", "LIKE", "GLOB", "BETWEEN", "CASE", "WHEN", "THEN", "ELSE",
    "END", "COLLATE", "NOCASE", "RTRIM", "BINARY", "ASC", "DESC", "ISNULL", "NOTNULL", "TRUE",
    "FALSE", "ESCAPE", "CAST", "AS", "INT", "INTEGER", "TEXT", "REAL", "BLOB", "NUMERIC"]

def valueWords : List String := ["NULL", "TRUE", "FALSE"]

def functionNames : List String :=
  ["ABS", "CHAR", "COALESCE", "DATE", "FORMAT", "GLOB", "HEX", "IFNULL", "IIF", "INSTR", "LENGTH",
    "LIKE", "LOWER", "LTRIM", "NULLIF", "PRINTF", "QUOTE", "REPLACE", "ROUND", "RTRIM",
    "SIGN", "SOUNDEX", "STRFTIME", "SUBSTR", "SUBSTRING", "TIME", "TRIM", "TYPEOF", "UNHEX",
    "UNICODE", "UPPER", "CAST", "IN", "AND", "OR", "NOT", "BETWEEN", "JSON_EXTRACT"]

def columnNamed? (columns : List String) (name : String) : Option String :=
  columns.find? (Text.sameAscii · name)

def Token.isKnown (columns : List String) : Token → Bool
  | .word s =>
      (columnNamed? columns s).isSome || operatorWords.contains (s.map Char.toUpper)
  | .call s => functionNames.contains (s.map Char.toUpper)
  | .other c => c != '.'
  | .quotedName _ | .literal _ => true

def bareTerm : Nat → List Token → List Token
  | 0, ts => ts
  | fuel + 1, ts =>
      match ts, ts.getLast? with
      | .other '(' :: rest, some (.other ')') => bareTerm fuel rest.dropLast
      | t :: .word w :: rest, _ =>
          if w.map Char.toUpper = "COLLATE" then bareTerm fuel (t :: rest.drop 1)
          else if rest.isEmpty && ["ASC", "DESC"].contains (w.map Char.toUpper) then [t]
          else ts
      | _, _ => ts

-- What a term adds to an index over the given columns: a column, an expression (`none` inside),
-- or nothing, if it is refused. A name in double quotes that is no column is a text.
def resolveTokens? (columns : List String) (ts : List Token) : Option (Option String) :=
  match bareTerm ts.length ts with
  | [] => some none
  | [.word s] =>
      match columnNamed? columns s with
      | some name => some (some name)
      | none => if valueWords.contains (s.map Char.toUpper) then some none else none
  | [.literal s] => (columnNamed? columns s).map some
  | [.quotedName s] => some (columnNamed? columns s)
  | ts => if ts.all (·.isKnown columns) then some none else none

def splitTerms (depth : Nat) : List Token → List (List Token)
  | [] => [[]]
  | t :: ts =>
      let depth' := match t with
        | .other '(' => depth + 1
        | .other ')' => depth - 1
        | _ => depth
      if depth = 0 ∧ t = .other ',' then [] :: splitTerms 0 ts
      else
        match splitTerms depth' ts with
        | [] => [[t]]
        | part :: parts => (t :: part) :: parts

def IndexedTerm.resolve? (columns : List String) : IndexedTerm → Option (List (Option String))
  | .column name => some [columnNamed? columns name]
  | .expression sql =>
      if (Text.trim sql).isEmpty then none
      else (splitTerms 0 (tokens sql.length sql.toList)).mapM (resolveTokens? columns)

end DatabaseSchema.Sqlite
