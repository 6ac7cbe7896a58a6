import DatabaseSchema.Toml.Quoted

namespace DatabaseSchema.Toml

abbrev Reader := StateT (List Char) Option

def skipGaps : Reader Unit := modify (·.dropWhile isGap)

def accept (c : Char) : Reader Bool := do
  match ← get with
  | d :: rest =>
      if c = d then
        set rest
        return true
      else return false
  | [] => return false

def require (c : Char) : Reader Unit := do
  unless ← accept c do failure

def skipComment : Reader Unit := do
  match ← get with
  | '#' :: rest => set (rest.dropWhile isPlain)
  | _ => return

def endLine : Reader Unit := do
  skipGaps
  skipComment
  match ← get with
  | [] => return
  | cs =>
      match afterNewline? cs with
      | some rest => set rest
      | none => failure

def skipLines : Nat → Reader Unit
  | 0 => return
  | fuel + 1 => do
      skipGaps
      skipComment
      match afterNewline? (← get) with
      | some rest =>
          set rest
          skipLines fuel
      | none => return

def skipAll : Reader Unit := do skipLines ((← get).length + 1)

def isBareKeyChar (c : Char) : Bool :=
  c.isAlphanum || c == '_' || c == '-'

def simpleKey : Reader String := do
  match ← get with
  | [] => failure
  | c :: rest =>
      if c = '"' ∨ c = '\'' then
        match quotedLine (c :: rest) with
        | some (key, rest) =>
            set rest
            return String.ofList key
        | none => failure
      else
        let key := (c :: rest).takeWhile isBareKeyChar
        if key.isEmpty then failure
        set ((c :: rest).dropWhile isBareKeyChar)
        return String.ofList key

def keyPath : Nat → Reader (List String)
  | 0 => failure
  | fuel + 1 => do
      skipGaps
      let key ← simpleKey
      skipGaps
      if ← accept '.' then return key :: (← keyPath fuel) else return [key]

def key : Reader (List String × String) := do
  match splitLast? (← keyPath (← get).length) with
  | some split => return split
  | none => failure

def isWordChar (c : Char) : Bool :=
  c.isAlphanum || c == '_' || c == '-' || c == '+' || c == '.' || c == ':'

def word : Reader (List Char) := do
  let cs ← get
  let first := cs.takeWhile isWordChar
  match (afterDate? first).any (·.isEmpty), cs.dropWhile isWordChar with
  | true, ' ' :: c :: rest =>
      if c.isDigit then
        set ((c :: rest).dropWhile isWordChar)
        return first ++ ' ' :: (c :: rest).takeWhile isWordChar
      else
        set (' ' :: c :: rest)
        return first
  | _, rest =>
      set rest
      return first

mutual

def value : Nat → Reader Toml
  | 0 => failure
  | fuel + 1 => do
      match ← get with
      | [] => failure
      | c :: rest =>
          match c with
          | '"' | '\'' =>
              match quoted (c :: rest) with
              | some (s, rest) =>
                  set rest
                  return .text (String.ofList s)
              | none => failure
          | '[' =>
              set rest
              return .array (← items fuel)
          | '\x7b' =>
              set rest
              return .table .inline (← members fuel [])
          | _ =>
              match scalar? (← word) with
              | some v => return v
              | none => failure

def items : Nat → Reader (List Toml)
  | 0 => failure
  | fuel + 1 => do
      skipAll
      if ← accept ']' then return []
      let v ← value fuel
      skipAll
      if ← accept ',' then return v :: (← items fuel)
      require ']'
      return [v]

def members : Nat → Entries → Reader Entries
  | 0, _ => failure
  | fuel + 1, entries => do
      skipAll
      if ← accept '\x7d' then return entries
      let (path, name) ← key
      require '='
      skipGaps
      let v ← value fuel
      match addEntry path name v .inline entries with
      | none => failure
      | some entries =>
          skipAll
          if ← accept ',' then members fuel entries
          else
            require '\x7d'
            return entries

end

def header (close : List Char) : Reader (List String × String) := do
  let path ← key
  for c in close do
    require c
  endLine
  return path

def nestingLimit : Nat := 80

def statements : Nat → List String → Entries → Reader Entries
  | 0, _, _ => failure
  | fuel + 1, current, root => do
      skipAll
      match ← get with
      | [] => return root
      | '[' :: '[' :: rest =>
          set rest
          let (path, name) ← header [']', ']']
          match changeAt false (openListedTable name) path .header root with
          | some root => statements fuel (path ++ [name]) root
          | none => failure
      | '[' :: rest =>
          set rest
          let (path, name) ← header [']']
          match changeAt false (openTable name) path .header root with
          | some root => statements fuel (path ++ [name]) root
          | none => failure
      | _ =>
          let (path, name) ← key
          require '='
          skipGaps
          let v ← value (← get).length
          if nestingLimit < v.nesting then failure
          endLine
          match changeAt false (addEntry path name v) current .header root with
          | some root => statements fuel current root
          | none => failure

def parse? (text : String) : Option Entries :=
  let cs := match text.toList with
    | '\ufeff' :: cs => cs
    | cs => cs
  ((statements (cs.length + 1) [] []).run cs).map (·.1)

end DatabaseSchema.Toml
