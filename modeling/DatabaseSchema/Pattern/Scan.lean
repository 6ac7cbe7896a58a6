import DatabaseSchema.Pattern.Property

namespace DatabaseSchema.Pattern

-- Without `scripts` only ASCII has letters and digits. With `spaced`, white space and comments in
-- the pattern do not count.
structure Flags where
  ignoreCase : Bool := false
  multiLine : Bool := false
  dotNewline : Bool := false
  anyLineEnd : Bool := false
  scripts : Bool := true
  spaced : Bool := false
  deriving DecidableEq, Repr

structure Scan where
  rest : List Char
  flags : Flags
  groupNames : List (List Char)

abbrev Scanner := StateT Scan Option

def withoutSpace (inComment : Bool) : List Char → List Char
  | [] => []
  | c :: cs =>
      if inComment then withoutSpace (c != '\n') cs
      else if Text.isBlank c then withoutSpace false cs
      else if c = '#' then withoutSpace true cs
      else c :: cs

def skipSpace : Scanner Unit :=
  modify fun s => if s.flags.spaced then { s with rest := withoutSpace false s.rest } else s

def peek? : Scanner (Option Char) := return (← get).rest.head?

def here : Scanner Char := do
  match ← peek? with
  | some c => return c
  | none => failure

def step : Scanner Unit :=
  modify fun s => { s with rest := s.rest.drop 1 }

def advance : Scanner Unit := do
  step
  skipSpace

def accept (cs : List Char) : Scanner Bool := do
  let s ← get
  if cs.isPrefixOf s.rest then
    set { s with rest := s.rest.drop cs.length }
    return true
  else return false

def spanWhile (p : Char → Bool) : Nat → Scanner (List Char)
  | 0 => return []
  | fuel + 1 => do
      match ← peek? with
      | some c =>
          if p c then
            advance
            return c :: (← spanWhile p fuel)
          else return []
      | none => return []

def takeWhile (p : Char → Bool) : Scanner (List Char) := do
  spanWhile p (← get).rest.length

def decimalValue (digits : List Char) : Nat :=
  digits.foldl (fun n c => 10 * n + (c.toNat - '0'.toNat)) 0

def decimal? : Scanner (Option Nat) := do
  modify fun s => { s with rest := s.rest.dropWhile Text.isBlank }
  let digits ← takeWhile Char.isDigit
  let _ ← takeWhile Text.isBlank
  if digits.isEmpty then return none
  else if decimalValue digits < Nat.pow 2 32 then return some (decimalValue digits)
  else failure

def decimal : Scanner Nat := do
  match ← decimal? with
  | some n => return n
  | none => failure

def bounds : Scanner (Nat × Option Nat) := do
  advance
  let least? ← decimal?
  let range ← match least?, ← here with
    | some least, ',' => do
        advance
        if (← here) = '\x7d' then pure (least, none)
        else pure (least, some (← decimal))
    | some least, _ => pure (least, some least)
    | none, _ => failure
  unless (← here) = '\x7d' do failure
  advance
  if range.2.any (· < range.1) then failure
  return range

def hexValue? (c : Char) : Option Nat :=
  if c.isDigit then some (c.toNat - '0'.toNat)
  else if 'a' ≤ c.toLower ∧ c.toLower ≤ 'f' then some (c.toLower.toNat - 'a'.toNat + 10)
  else none

def charOf? (hex : List Char) : Option Char := do
  let digits ← hex.mapM hexValue?
  let n := digits.foldl (16 * · + ·) 0
  if n.isValidChar then some (Char.ofNat n) else none

def fixedHex : Nat → Scanner (List Char)
  | 0 => return []
  | count + 1 => do
      let c ← here
      advance
      return c :: (← fixedHex count)

inductive Atom where
  | literal (c : Char) (byteEscape : Bool)
  | set (s : CharSet)
  | look (l : Look)

-- A character given by number, after its `x`, `u` or `U`: in braces, or with `count` digits. The
-- number of two digits without braces is that of a byte.
def hexChar (count : Nat) : Scanner Atom := do
  advance
  let braced := (← here) = '\x7b'
  let hex ←
    if braced then do
      advance
      let hex ← takeWhile (· != '\x7d')
      unless (← here) = '\x7d' do failure
      advance
      if hex.isEmpty then failure
      pure hex
    else fixedHex count
  match charOf? hex with
  | some c => return .literal c (!braced && count == 2)
  | none => failure

def asciiDigit : CharSet := .range '0' '9'

def asciiBlank : CharSet := .union (.range '\t' '\r') (.only ' ')

def asciiWord : CharSet :=
  .union asciiDigit (.union (.range 'A' 'Z') (.union (.range 'a' 'z') (.only '_')))

def wordSet (f : Flags) : CharSet :=
  if f.scripts then .word else asciiWord

def foldedBy (f : Flags) (s : CharSet) : CharSet :=
  if !f.ignoreCase then s else if f.scripts then .folded s else .foldedAscii s

def letterClass (scripted ascii : CharSet) (negated : Bool) : Scanner Atom := do
  if (← get).flags.scripts then
    return .set (if negated then .compl scripted else scripted)
  else if negated then failure
  else return .set ascii

def propertyClass (negated : Bool) : Scanner Atom := do
  advance
  let expression ←
    if (← here) = '\x7b' then do
      advance
      let name ← takeWhile (· != '\x7d')
      unless (← here) = '\x7d' do failure
      step
      pure name
    else do
      let c ← here
      if c = '\\' then failure
      advance
      pure [c]
  let f := (← get).flags
  unless f.scripts do failure
  match CharProperty.ofExpression? expression with
  | some (complement, s) =>
      let s := foldedBy f s
      return .set (if negated != complement then .compl s else s)
  | none => failure

def edgeName? : Scanner (Option (List Char)) := do
  let start ← get
  advance
  let isNameChar (c : Char) : Bool := c.isAlpha || c == '-'
  if isNameChar (← here) then
    let name ← takeWhile isNameChar
    unless (← here) = '\x7d' do failure
    step
    return some name
  else
    set start
    return none

def wordEdgeAtom : Scanner Atom := do
  let w := wordSet (← get).flags
  if (← peek?) = some '\x7b' then
    match ← edgeName? with
    | none => return .look (.wordEdge w)
    | some name =>
        match String.ofList name with
        | "start" => return .look (.wordStart w)
        | "end" => return .look (.wordEnd w)
        | "start-half" => return .look (.noWordBefore w)
        | "end-half" => return .look (.noWordAfter w)
        | _ => failure
  else return .look (.wordEdge w)

def isEscapable (c : Char) : Bool :=
  c.toNat < 128 && !c.isAlphanum && c != '<' && c != '>'

def escape : Scanner Atom := do
  step
  let c ← here
  let w := wordSet (← get).flags
  match c with
  | 'x' => hexChar 2
  | 'u' => hexChar 4
  | 'U' => hexChar 8
  | 'p' => propertyClass false
  | 'P' => propertyClass true
  | 'd' => step; letterClass .digit asciiDigit false
  | 'D' => step; letterClass .digit asciiDigit true
  | 's' => step; letterClass .blank asciiBlank false
  | 'S' => step; letterClass .blank asciiBlank true
  | 'w' => step; letterClass .word asciiWord false
  | 'W' => step; letterClass .word asciiWord true
  | 'a' => step; return .literal '\x07' false
  | 'f' => step; return .literal '\x0c' false
  | 't' => step; return .literal '\t' false
  | 'n' => step; return .literal '\n' false
  | 'r' => step; return .literal '\r' false
  | 'v' => step; return .literal '\x0b' false
  | 'A' => step; return .look .textStart
  | 'z' => step; return .look .textEnd
  | 'b' => step; wordEdgeAtom
  | 'B' => step; return .look (.noWordEdge w)
  | '<' => step; return .look (.wordStart w)
  | '>' => step; return .look (.wordEnd w)
  | c =>
      if isEscapable c then
        step
        return .literal c false
      else failure

end DatabaseSchema.Pattern
