import DatabaseSchema.Text.CaseTable
import DatabaseSchema.Text.Category

namespace DatabaseSchema.Text

def digitValue (c : Char) : Nat := c.toNat - '0'.toNat

def naturalOf (digits : List Char) : Nat :=
  digits.foldl (fun n c => 10 * n + digitValue c) 0

def natural? (cs : List Char) : Option Nat :=
  if !cs.isEmpty && cs.all Char.isDigit then some (naturalOf cs) else none

def integer? : List Char → Option Int
  | '+' :: cs => (natural? cs).map Int.ofNat
  | '-' :: cs => (natural? cs).map fun n => -(Int.ofNat n)
  | cs => (natural? cs).map Int.ofNat

def narrow? (n : Int) : Option Int32 :=
  if -2147483648 ≤ n ∧ n < 2147483648 then some (Int32.ofInt n) else none

def int32? (cs : List Char) : Option Int32 := do
  narrow? (← integer? cs)

def splitOn (sep : Char) : List Char → List (List Char)
  | [] => [[]]
  | c :: cs =>
      if c = sep then [] :: splitOn sep cs
      else
        match splitOn sep cs with
        | [] => [[c]]
        | part :: parts => (c :: part) :: parts

def splitFirst? (sep : Char) : List Char → Option (List Char × List Char)
  | [] => none
  | c :: cs =>
      if c = sep then some ([], cs)
      else (splitFirst? sep cs).map fun (a, b) => (c :: a, b)

def containsPart (part : List Char) : List Char → Bool
  | [] => part.isEmpty
  | c :: cs => part.isPrefixOf (c :: cs) || containsPart part cs

def contains (s part : String) : Bool :=
  containsPart part.toList s.toList

def sameAscii (a b : String) : Bool :=
  a.map Char.toLower == b.map Char.toLower

def hexDigits (n : Nat) : List Char := Nat.toDigits 16 n

def quotedChar (c : Char) : List Char :=
  match c with
  | '\x00' => ['\\', '0']
  | '\t' => ['\\', 't']
  | '\r' => ['\\', 'r']
  | '\n' => ['\\', 'n']
  | '"' => ['\\', '"']
  | '\\' => ['\\', '\\']
  | c =>
      if isPrintable c && !extendsGrapheme c then [c]
      else ['\\', 'u', '\x7b'] ++ hexDigits c.toNat ++ ['\x7d']

def quoted (s : String) : String :=
  String.ofList ('"' :: s.toList.flatMap quotedChar ++ ['"'])

def quotedList (names : List String) : String :=
  "[" ++ ", ".intercalate (names.map quoted) ++ "]"

def CaseRun.covers (r : CaseRun) (n : Nat) : Bool :=
  r.first ≤ n && n ≤ r.last && (n - r.first) % r.step == 0

def CaseRun.image (r : CaseRun) (n : Nat) : Nat :=
  (n + r.shift).toNat

def mapByRuns (runs : List CaseRun) (c : Char) : Char :=
  match runs.find? (·.covers c.toNat) with
  | some r => Char.ofNat (r.image c.toNat)
  | none => c

def upperChar (c : Char) : List Char :=
  if c.toNat < 128 then [c.toUpper]
  else
    match upperExpansions.lookup c.toNat with
    | some cs => cs.map Char.ofNat
    | none => [mapByRuns upperRuns c]

def upper (s : String) : String :=
  String.ofList (s.toList.flatMap upperChar)

def lowerChar (c : Char) : List Char :=
  if c.toNat < 128 then [c.toLower]
  else if c = '\u0130' then ['i', '\u0307']
  else [mapByRuns lowerRuns c]

def beginsCased (cs : List Char) : Bool :=
  match cs.dropWhile isCaseIgnorable with
  | [] => false
  | c :: _ => isCased c

-- Lower case of `rest`, the characters of `before` standing in front of it, nearest first. A
-- capital sigma that ends a word becomes the final small sigma.
def lowerAfter : List Char → List Char → List Char
  | _, [] => []
  | before, c :: rest =>
      let small :=
        if c = 'Σ' then [if beginsCased before && !beginsCased rest then 'ς' else 'σ']
        else lowerChar c
      small ++ lowerAfter (c :: before) rest

def lower (s : String) : String :=
  String.ofList (lowerAfter [] s.toList)

def fold (c : Char) : Char :=
  if c.toNat < 128 then c.toLower
  else
    match foldRuns.find? (·.covers c.toNat) with
    | some r => Char.ofNat (r.image c.toNat)
    | none => mapByRuns lowerRuns c

def CaseRun.preimage (r : CaseRun) (n : Nat) : Option Nat :=
  let m := (n - r.shift).toNat
  if r.covers m && r.image m == n then some m else none

def caseVariants (c : Char) : List Char :=
  let small := fold c
  let sources := (foldRuns ++ lowerRuns).filterMap (·.preimage small.toNat)
  (c :: small :: small.toUpper :: sources.map Char.ofNat).filter (fold · == small)

end DatabaseSchema.Text

namespace DatabaseSchema

def nameKey (name : String) : String :=
  Text.upper name

def sameName (a b : String) : Bool :=
  a.toList.flatMap Text.upperChar == b.toList.flatMap Text.upperChar

theorem sameName_iff {a b : String} : sameName a b = true ↔ nameKey a = nameKey b := by
  simp [sameName, nameKey, Text.upper, String.ofList_inj]

end DatabaseSchema
