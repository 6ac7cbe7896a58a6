namespace DatabaseSchema

-- A number is `integer` if it is written without fraction and exponent, is not `-0`, and fits
-- into 64 bits, signed or unsigned; any other number keeps its digits. A `broken` value is well
-- formed but holds half of a surrogate pair, so it stands for no text: it may only be skipped.
inductive Json where
  | null
  | bool (b : Bool)
  | integer (n : Int)
  | decimal (literal : String)
  | text (s : String)
  | list (items : List Json)
  | object (members : List (String × Json))
  | broken
  deriving Repr

namespace Json

def int? : Json → Option Int
  | .integer n => some n
  | _ => none

def bool? : Json → Option Bool
  | .bool b => some b
  | _ => none

def text? : Json → Option String
  | .text s => some s
  | _ => none

def list? : Json → Option (List Json)
  | .list items => some items
  | _ => none

def texts? (j : Json) : Option (List String) := do
  (← j.list?).mapM text?

def int32? (j : Json) : Option Int32 := do
  let n ← j.int?
  if -2147483648 ≤ n ∧ n < 2147483648 then some (Int32.ofInt n) else none

def int64? (j : Json) : Option Int64 := do
  let n ← j.int?
  if -9223372036854775808 ≤ n ∧ n < 9223372036854775808 then some (Int64.ofInt n) else none

def sole? (members : List (String × Json)) (name : String) : Option Json :=
  match members.filter (·.1 == name) with
  | [m] => some m.2
  | _ => none

def record? (names : List String) : Json → Option (List Json)
  | .list items => if items.length = names.length then some items else none
  | .object members => names.mapM (sole? members)
  | _ => none

end Json

end DatabaseSchema

namespace DatabaseSchema.Json

structure Numeral where
  negative : Bool
  whole : List Char
  fraction : List Char
  exponent : Option (Bool × List Char)
  literal : String

def spanDigits (cs : List Char) : List Char × List Char :=
  cs.span Char.isDigit

def naturalOf (digits : List Char) : Nat :=
  digits.foldl (fun n c => 10 * n + (c.toNat - '0'.toNat)) 0

def wholePart? (cs : List Char) : Option (List Char × List Char) :=
  match spanDigits cs with
  | ([], _) => none
  | (['0'], rest) => some (['0'], rest)
  | ('0' :: _, _) => none
  | (digits, rest) => some (digits, rest)

def fractionPart? : List Char → Option (List Char × List Char)
  | '.' :: rest =>
      match spanDigits rest with
      | ([], _) => none
      | (digits, rest) => some (digits, rest)
  | rest => some ([], rest)

def exponentDigits? (negative : Bool) (cs : List Char) :
    Option (Option (Bool × List Char) × List Char) :=
  match spanDigits cs with
  | ([], _) => none
  | (digits, rest) => some (some (negative, digits), rest)

def exponentPart? : List Char → Option (Option (Bool × List Char) × List Char)
  | 'e' :: rest | 'E' :: rest =>
      match rest with
      | '+' :: rest => exponentDigits? false rest
      | '-' :: rest => exponentDigits? true rest
      | rest => exponentDigits? false rest
  | rest => some (none, rest)

def numeral? (cs : List Char) : Option (Numeral × List Char) := do
  let (negative, unsigned) := match cs with
    | '-' :: rest => (true, rest)
    | rest => (false, rest)
  let (whole, rest) ← wholePart? unsigned
  let (fraction, rest) ← fractionPart? rest
  let (exponent, rest) ← exponentPart? rest
  let literal := String.ofList (cs.take (cs.length - rest.length))
  some (⟨negative, whole, fraction, exponent, literal⟩, rest)

def Numeral.value (n : Numeral) : Json :=
  let magnitude : Int := naturalOf n.whole
  let signed := if n.negative then -magnitude else magnitude
  if n.fraction.isEmpty && n.exponent.isNone && !(n.negative && magnitude == 0)
      && -9223372036854775808 ≤ signed && signed < 18446744073709551616 then
    .integer signed
  else
    .decimal n.literal

-- Whether the number rounds to a finite double: a number of `k` digits before the point, once the
-- exponent is applied, is at least `10 ^ (k - 1)`.
def Numeral.isFinite (n : Numeral) : Bool :=
  let digits := n.whole ++ n.fraction
  let significand := naturalOf digits
  let exponent : Int := match n.exponent with
    | none => 0
    | some (negative, ds) => if negative then -(naturalOf ds : Int) else naturalOf ds
  let shift := exponent - n.fraction.length
  let bound := Nat.pow 2 1024 - Nat.pow 2 970
  if significand = 0 then true
  else if shift ≤ 0 then
    -- a shift beyond the count of digits leaves a number below one
    (-shift).toNat > digits.length || significand < bound * Nat.pow 10 (-shift).toNat
  else shift ≤ 400 && significand * Nat.pow 10 shift.toNat < bound

def hexDigit (n : Nat) : Char :=
  if n < 10 then Char.ofNat ('0'.toNat + n) else Char.ofNat ('a'.toNat + n - 10)

def escapedChar (c : Char) : List Char :=
  match c with
  | '"' => ['\\', '"']
  | '\\' => ['\\', '\\']
  | '\x08' => ['\\', 'b']
  | '\x0c' => ['\\', 'f']
  | '\n' => ['\\', 'n']
  | '\r' => ['\\', 'r']
  | '\t' => ['\\', 't']
  | c =>
      if c.toNat < 0x20 then
        ['\\', 'u', '0', '0', hexDigit (c.toNat / 16), hexDigit (c.toNat % 16)]
      else [c]

def quoteChars (s : String) : List Char :=
  '"' :: s.toList.flatMap escapedChar ++ ['"']

def quote (s : String) : String :=
  String.ofList (quoteChars s)

def indentation (level : Nat) : String :=
  "\n" ++ String.ofList (List.replicate (2 * level) ' ')

structure Layout where
  newline : Nat → String
  colon : String

def Layout.compact : Layout := ⟨fun _ => "", ":"⟩

def Layout.indented : Layout := ⟨indentation, ": "⟩

mutual

def write (l : Layout) (level : Nat) : Json → String
  | .null => "null"
  | .bool b => if b then "true" else "false"
  | .integer n => toString n
  | .decimal literal => literal
  | .text s => quote s
  | .list [] => "[]"
  | .list (j :: rest) =>
      "[" ++ l.newline (level + 1) ++ write l (level + 1) j ++ writeItems l (level + 1) rest
        ++ l.newline level ++ "]"
  | .object [] => "\x7b\x7d"
  | .object (m :: rest) =>
      "\x7b" ++ l.newline (level + 1) ++ quote m.1 ++ l.colon ++ write l (level + 1) m.2
        ++ writeMembers l (level + 1) rest ++ l.newline level ++ "\x7d"
  | .broken => "\"\\ud800\""

def writeItems (l : Layout) (level : Nat) : List Json → String
  | [] => ""
  | j :: rest => "," ++ l.newline level ++ write l level j ++ writeItems l level rest

def writeMembers (l : Layout) (level : Nat) : List (String × Json) → String
  | [] => ""
  | m :: rest =>
      "," ++ l.newline level ++ quote m.1 ++ l.colon ++ write l level m.2
        ++ writeMembers l level rest

end

def compact (j : Json) : String := write .compact 0 j

def pretty (j : Json) : String := write .indented 0 j

end DatabaseSchema.Json
