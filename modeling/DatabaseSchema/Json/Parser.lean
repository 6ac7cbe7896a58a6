import DatabaseSchema.Json

namespace DatabaseSchema.Json

def isSpace (c : Char) : Bool :=
  c == ' ' || c == '\n' || c == '\t' || c == '\r'

def skipSpace (cs : List Char) : List Char :=
  cs.dropWhile isSpace

def hexValue? (c : Char) : Option Nat :=
  if '0' ≤ c ∧ c ≤ '9' then some (c.toNat - '0'.toNat)
  else if 'a' ≤ c ∧ c ≤ 'f' then some (c.toNat - 'a'.toNat + 10)
  else if 'A' ≤ c ∧ c ≤ 'F' then some (c.toNat - 'A'.toNat + 10)
  else none

def escapedUnit? (a b c d : Char) : Option Nat := do
  let a ← hexValue? a
  let b ← hexValue? b
  let c ← hexValue? c
  let d ← hexValue? d
  some (((a * 16 + b) * 16 + c) * 16 + d)

def shortEscape? : Char → Option Char
  | '"' => some '"'
  | '\\' => some '\\'
  | '/' => some '/'
  | 'b' => some '\x08'
  | 'f' => some '\x0c'
  | 'n' => some '\n'
  | 'r' => some '\r'
  | 't' => some '\t'
  | _ => none

def quotedUnits? : List Char → Option (List Nat × List Char)
  | [] => none
  | '"' :: rest => some ([], rest)
  | '\\' :: 'u' :: a :: b :: c :: d :: rest => do
      let u ← escapedUnit? a b c d
      let (units, rest) ← quotedUnits? rest
      some (u :: units, rest)
  | '\\' :: e :: rest => do
      let c ← shortEscape? e
      let (units, rest) ← quotedUnits? rest
      some (c.toNat :: units, rest)
  | c :: rest =>
      if c.toNat < 0x20 ∨ c = '\\' then none
      else do
        let (units, rest) ← quotedUnits? rest
        some (c.toNat :: units, rest)

def textOfUnits? : List Nat → Option (List Char)
  | [] => some []
  | [u] => if 0xd800 ≤ u ∧ u < 0xe000 then none else some [Char.ofNat u]
  | u :: v :: rest =>
      if 0xd800 ≤ u ∧ u < 0xdc00 ∧ 0xdc00 ≤ v ∧ v < 0xe000 then
        (textOfUnits? rest).map (Char.ofNat (0x10000 + (u - 0xd800) * 0x400 + (v - 0xdc00)) :: ·)
      else if 0xd800 ≤ u ∧ u < 0xe000 then none
      else (textOfUnits? (v :: rest)).map (Char.ofNat u :: ·)

def quotedText? (cs : List Char) : Option (Option String × List Char) := do
  let (units, rest) ← quotedUnits? cs
  some ((textOfUnits? units).map String.ofList, rest)

def objectOf (members : List (Option String × Json)) : Json :=
  match members.mapM fun m => m.1.map (·, m.2) with
  | some members => .object members
  | none => .broken

mutual

-- One value at the head of the text, without white space before it. Each call takes one unit of
-- fuel; the length of the text is enough.
def value? : Nat → List Char → Option (Json × List Char)
  | 0, _ => none
  | fuel + 1, cs =>
      match cs with
      | 'n' :: 'u' :: 'l' :: 'l' :: rest => some (.null, rest)
      | 't' :: 'r' :: 'u' :: 'e' :: rest => some (.bool true, rest)
      | 'f' :: 'a' :: 'l' :: 's' :: 'e' :: rest => some (.bool false, rest)
      | '"' :: rest => do
          let (s, rest) ← quotedText? rest
          some ((s.map Json.text).getD .broken, rest)
      | '[' :: rest =>
          match skipSpace rest with
          | ']' :: rest => some (.list [], rest)
          | rest => do
              let (items, rest) ← items? fuel rest
              some (.list items, rest)
      | '\x7b' :: rest =>
          match skipSpace rest with
          | '\x7d' :: rest => some (.object [], rest)
          | rest => do
              let (members, rest) ← members? fuel rest
              some (objectOf members, rest)
      | cs => do
          let (n, rest) ← numeral? cs
          some (n.value, rest)

def items? : Nat → List Char → Option (List Json × List Char)
  | 0, _ => none
  | fuel + 1, cs => do
      let (j, rest) ← value? fuel cs
      match skipSpace rest with
      | ',' :: rest =>
          let (items, rest) ← items? fuel (skipSpace rest)
          some (j :: items, rest)
      | ']' :: rest => some ([j], rest)
      | _ => none

def members? : Nat → List Char → Option (List (Option String × Json) × List Char)
  | 0, _ => none
  | fuel + 1, cs =>
      match cs with
      | '"' :: rest => do
          let (name, rest) ← quotedText? rest
          match skipSpace rest with
          | ':' :: rest =>
              let (j, rest) ← value? fuel (skipSpace rest)
              match skipSpace rest with
              | ',' :: rest =>
                  let (members, rest) ← members? fuel (skipSpace rest)
                  some ((name, j) :: members, rest)
              | '\x7d' :: rest => some ([(name, j)], rest)
              | _ => none
          | _ => none
      | _ => none

end

def parse? (s : String) : Option Json := do
  let (j, rest) ← value? (s.length + 1) (skipSpace s.toList)
  if (skipSpace rest).isEmpty then some j else none

mutual

def depth : Json → Nat
  | .list items => 1 + itemsDepth items
  | .object members => 1 + membersDepth members
  | _ => 0

def itemsDepth : List Json → Nat
  | [] => 0
  | j :: rest => max j.depth (itemsDepth rest)

def membersDepth : List (String × Json) → Nat
  | [] => 0
  | m :: rest => max m.2.depth (membersDepth rest)

end

mutual

def isReadable : Json → Bool
  | .broken => false
  | .decimal literal =>
      match numeral? literal.toList with
      | some (n, _) => n.isFinite
      | none => false
  | .list items => itemsReadable items
  | .object members => membersReadable members
  | _ => true

def itemsReadable : List Json → Bool
  | [] => true
  | j :: rest => j.isReadable && itemsReadable rest

def membersReadable : List (String × Json) → Bool
  | [] => true
  | m :: rest => m.2.isReadable && membersReadable rest

end

end DatabaseSchema.Json
