import DatabaseSchema.Pattern.Scan

namespace DatabaseSchema.Pattern

inductive SetOp where
  | inter
  | diff
  | symmDiff
  deriving DecidableEq, Repr

-- Without `scripts` a set in brackets holds characters below 256 and may in the end hold ASCII
-- only.
def beyondAscii (s : CharSet) : Bool :=
  (List.range 128).any fun n => s.has (Char.ofNat (128 + n))

def SetOp.apply (f : Flags) (op : SetOp) (a b : CharSet) : CharSet :=
  let a := foldedBy f a
  let b := foldedBy f b
  match op with
  | inter => .inter a b
  | diff => .diff a b
  | symmDiff => .union (.diff a b) (.diff b a)

def namedClass? : List Char → Option CharSet
  | ['a', 'l', 'n', 'u', 'm'] => some (.diff asciiWord (.only '_'))
  | ['a', 'l', 'p', 'h', 'a'] => some (.union (.range 'A' 'Z') (.range 'a' 'z'))
  | ['a', 's', 'c', 'i', 'i'] => some (.range '\x00' '\x7f')
  | ['b', 'l', 'a', 'n', 'k'] => some (.union (.only '\t') (.only ' '))
  | ['c', 'n', 't', 'r', 'l'] => some (.union (.range '\x00' '\x1f') (.only '\x7f'))
  | ['d', 'i', 'g', 'i', 't'] => some asciiDigit
  | ['g', 'r', 'a', 'p', 'h'] => some (.range '!' '~')
  | ['l', 'o', 'w', 'e', 'r'] => some (.range 'a' 'z')
  | ['p', 'r', 'i', 'n', 't'] => some (.range ' ' '~')
  | ['p', 'u', 'n', 'c', 't'] => some (.diff (.range '!' '~') (.diff asciiWord (.only '_')))
  | ['s', 'p', 'a', 'c', 'e'] => some asciiBlank
  | ['u', 'p', 'p', 'e', 'r'] => some (.range 'A' 'Z')
  | ['w', 'o', 'r', 'd'] => some asciiWord
  | ['x', 'd', 'i', 'g', 'i', 't'] =>
      some (.union asciiDigit (.union (.range 'A' 'F') (.range 'a' 'f')))
  | _ => none

def namedClass : Scanner (Option CharSet) := do
  let start ← get
  match start.rest with
  | '[' :: ':' :: rest =>
      let (negated, rest) := match rest with
        | '^' :: rest => (true, rest)
        | rest => (false, rest)
      match namedClass? (rest.takeWhile (· != ':')), rest.dropWhile (· != ':') with
      | some s, ':' :: ']' :: rest =>
          set { start with rest := rest }
          if negated && !start.flags.scripts then failure
          let s := foldedBy start.flags s
          return some (if negated then .compl s else s)
      | _, _ => return none
  | _ => return none

def classAtom : Scanner Atom := do
  let c ← here
  if c = '\\' then escape
  else
    step
    return .literal c false

def classLiteral : Atom → Scanner Char
  | .literal c byteEscape => do
      if (← get).flags.scripts || c.toNat < 128 || byteEscape then return c else failure
  | _ => failure

def peekPast? : Scanner (Option Char) := do
  let s ← get
  let rest := s.rest.drop 1
  return (if s.flags.spaced then withoutSpace false rest else rest).head?

def classRange : Scanner CharSet := do
  let first ← classAtom
  skipSpace
  let afterNext ← peekPast?
  if (← here) ≠ '-' ∨ afterNext = some ']' ∨ afterNext = some '-' then
    match first with
    | .set s => return s
    | first => return .only (← classLiteral first)
  else
    advance
    let first ← classLiteral first
    let last ← classLiteral (← classAtom)
    if first ≤ last then return .range first last else failure

def leadingHyphens : Nat → CharSet → Scanner CharSet
  | 0, s => return s
  | fuel + 1, s => do
      if (← here) = '-' then
        advance
        leadingHyphens fuel (.union s (.only '-'))
      else return s

structure OpenSet where
  left : Option (SetOp × CharSet)
  items : CharSet

def OpenSet.close (f : Flags) (o : OpenSet) : CharSet :=
  match o.left with
  | some (op, left) => op.apply f left o.items
  | none => o.items

mutual

def bracket : Nat → Scanner (CharSet × Nat)
  | 0 => failure
  | fuel + 1 => do
      advance
      let negated := (← here) = '^'
      if negated then advance
      let hyphens ← leadingHyphens (← get).rest.length .none
      let items ←
        if hyphens == CharSet.none && (← here) = ']' then do
          advance
          pure (CharSet.only ']')
        else pure hyphens
      let (s, depth) ← bracketItems fuel ⟨none, items⟩ 0
      let f := (← get).flags
      let s := foldedBy f s
      let s := if negated then .compl s else s
      if !f.scripts && beyondAscii s then failure
      return (s, depth + 1)

def bracketItems : Nat → OpenSet → Nat → Scanner (CharSet × Nat)
  | 0, _, _ => failure
  | fuel + 1, o, depth => do
      skipSpace
      let f := (← get).flags
      let add (s : CharSet) : OpenSet := { o with items := .union o.items s }
      match (← get).rest with
      | [] => failure
      | ']' :: _ =>
          step
          return (o.close f, depth)
      | '[' :: _ =>
          match ← namedClass with
          | some s => bracketItems fuel (add s) depth
          | none =>
              let (s, inner) ← bracket fuel
              bracketItems fuel (add s) (max depth inner)
      | '&' :: '&' :: _ => step; step; bracketItems fuel ⟨some (.inter, o.close f), .none⟩ depth
      | '-' :: '-' :: _ => step; step; bracketItems fuel ⟨some (.diff, o.close f), .none⟩ depth
      | '~' :: '~' :: _ =>
          step; step; bracketItems fuel ⟨some (.symmDiff, o.close f), .none⟩ depth
      | _ => bracketItems fuel (add (← classRange)) depth

end

end DatabaseSchema.Pattern
