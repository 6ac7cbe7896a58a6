import DatabaseSchema.Toml.Scalar

namespace DatabaseSchema.Toml

def isPlain (c : Char) : Bool :=
  c == '\t' || (0x20 ≤ c.toNat && c.toNat != 0x7f)

def afterNewline? : List Char → Option (List Char)
  | '\n' :: rest => some rest
  | '\r' :: '\n' :: rest => some rest
  | _ => none

def isGap (c : Char) : Bool := c == ' ' || c == '\t'

def charOfHex? (digits : List Char) : Option Char := do
  let n := digits.foldl (fun n c => 16 * n + digitValue c) 0
  if digits.all (digitIn 16) && n.isValidChar then some (Char.ofNat n) else none

def escaped? : List Char → Option (Char × List Char)
  | 'b' :: rest => some ('\x08', rest)
  | 't' :: rest => some ('\t', rest)
  | 'n' :: rest => some ('\n', rest)
  | 'f' :: rest => some ('\x0c', rest)
  | 'r' :: rest => some ('\r', rest)
  | 'e' :: rest => some ('\x1b', rest)
  | '"' :: rest => some ('"', rest)
  | '\\' :: rest => some ('\\', rest)
  | 'x' :: a :: b :: rest => (charOfHex? [a, b]).map (·, rest)
  | 'u' :: a :: b :: c :: d :: rest => (charOfHex? [a, b, c, d]).map (·, rest)
  | 'U' :: a :: b :: c :: d :: e :: f :: g :: h :: rest =>
      (charOfHex? [a, b, c, d, e, f, g, h]).map (·, rest)
  | _ => none

abbrev QuotedPart := Option (List Char × List Char)

def basicLine : Nat → List Char → QuotedPart
  | 0, _ => none
  | _, [] => none
  | _, '"' :: rest => some ([], rest)
  | fuel + 1, '\\' :: rest => do
      let (c, rest) ← escaped? rest
      let (cs, rest) ← basicLine fuel rest
      return (c :: cs, rest)
  | fuel + 1, c :: rest =>
      if isPlain c then (basicLine fuel rest).map fun (cs, rest) => (c :: cs, rest) else none

def literalLine : List Char → QuotedPart
  | [] => none
  | '\'' :: rest => some ([], rest)
  | c :: rest =>
      if isPlain c then (literalLine rest).map fun (cs, rest) => (c :: cs, rest) else none

def closing (quote : Char) (cs : List Char) : Option (List Char × List Char) :=
  let quotes := cs.takeWhile (· == quote)
  if 3 ≤ quotes.length ∧ quotes.length ≤ 5 then
    some (quotes.drop 3, cs.drop quotes.length)
  else none

def afterContinuation? (cs : List Char) : Option (List Char) := do
  let rest ← afterNewline? (cs.dropWhile isGap)
  return rest.dropWhile fun c => isGap c || c == '\n' || c == '\r'

def basicLines : Nat → List Char → QuotedPart
  | 0, _ => none
  | _, [] => none
  | fuel + 1, c :: rest =>
      match c with
      | '"' =>
          match closing '"' (c :: rest) with
          | some part => some part
          | none =>
              if rest.take 2 == ['"', '"'] then none
              else (basicLines fuel rest).map fun (cs, rest) => ('"' :: cs, rest)
      | '\\' =>
          match afterContinuation? rest with
          | some rest => basicLines fuel rest
          | none => do
              let (c, rest) ← escaped? rest
              let (cs, rest) ← basicLines fuel rest
              return (c :: cs, rest)
      | '\r' =>
          if rest.head? = some '\n' then
            (basicLines fuel rest).map fun (cs, rest) => ('\r' :: cs, rest)
          else none
      | c =>
          if isPlain c || c == '\n' then
            (basicLines fuel rest).map fun (cs, rest) => (c :: cs, rest)
          else none

def literalLines : List Char → QuotedPart
  | [] => none
  | c :: rest =>
      match c with
      | '\'' =>
          match closing '\'' (c :: rest) with
          | some part => some part
          | none =>
              if rest.take 2 == ['\'', '\''] then none
              else (literalLines rest).map fun (cs, rest) => ('\'' :: cs, rest)
      | '\r' =>
          if rest.head? = some '\n' then
            (literalLines rest).map fun (cs, rest) => ('\r' :: cs, rest)
          else none
      | c =>
          if isPlain c || c == '\n' then
            (literalLines rest).map fun (cs, rest) => (c :: cs, rest)
          else none

def afterOpening (cs : List Char) : List Char := (afterNewline? cs).getD cs

def quotedLine : List Char → QuotedPart
  | '"' :: rest => basicLine (rest.length + 1) rest
  | '\'' :: rest => literalLine rest
  | _ => none

def quoted (cs : List Char) : QuotedPart :=
  match cs with
  | '"' :: '"' :: '"' :: rest =>
      let body := afterOpening rest
      basicLines (body.length + 1) body
  | '\'' :: '\'' :: '\'' :: rest => literalLines (afterOpening rest)
  | cs => quotedLine cs

end DatabaseSchema.Toml
