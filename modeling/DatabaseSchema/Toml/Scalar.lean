import DatabaseSchema.Text
import DatabaseSchema.Toml

namespace DatabaseSchema.Toml

def plainDigits? (isDigit : Char → Bool) (cs : List Char) : Option (List Char) :=
  let rec go (afterDigit : Bool) : List Char → Option (List Char)
    | [] => if afterDigit then some [] else none
    | '_' :: rest => if afterDigit then go false rest else none
    | c :: rest => if isDigit c then (go true rest).map (c :: ·) else none
  go false cs

def digitIn (base : Nat) (c : Char) : Bool :=
  let value :=
    if c.isDigit then c.toNat - '0'.toNat
    else if c.isAlpha then c.toLower.toNat - 'a'.toNat + 10
    else 36
  value < base

def digitValue (c : Char) : Nat :=
  if c.isDigit then c.toNat - '0'.toNat else c.toLower.toNat - 'a'.toNat + 10

def natural? (base : Nat) (cs : List Char) : Option Nat := do
  let digits ← plainDigits? (digitIn base) cs
  return digits.foldl (fun n c => base * n + digitValue c) 0

def wholeDigits? (cs : List Char) : Option Nat :=
  match cs with
  | ['0'] => some 0
  | '0' :: _ => none
  | cs => natural? 10 cs

def integerOf? (negative : Bool) (n : Nat) : Option Toml :=
  let value : Int := if negative then -(n : Int) else n
  if -(Nat.pow 2 127 : Int) ≤ value ∧ value < Nat.pow 2 128 then some (.integer value) else none

def dropSign : List Char → List Char
  | '+' :: cs | '-' :: cs => cs
  | cs => cs

def tooLarge : Nat := Nat.pow 2 1024 - Nat.pow 2 970

def isBounded (m digits : Nat) (e : Int) : Bool :=
  if m = 0 ∨ e + digits ≤ 300 then true
  else if 310 < e then false
  else if 0 ≤ e then m * Nat.pow 10 e.toNat < tooLarge
  else m < tooLarge * Nat.pow 10 (-e).toNat

def isExponentMark (c : Char) : Bool := c == 'e' || c == 'E'

def exponent? : List Char → Option Int
  | [] => some 0
  | _ :: cs => (natural? 10 (dropSign cs)).map fun n => if cs.head? = some '-' then -(n : Int) else n

def fraction? : List Char → Option (List Char)
  | [] => some []
  | _ :: cs => plainDigits? Char.isDigit cs

def isFloat (cs : List Char) : Bool :=
  let mantissa := cs.takeWhile (!isExponentMark ·)
  let mark := cs.dropWhile (!isExponentMark ·)
  let point := mantissa.dropWhile (· != '.')
  match wholeDigits? (mantissa.takeWhile (· != '.')), fraction? point, exponent? mark with
  | some whole, some fraction, some exponent =>
      let m := fraction.foldl (fun n c => 10 * n + digitValue c) whole
      !(point.isEmpty && mark.isEmpty)
        && isBounded m mantissa.length (exponent - fraction.length)
  | _, _, _ => false

def number? (cs : List Char) : Option Toml :=
  match cs with
  | '0' :: 'x' :: digits => (natural? 16 digits).bind (integerOf? false)
  | '0' :: 'o' :: digits => (natural? 8 digits).bind (integerOf? false)
  | '0' :: 'b' :: digits => (natural? 2 digits).bind (integerOf? false)
  | cs =>
      let unsigned := dropSign cs
      match wholeDigits? unsigned with
      | some n => integerOf? (cs.head? == some '-') n
      | none =>
          if isFloat unsigned || unsigned == ['i', 'n', 'f'] || unsigned == ['n', 'a', 'n'] then
            some .float
          else none

def fixedDigits? (count : Nat) (cs : List Char) : Option (Nat × List Char) :=
  let digits := cs.take count
  if digits.length = count then
    (Text.natural? digits).map fun n => (n, cs.drop count)
  else none

def expect? (c : Char) : List Char → Option (List Char)
  | d :: rest => if c = d then some rest else none
  | [] => none

def isLeapYear (year : Nat) : Bool :=
  year % 4 == 0 && (year % 100 != 0 || year % 400 == 0)

def daysInMonth (year month : Nat) : Nat :=
  match month with
  | 2 => if isLeapYear year then 29 else 28
  | 4 | 6 | 9 | 11 => 30
  | _ => 31

def afterDate? (cs : List Char) : Option (List Char) := do
  let (year, rest) ← fixedDigits? 4 cs
  let rest ← expect? '-' rest
  let (month, rest) ← fixedDigits? 2 rest
  let rest ← expect? '-' rest
  let (day, rest) ← fixedDigits? 2 rest
  if 1 ≤ month ∧ month ≤ 12 ∧ 1 ≤ day ∧ day ≤ daysInMonth year month then some rest else none

def afterTime? (cs : List Char) : Option (List Char) := do
  let (hour, rest) ← fixedDigits? 2 cs
  let rest ← expect? ':' rest
  let (minute, rest) ← fixedDigits? 2 rest
  if hour ≤ 23 ∧ minute ≤ 59 then
    match rest with
    | ':' :: rest =>
        let (second, rest) ← fixedDigits? 2 rest
        if 60 < second then none
        else
          match rest with
          | '.' :: rest =>
              let fraction := rest.takeWhile Char.isDigit
              if fraction.isEmpty then none else some (rest.dropWhile Char.isDigit)
          | rest => some rest
    | rest => some rest
  else none

def isOffset (cs : List Char) : Bool :=
  match cs with
  | [] | ['Z'] | ['z'] => true
  | sign :: rest =>
      (sign == '+' || sign == '-') &&
        match (do
          let (hour, rest) ← fixedDigits? 2 rest
          let rest ← expect? ':' rest
          let (minute, rest) ← fixedDigits? 2 rest
          return hour ≤ 23 && minute ≤ 59 && rest.isEmpty : Option Bool) with
        | some fine => fine
        | none => false

def isMoment (cs : List Char) : Bool :=
  match afterDate? cs with
  | some [] => true
  | some (c :: rest) =>
      (c == 'T' || c == 't' || c == ' ') && ((afterTime? rest).any isOffset)
  | none => (afterTime? cs).any (·.isEmpty)

def scalar? (cs : List Char) : Option Toml :=
  if cs == ['t', 'r', 'u', 'e'] then some (.boolean true)
  else if cs == ['f', 'a', 'l', 's', 'e'] then some (.boolean false)
  else if isMoment cs then some .moment
  else number? cs

end DatabaseSchema.Toml
