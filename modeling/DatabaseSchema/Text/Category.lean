import DatabaseSchema.Text.CategoryTable
import DatabaseSchema.Text.ScriptTable

namespace DatabaseSchema.Text

def digits (base : Nat) : Nat → Nat → List Nat
  | 0, _ => []
  | count + 1, n => if n = 0 then [] else n % base :: digits base count (n / base)

def unpack (base : Nat) (words : List Nat) : Array Nat :=
  (words.flatMap (digits base 12)).toArray

def countBelow (below : Nat → Bool) (a : Array Nat) : Nat → Nat → Nat
  | _, 0 => 0
  | lo, n + 1 =>
      let half := n / 2
      if below (a[lo + half]?.getD 0) then
        half + 1 + countBelow below a (lo + half + 1) (n - half)
      else
        countBelow below a lo half
  termination_by _ n => n
  decreasing_by all_goals omega

def inRanges (ranges : List (Nat × Nat)) (n : Nat) : Bool :=
  ranges.any fun r => r.1 ≤ n && n ≤ r.2

def blankRanges : List (Nat × Nat) :=
  [(0x9, 0xd), (0x20, 0x20), (0x85, 0x85), (0xa0, 0xa0), (0x1680, 0x1680), (0x2000, 0x200a),
    (0x2028, 0x2029), (0x202f, 0x202f), (0x205f, 0x205f), (0x3000, 0x3000)]

def isBlank (c : Char) : Bool :=
  inRanges blankRanges c.toNat

def trimEndChars (cs : List Char) : List Char :=
  (cs.reverse.dropWhile isBlank).reverse

def trimChars (cs : List Char) : List Char :=
  trimEndChars (cs.dropWhile isBlank)

def trim (s : String) : String :=
  String.ofList (trimChars s.toList)

inductive Category where
  | uppercaseLetter | lowercaseLetter | titlecaseLetter | modifierLetter | otherLetter
  | nonspacingMark | spacingMark | enclosingMark
  | decimalNumber | letterNumber | otherNumber
  | connectorPunctuation | dashPunctuation | openPunctuation | closePunctuation
  | initialPunctuation | finalPunctuation | otherPunctuation
  | mathSymbol | currencySymbol | modifierSymbol | otherSymbol
  | spaceSeparator | lineSeparator | paragraphSeparator
  | control | format | surrogate | privateUse | unassigned
  deriving DecidableEq, Repr

namespace Category

def all : List Category :=
  [.uppercaseLetter, .lowercaseLetter, .titlecaseLetter, .modifierLetter, .otherLetter,
    .nonspacingMark, .spacingMark, .enclosingMark, .decimalNumber, .letterNumber, .otherNumber,
    .connectorPunctuation, .dashPunctuation, .openPunctuation, .closePunctuation,
    .initialPunctuation, .finalPunctuation, .otherPunctuation, .mathSymbol, .currencySymbol,
    .modifierSymbol, .otherSymbol, .spaceSeparator, .lineSeparator, .paragraphSeparator,
    .control, .format, .surrogate, .privateUse, .unassigned]

def isLetter : Category → Bool
  | .uppercaseLetter | .lowercaseLetter | .titlecaseLetter | .modifierLetter | .otherLetter => true
  | _ => false

def isMark : Category → Bool
  | .nonspacingMark | .spacingMark | .enclosingMark => true
  | _ => false

def isNumber : Category → Bool
  | .decimalNumber | .letterNumber | .otherNumber => true
  | _ => false

def isPunctuation : Category → Bool
  | .connectorPunctuation | .dashPunctuation | .openPunctuation | .closePunctuation
  | .initialPunctuation | .finalPunctuation | .otherPunctuation => true
  | _ => false

def isSymbol : Category → Bool
  | .mathSymbol | .currencySymbol | .modifierSymbol | .otherSymbol => true
  | _ => false

def isSeparator : Category → Bool
  | .spaceSeparator | .lineSeparator | .paragraphSeparator => true
  | _ => false

def isOther : Category → Bool
  | .control | .format | .surrogate | .privateUse | .unassigned => true
  | _ => false

end Category

def categoryStartArray : Array Nat := unpack (Nat.pow 2 26) categoryStarts

def furtherAlphabeticArray : Array Nat := unpack (Nat.pow 2 21) furtherAlphabeticFlips

def category (c : Char) : Category :=
  let starts := categoryStartArray
  let i := countBelow (fun entry => entry / 32 ≤ c.toNat) starts 0 starts.size
  (Category.all[starts[i - 1]?.getD 29 % 32]?).getD .unassigned

def isFurtherAlphabetic (c : Char) : Bool :=
  let flips := furtherAlphabeticArray
  countBelow (· ≤ c.toNat) flips 0 flips.size % 2 == 1

def isAlphabetic (c : Char) : Bool :=
  if c.toNat < 128 then c.isAlpha
  else (category c).isLetter || category c == .letterNumber || isFurtherAlphabetic c

def isNumeric (c : Char) : Bool :=
  if c.toNat < 128 then c.isDigit else (category c).isNumber

def isAlphanumeric (c : Char) : Bool :=
  isAlphabetic c || isNumeric c

def isDecimalDigit (c : Char) : Bool :=
  if c.toNat < 128 then c.isDigit else category c == .decimalNumber

def isWord (c : Char) : Bool :=
  if c.toNat < 128 then c.isAlphanum || c == '_'
  else isAlphabetic c || (category c).isMark || category c == .decimalNumber
    || category c == .connectorPunctuation || c == '\u200c' || c == '\u200d'

def isLowercase (c : Char) : Bool :=
  category c == .lowercaseLetter || inRanges furtherLowercase c.toNat

def isUppercase (c : Char) : Bool :=
  category c == .uppercaseLetter || inRanges furtherUppercase c.toNat

def isCased (c : Char) : Bool :=
  match category c with
  | .uppercaseLetter | .lowercaseLetter | .titlecaseLetter => true
  | _ => inRanges furtherCased c.toNat

def ignorablePunctuation : List Char :=
  "'.:\u00b7\u0387\u055f\u05f4\u2018\u2019\u2024\u2027\ufe13\ufe52\ufe55\uff07\uff0e\uff1a".toList

def isCaseIgnorable (c : Char) : Bool :=
  match category c with
  | .nonspacingMark | .enclosingMark | .format | .modifierLetter | .modifierSymbol => true
  | _ => ignorablePunctuation.contains c

def extendsGrapheme (c : Char) : Bool :=
  match category c with
  | .nonspacingMark | .enclosingMark => true
  | _ => inRanges furtherGraphemeExtend c.toNat

def isPrintable (c : Char) : Bool :=
  c == ' ' || !((category c).isOther || (category c).isSeparator)

def scriptStartArray : Array Nat := unpack (Nat.pow 2 29) scriptStarts

def script (c : Char) : Nat :=
  let starts := scriptStartArray
  let i := countBelow (fun entry => entry / 256 ≤ c.toNat) starts 0 starts.size
  starts[i - 1]?.getD 0 % 256

def emojiArray : Array Nat := unpack (Nat.pow 2 21) emojiFlips

def isEmoji (c : Char) : Bool :=
  let flips := emojiArray
  countBelow (· ≤ c.toNat) flips 0 flips.size % 2 == 1

def mathArray : Array Nat := unpack (Nat.pow 2 21) mathFlips

def isMath (c : Char) : Bool :=
  let flips := mathArray
  countBelow (· ≤ c.toNat) flips 0 flips.size % 2 == 1

end DatabaseSchema.Text
