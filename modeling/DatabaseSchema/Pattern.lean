import DatabaseSchema.Text
import DatabaseSchema.Text.Category

namespace DatabaseSchema

inductive CharProperty where
  | alphabetic | uppercase | lowercase | cased | caseIgnorable | graphemeExtend | emoji | math
  | categories (cs : List Text.Category)
  | script (place : Nat)
  deriving DecidableEq, Repr

def CharProperty.holds : CharProperty → Char → Bool
  | alphabetic, c => Text.isAlphabetic c
  | uppercase, c => Text.isUppercase c
  | lowercase, c => Text.isLowercase c
  | cased, c => Text.isCased c
  | caseIgnorable, c => Text.isCaseIgnorable c
  | graphemeExtend, c => Text.extendsGrapheme c
  | emoji, c => Text.isEmoji c
  | math, c => Text.isMath c
  | categories cs, c => cs.contains (Text.category c)
  | script place, c => Text.script c == place

inductive CharSet where
  | none
  | range (first last : Char)
  | digit
  | blank
  | word
  | property (p : CharProperty)
  | union (a b : CharSet)
  | inter (a b : CharSet)
  | diff (a b : CharSet)
  | compl (a : CharSet)
  | folded (a : CharSet)
  | foldedAscii (a : CharSet)
  deriving DecidableEq, Repr

namespace CharSet

def any : CharSet := compl none

def only (c : Char) : CharSet := range c c

def has : CharSet → Char → Bool
  | none, _ => false
  | range first last, c => first ≤ c && c ≤ last
  | digit, c => Text.isDecimalDigit c
  | blank, c => Text.isBlank c
  | word, c => Text.isWord c
  | property p, c => p.holds c
  | union a b, c => a.has c || b.has c
  | inter a b, c => a.has c && b.has c
  | diff a b, c => a.has c && !b.has c
  | compl a, c => !a.has c
  | folded a, c => (Text.caseVariants c).any a.has
  | foldedAscii a, c => a.has c || a.has c.toLower || a.has c.toUpper

def size : CharSet → Nat
  | none | range .. => 1
  | digit => 144
  | blank => 20
  | word | property _ => 1600
  | union a b | inter a b | diff a b => a.size + b.size
  | compl a | folded a | foldedAscii a => a.size

end CharSet

inductive Look where
  | textStart
  | textEnd
  | lineStart
  | lineEnd
  | anyLineStart
  | anyLineEnd
  | wordEdge (w : CharSet)
  | noWordEdge (w : CharSet)
  | wordStart (w : CharSet)
  | wordEnd (w : CharSet)
  | noWordBefore (w : CharSet)
  | noWordAfter (w : CharSet)
  deriving DecidableEq, Repr

-- In `anyLineStart` and `anyLineEnd` a line may also end with a carriage return, and one before a
-- line feed belongs to the same line end.
def Look.holds (before after : Option Char) : Look → Bool
  | textStart => before.isNone
  | textEnd => after.isNone
  | lineStart => before.isNone || before == some '\n'
  | lineEnd => after.isNone || after == some '\n'
  | anyLineStart =>
      before.isNone || before == some '\n' || (before == some '\r' && after != some '\n')
  | anyLineEnd =>
      after.isNone || after == some '\r' || (after == some '\n' && before != some '\r')
  | wordEdge w => before.any w.has != after.any w.has
  | noWordEdge w => before.any w.has == after.any w.has
  | wordStart w => !before.any w.has && after.any w.has
  | wordEnd w => before.any w.has && !after.any w.has
  | noWordBefore w => !before.any w.has
  | noWordAfter w => !after.any w.has

inductive Pattern where
  | empty
  | one (s : CharSet)
  | look (l : Look)
  | seq (a b : Pattern)
  | alt (a b : Pattern)
  | repeated (p : Pattern) (least : Nat) (most : Option Nat)
  deriving DecidableEq, Repr

structure Place where
  position : Nat
  before : List Char
  after : List Char
  deriving DecidableEq, Repr

def Place.next? (p : Place) (s : CharSet) : Option Place :=
  match p.after with
  | [] => none
  | c :: rest => if s.has c then some ⟨p.position + 1, c :: p.before, rest⟩ else none

def Place.sees (p : Place) (l : Look) : Bool :=
  l.holds p.before.head? p.after.head?

def placesFrom (position : Nat) (before : List Char) : List Char → List Place
  | [] => [⟨position, before, []⟩]
  | c :: rest => ⟨position, before, c :: rest⟩ :: placesFrom (position + 1) (c :: before) rest

-- Puts `p` into a list; `rest` is what is done with the places that come after it.
def mergeAt (p : Place) (rest : List Place → List Place) : List Place → List Place
  | [] => p :: rest []
  | q :: qs =>
      if p.position < q.position then p :: rest (q :: qs)
      else if q.position < p.position then q :: mergeAt p rest qs
      else p :: rest qs

def merge : List Place → List Place → List Place
  | [] => id
  | p :: ps => mergeAt p (merge ps)

def without : List Place → List Place → List Place
  | [], _ => []
  | p :: ps, qs =>
      match qs.dropWhile (·.position < p.position) with
      | [] => p :: ps
      | q :: qs => if q.position = p.position then without ps qs else p :: without ps (q :: qs)

def exactly (step : List Place → List Place) : Nat → List Place → List Place
  | 0, places => places
  | n + 1, places => if places.isEmpty then [] else exactly step n (step places)

def upTo (step : List Place → List Place) : Nat → List Place → List Place
  | 0, places => places
  | n + 1, places =>
      let further := without (step places) places
      if further.isEmpty then places else merge places (upTo step n further)

namespace Pattern

-- Where a match that starts at one of the given places may end, in a text of `size` characters. A
-- step either moves on or stays, so more than `size + 1` repetitions reach no further place.
def ends (size : Nat) : Pattern → List Place → List Place
  | empty, places => places
  | one s, places => places.filterMap (·.next? s)
  | look l, places => places.filter (·.sees l)
  | seq a b, places => b.ends size (a.ends size places)
  | alt a b, places => merge (a.ends size places) (b.ends size places)
  | repeated p least most, places =>
      let reached := exactly (p.ends size) least places
      match most with
      | none => upTo (p.ends size) (size + 1) reached
      | some n => upTo (p.ends size) (n - least) reached

def isMatch (p : Pattern) (text : String) : Bool :=
  let cs := text.toList
  !(p.ends cs.length (placesFrom 0 [] cs)).isEmpty

def size : Pattern → Nat
  | empty => 1
  | one s => s.size
  | look _ => 1
  | seq a b => a.size + b.size
  | alt a b => 1 + a.size + b.size
  | repeated p least most => (1 + p.size) * max 1 (max least (most.getD 0))

-- What is too large is up to the engine, which compiles a pattern and counts bytes. A short text
-- that unrolls to few runs of characters never is.
structure SizeLimit where
  allows : String → Pattern → Bool
  allows_short : ∀ text p, text.length ≤ 16 → p.size ≤ 256 → allows text p = true

namespace SizeLimit

def most : Nat := Nat.pow 2 18

def ofSize : SizeLimit where
  allows _ p := p.size ≤ most
  allows_short _ p _ h := decide_eq_true (Nat.le_trans h (by decide))

end SizeLimit

end Pattern

end DatabaseSchema
