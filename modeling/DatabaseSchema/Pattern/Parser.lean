import DatabaseSchema.Pattern.Class

namespace DatabaseSchema.Pattern

structure Piece where
  pattern : Pattern
  depth : Nat := 0
  repeatable : Bool := true

def depthLimit : Nat := 250

def joinSequence : List Piece → Piece
  | [] => ⟨.empty, 0, true⟩
  | [p] => { p with repeatable := true }
  | ps => ⟨(ps.map (·.pattern)).foldr .seq .empty, 1 + (ps.map (·.depth)).foldl max 0, true⟩

def joinBranches : List Piece → Piece
  | [] => ⟨.empty, 0, true⟩
  | [p] => p
  | p :: ps =>
      ⟨ps.foldl (fun q r => .alt q r.pattern) p.pattern,
        1 + (ps.map (·.depth)).foldl max p.depth, true⟩

def literalPattern (f : Flags) (c : Char) (byteEscape : Bool) : Scanner Pattern :=
  if f.scripts then return .one (foldedBy f (.only c))
  else if c.toNat < 128 then return .one (foldedBy f (.only c))
  else if byteEscape then failure
  else return .one (.only c)

def atomPattern (f : Flags) : Atom → Scanner Pattern
  | .literal c byteEscape => literalPattern f c byteEscape
  | .set s => return .one s
  | .look l => return .look l

-- Without `scripts` a dot would stand for any byte, which need not be a character.
def dotPattern (f : Flags) : Scanner Pattern :=
  if !f.scripts then failure
  else if f.dotNewline then return .one .any
  else if f.anyLineEnd then return .one (.diff .any (.union (.only '\n') (.only '\r')))
  else return .one (.diff .any (.only '\n'))

def startLook (f : Flags) : Look :=
  if !f.multiLine then .textStart else if f.anyLineEnd then .anyLineStart else .lineStart

def endLook (f : Flags) : Look :=
  if !f.multiLine then .textEnd else if f.anyLineEnd then .anyLineEnd else .lineEnd

def isFlag (c : Char) : Bool :=
  "imsURux".toList.contains c

def Flags.set (f : Flags) (on : Bool) : Char → Flags
  | 'i' => { f with ignoreCase := on }
  | 'm' => { f with multiLine := on }
  | 's' => { f with dotNewline := on }
  | 'R' => { f with anyLineEnd := on }
  | 'u' => { f with scripts := on }
  | 'x' => { f with spaced := on }
  | _ => f

def Flags.setAll (f : Flags) (on : Bool) : List Char → Flags
  | [] => f
  | '-' :: cs => f.setAll false cs
  | c :: cs => (f.set on c).setAll on cs

def flagsAllowed (cs : List Char) : Bool :=
  cs.all (fun c => c == '-' || isFlag c) && cs.eraseDups.length == cs.length
    && cs.getLast? != some '-'

def nameAllowed : List Char → Bool
  | [] => false
  | c :: cs =>
      (c == '_' || Text.isAlphabetic c)
        && cs.all fun c => c == '_' || c == '.' || c == '[' || c == ']' || Text.isAlphanumeric c

def groupName : Scanner Unit := do
  let s ← get
  let name := s.rest.takeWhile (· != '>')
  match s.rest.dropWhile (· != '>') with
  | '>' :: rest =>
      if nameAllowed name && !s.groupNames.contains name then
        set { s with rest := rest, groupNames := name :: s.groupNames }
      else failure
  | _ => failure

inductive Opening where
  | group
  | flagged (f : Flags)
  | flagsOnly (f : Flags)

def opening : Scanner Opening := do
  let s ← get
  match s.rest with
  | '?' :: '=' :: _ | '?' :: '!' :: _ | '?' :: '<' :: '=' :: _ | '?' :: '<' :: '!' :: _ => failure
  | '?' :: 'P' :: '<' :: rest | '?' :: '<' :: rest =>
      set { s with rest := rest }
      groupName
      return .group
  | '?' :: rest =>
      let letters := rest.takeWhile fun c => c != ':' && c != ')'
      unless flagsAllowed letters do failure
      match rest.dropWhile fun c => c != ':' && c != ')' with
      | ')' :: rest =>
          if letters.isEmpty then failure
          set { s with rest := rest }
          return .flagsOnly (s.flags.setAll true letters)
      | ':' :: rest =>
          set { s with rest := rest }
          return .flagged (s.flags.setAll true letters)
      | _ => failure
  | _ => return .group

def repeatedPart : List Piece → Scanner (Piece × List Piece)
  | [] => failure
  | p :: before => if p.repeatable then return (p, before) else failure

def repeatPiece (p : Piece) (least : Nat) (most : Option Nat) : Piece :=
  ⟨.repeated p.pattern least most, p.depth + 1, true⟩

def skipReluctant : Scanner Unit := do
  let _ ← accept ['?']

mutual

def branches : Nat → Scanner (List Piece)
  | 0 => failure
  | fuel + 1 => do
      let b ← branch fuel []
      match ← peek? with
      | some '|' =>
          step
          return b :: (← branches fuel)
      | _ => return [b]

def branch : Nat → List Piece → Scanner Piece
  | 0, _ => failure
  | fuel + 1, before => do
      skipSpace
      let f := (← get).flags
      match ← peek? with
      | none | some '|' | some ')' => return joinSequence before.reverse
      | some '(' =>
          advance
          match ← opening with
          | .flagsOnly f =>
              modify fun s => { s with flags := f }
              branch fuel (⟨.empty, 0, false⟩ :: before)
          | .group => branch fuel ((← group fuel f f) :: before)
          | .flagged inner => branch fuel ((← group fuel f inner) :: before)
      | some '[' =>
          let (s, depth) ← bracket fuel
          branch fuel (⟨.one s, depth, true⟩ :: before)
      | some '?' =>
          let (p, before) ← repeatedPart before
          step
          skipReluctant
          branch fuel (repeatPiece p 0 (some 1) :: before)
      | some '*' =>
          let (p, before) ← repeatedPart before
          step
          skipReluctant
          branch fuel (repeatPiece p 0 none :: before)
      | some '+' =>
          let (p, before) ← repeatedPart before
          step
          skipReluctant
          branch fuel (repeatPiece p 1 none :: before)
      | some '\x7b' =>
          let (p, before) ← repeatedPart before
          let (least, most) ← bounds
          skipReluctant
          branch fuel (repeatPiece p least most :: before)
      | some '\\' =>
          let p ← atomPattern f (← escape)
          branch fuel (⟨p, 0, true⟩ :: before)
      | some '.' =>
          step
          let p ← dotPattern f
          branch fuel (⟨p, 0, true⟩ :: before)
      | some '^' =>
          step
          branch fuel (⟨.look (startLook f), 0, true⟩ :: before)
      | some '$' =>
          step
          branch fuel (⟨.look (endLook f), 0, true⟩ :: before)
      | some c =>
          step
          let p ← literalPattern f c false
          branch fuel (⟨p, 0, true⟩ :: before)

def group : Nat → Flags → Flags → Scanner Piece
  | 0, _, _ => failure
  | fuel + 1, outer, inner => do
      modify fun s => { s with flags := inner }
      let p := joinBranches (← branches fuel)
      unless (← here) = ')' do failure
      step
      modify fun s => { s with flags := outer }
      return { p with depth := p.depth + 1, repeatable := true }

end

def read? (ignoreCase : Bool) (text : String) : Option Pattern := do
  let cs := text.toList
  let start : Scan := ⟨cs, { ignoreCase := ignoreCase }, []⟩
  let (bs, s) ← (branches (2 * cs.length + 2)).run start
  let p := joinBranches bs
  if s.rest.isEmpty && p.depth ≤ depthLimit then some p.pattern else none

def parse? (limit : SizeLimit) (ignoreCase : Bool) (text : String) : Option Pattern :=
  (read? ignoreCase text).filter (limit.allows text)

end DatabaseSchema.Pattern
