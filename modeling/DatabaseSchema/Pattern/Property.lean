import DatabaseSchema.Pattern

namespace DatabaseSchema.CharProperty

def plainName (cs : List Char) : List Char :=
  let keep (cs : List Char) : List Char :=
    (cs.filter fun c => c.toNat < 128 && c != ' ' && c != '_' && c != '-').map Char.toLower
  match cs with
  | i :: s :: rest =>
      if i.toLower = 'i' ∧ s.toLower = 's' then
        if keep rest = ['c'] then ['i', 's', 'c'] else keep rest
      else keep cs
  | cs => keep cs

def categoryNames : List (List String × List Text.Category) :=
  [(["lu", "uppercaseletter"], [.uppercaseLetter]),
    (["ll", "lowercaseletter"], [.lowercaseLetter]),
    (["lt", "titlecaseletter"], [.titlecaseLetter]),
    (["lc", "casedletter"], [.uppercaseLetter, .lowercaseLetter, .titlecaseLetter]),
    (["lm", "modifierletter"], [.modifierLetter]),
    (["lo", "otherletter"], [.otherLetter]),
    (["l", "letter"], Text.Category.all.filter (·.isLetter)),
    (["mn", "nonspacingmark"], [.nonspacingMark]),
    (["mc", "spacingmark"], [.spacingMark]),
    (["me", "enclosingmark"], [.enclosingMark]),
    (["m", "mark", "combiningmark"], Text.Category.all.filter (·.isMark)),
    (["nd", "decimalnumber", "digit"], [.decimalNumber]),
    (["nl", "letternumber"], [.letterNumber]),
    (["no", "othernumber"], [.otherNumber]),
    (["n", "number"], Text.Category.all.filter (·.isNumber)),
    (["pc", "connectorpunctuation"], [.connectorPunctuation]),
    (["pd", "dashpunctuation"], [.dashPunctuation]),
    (["ps", "openpunctuation"], [.openPunctuation]),
    (["pe", "closepunctuation"], [.closePunctuation]),
    (["pi", "initialpunctuation"], [.initialPunctuation]),
    (["pf", "finalpunctuation"], [.finalPunctuation]),
    (["po", "otherpunctuation"], [.otherPunctuation]),
    (["p", "punctuation", "punct"], Text.Category.all.filter (·.isPunctuation)),
    (["sm", "mathsymbol"], [.mathSymbol]),
    (["sc", "currencysymbol"], [.currencySymbol]),
    (["sk", "modifiersymbol"], [.modifierSymbol]),
    (["so", "othersymbol"], [.otherSymbol]),
    (["s", "symbol"], Text.Category.all.filter (·.isSymbol)),
    (["zs", "spaceseparator"], [.spaceSeparator]),
    (["zl", "lineseparator"], [.lineSeparator]),
    (["zp", "paragraphseparator"], [.paragraphSeparator]),
    (["z", "separator"], Text.Category.all.filter (·.isSeparator)),
    (["cc", "control", "cntrl"], [.control]),
    (["cf", "format"], [.format]),
    (["co", "privateuse"], [.privateUse]),
    (["cn", "unassigned"], [.unassigned]),
    (["c", "other"], Text.Category.all.filter (·.isOther))]

def ofRanges (ranges : List (Nat × Nat)) : CharSet :=
  ranges.foldl (fun s r => .union s (.range (Char.ofNat r.1) (Char.ofNat r.2))) .none

def letters : List Text.Category :=
  .letterNumber :: Text.Category.all.filter (·.isLetter)

def identifierStart : CharSet :=
  .diff (.union (.property (.categories letters))
    (ofRanges [(0x1885, 0x1886), (0x2118, 0x2118), (0x212e, 0x212e), (0x309b, 0x309c)]))
    (.only '\u2e2f')

def identifierContinue : CharSet :=
  .union identifierStart
    (.union (.property (.categories
        [.nonspacingMark, .spacingMark, .decimalNumber, .connectorPunctuation]))
      (ofRanges [(0xb7, 0xb7), (0x387, 0x387), (0x1369, 0x1371), (0x19da, 0x19da),
        (0x200c, 0x200d), (0x30fb, 0x30fb), (0xff65, 0xff65)]))

def unstable : CharSet :=
  ofRanges [(0x37a, 0x37a), (0x309b, 0x309c), (0xfc5e, 0xfc63), (0xfdfa, 0xfdfb), (0xfe70, 0xfe70),
    (0xfe72, 0xfe72), (0xfe74, 0xfe74), (0xfe76, 0xfe76), (0xfe78, 0xfe78), (0xfe7a, 0xfe7a),
    (0xfe7c, 0xfe7c), (0xfe7e, 0xfe7e)]

def unstableStart : CharSet :=
  .union unstable (ofRanges [(0xe33, 0xe33), (0xeb3, 0xeb3), (0xff9e, 0xff9f)])

def propertyNames : List (List String × CharSet) :=
  [(["alphabetic", "alpha"], .property .alphabetic),
    (["uppercase", "upper"], .property .uppercase),
    (["lowercase", "lower"], .property .lowercase),
    (["cased"], .property .cased),
    (["caseignorable", "ci"], .property .caseIgnorable),
    (["graphemeextend", "grext"], .property .graphemeExtend),
    (["emoji"], .property .emoji),
    (["math"], .property .math),
    (["whitespace", "wspace", "space"], .blank),
    (["idstart", "ids"], identifierStart),
    (["idcontinue", "idc"], identifierContinue),
    (["xidstart", "xids"], .diff identifierStart unstableStart),
    (["xidcontinue", "xidc"], .diff identifierContinue unstable),
    (["asciihexdigit", "ahex"], ofRanges [(0x30, 0x39), (0x41, 0x46), (0x61, 0x66)]),
    (["hexdigit", "hex"], ofRanges [(0x30, 0x39), (0x41, 0x46), (0x61, 0x66), (0xff10, 0xff19),
      (0xff21, 0xff26), (0xff41, 0xff46)]),
    (["joincontrol", "joinc"], ofRanges [(0x200c, 0x200d)]),
    (["patternwhitespace", "patws"],
      ofRanges [(0x9, 0xd), (0x20, 0x20), (0x85, 0x85), (0x200e, 0x200f), (0x2028, 0x2029)]),
    (["dash"], .union (.property (.categories [.dashPunctuation]))
      (ofRanges [(0x2053, 0x2053), (0x207b, 0x207b), (0x208b, 0x208b), (0x2212, 0x2212)])),
    (["quotationmark", "qmark"], ofRanges [(0x22, 0x22), (0x27, 0x27), (0xab, 0xab), (0xbb, 0xbb),
      (0x2018, 0x201f), (0x2039, 0x203a), (0x2e42, 0x2e42), (0x300c, 0x300f), (0x301d, 0x301f),
      (0xfe41, 0xfe44), (0xff02, 0xff02), (0xff07, 0xff07), (0xff62, 0xff63)]),
    (["ideographic", "ideo"], ofRanges [(0x3006, 0x3007), (0x3021, 0x3029), (0x3038, 0x303a),
      (0x3400, 0x4dbf), (0x4e00, 0x9fff), (0xf900, 0xfa6d), (0xfa70, 0xfad9), (0x16fe4, 0x16fe4),
      (0x16ff2, 0x16ff6), (0x17000, 0x18cd5), (0x18cff, 0x18d1e), (0x18d80, 0x18df2),
      (0x1b170, 0x1b2fb), (0x20000, 0x2a6df), (0x2a700, 0x2b81d), (0x2b820, 0x2cead),
      (0x2ceb0, 0x2ebe0), (0x2ebf0, 0x2ee5d), (0x2f800, 0x2fa1d), (0x30000, 0x3134a),
      (0x31350, 0x33479)])]

def valuedNames : List String :=
  ["age", "generalcategory", "gc", "script", "scriptextensions", "scx", "graphemeclusterbreak",
    "gcb", "wordbreak", "wb", "sentencebreak", "sb"]

def category? (name : String) : Option CharSet :=
  match name with
  | "any" => some .any
  | "assigned" => some (.compl (.property (.categories [.unassigned])))
  | "ascii" => some (.range '\x00' '\x7f')
  | name => (categoryNames.find? (·.1.contains name)).map (.property <| .categories ·.2)

def script? (name : String) : Option CharSet :=
  (Text.scriptNames.findIdx? (·.contains name)).map (.property <| .script ·)

-- A name alone: a property, else a category, else a script. Three names that are short for a
-- property as well as for a category mean the category.
def named? (name : String) : Option CharSet :=
  let isCategory := name == "cf" || name == "sc" || name == "lc"
  if !isCategory && valuedNames.contains name then none
  else
    match if isCategory then none else propertyNames.find? (·.1.contains name) with
    | some p => some p.2
    | none => (category? name).or (script? name)

def valued? (name value : String) : Option CharSet :=
  match name with
  | "gc" | "generalcategory" => category? value
  | "sc" | "script" | "scx" | "scriptextensions" => script? value
  | _ => none

def splitAt? (sep : List Char) : List Char → Option (List Char × List Char)
  | [] => none
  | c :: cs =>
      if sep.isPrefixOf (c :: cs) then some ([], (c :: cs).drop sep.length)
      else (splitAt? sep cs).map fun (a, b) => (c :: a, b)

def valuedOf? (name value : List Char) : Option CharSet :=
  valued? (String.ofList (plainName name)) (String.ofList (plainName value))

def ofExpression? (cs : List Char) : Option (Bool × CharSet) :=
  match splitAt? ['!', '='] cs with
  | some (name, value) => (valuedOf? name value).map (true, ·)
  | none =>
      match (splitAt? [':'] cs).or (splitAt? ['='] cs) with
      | some (name, value) => (valuedOf? name value).map (false, ·)
      | none => (named? (String.ofList (plainName cs))).map (false, ·)

end DatabaseSchema.CharProperty
