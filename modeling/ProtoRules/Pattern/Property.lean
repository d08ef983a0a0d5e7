import ProtoRules.Text.AgeTable
import ProtoRules.Text.Pieces
import ProtoRules.Text.Properties
import ProtoRules.Text.ScriptTable

/-!
Unicode properties as patterns use them. Case, spaces, hyphens, underscores and a leading `is` in
a name make no difference, so the tables hold names in their loose form.
-/

namespace ProtoRules.Pattern

open Text (Ranges)

def listedProperties : List (List String × String) :=
  [(["ahex", "asciihexdigit"], Text.asciiHexDigitText),
    (["bidic", "bidicontrol"], Text.bidiControlText),
    (["bidim", "bidimirrored"], Text.bidiMirroredText),
    (["changeswhencasefolded", "cwcf"], Text.changesWhenCasefoldedText),
    (["changeswhenlowercased", "cwl"], Text.changesWhenLowercasedText),
    (["changeswhentitlecased", "cwt"], Text.changesWhenTitlecasedText),
    (["changeswhenuppercased", "cwu"], Text.changesWhenUppercasedText), (["dash"], Text.dashText),
    (["dep", "deprecated"], Text.deprecatedText), (["dia", "diacritic"], Text.diacriticText),
    (["emoji"], Text.emojiText), (["ecomp", "emojicomponent"], Text.emojiComponentText),
    (["emod", "emojimodifier"], Text.emojiModifierText),
    (["ebase", "emojimodifierbase"], Text.emojiModifierBaseText),
    (["epres", "emojipresentation"], Text.emojiPresentationText),
    (["extendedpictographic", "extpict"], Text.extendedPictographicText),
    (["ext", "extender"], Text.extenderText), (["graphemelink", "grlink"], Text.graphemeLinkText),
    (["hex", "hexdigit"], Text.hexDigitText), (["hyphen"], Text.hyphenText),
    (["idsb", "idsbinaryoperator"], Text.idsBinaryOperatorText),
    (["idst", "idstrinaryoperator"], Text.idsTrinaryOperatorText),
    (["idsu", "idsunaryoperator"], Text.idsUnaryOperatorText),
    (["idcompatmathcontinue"], Text.idCompatMathContinueText),
    (["idcompatmathstart"], Text.idCompatMathStartText),
    (["ideo", "ideographic"], Text.ideographicText),
    (["joinc", "joincontrol"], Text.joinControlText),
    (["loe", "logicalorderexception"], Text.logicalOrderExceptionText),
    (["mcm", "modifiercombiningmark"], Text.modifierCombiningMarkText),
    (["nchar", "noncharactercodepoint"], Text.noncharacterCodePointText),
    (["oalpha", "otheralphabetic"], Text.otherAlphabeticText),
    (["odi", "otherdefaultignorablecodepoint"], Text.otherDefaultIgnorableCodePointText),
    (["ogrext", "othergraphemeextend"], Text.otherGraphemeExtendText),
    (["oidc", "otheridcontinue"], Text.otherIdContinueText),
    (["oids", "otheridstart"], Text.otherIdStartText),
    (["olower", "otherlowercase"], Text.otherLowercaseText),
    (["omath", "othermath"], Text.otherMathText),
    (["oupper", "otheruppercase"], Text.otherUppercaseText),
    (["patsyn", "patternsyntax"], Text.patternSyntaxText),
    (["patternwhitespace", "patws"], Text.patternWhiteSpaceText),
    (["pcm", "prependedconcatenationmark"], Text.prependedConcatenationMarkText),
    (["qmark", "quotationmark"], Text.quotationMarkText), (["radical"], Text.radicalText),
    (["regionalindicator", "ri"], Text.regionalIndicatorText),
    (["sentenceterminal", "sterm"], Text.sentenceTerminalText),
    (["sd", "softdotted"], Text.softDottedText),
    (["term", "terminalpunctuation"], Text.terminalPunctuationText),
    (["uideo", "unifiedideograph"], Text.unifiedIdeographText),
    (["variationselector", "vs"], Text.variationSelectorText),
    (["space", "whitespace", "wspace"], Text.whiteSpaceText)]

def definedProperties : List (List String × (Unit → Ranges)) :=
  [(["alpha", "alphabetic"], fun _ => Text.alphabetic),
    (["cased"], fun _ => Text.cased),
    (["changeswhencasemapped", "cwcm"], fun _ =>
      Ranges.unions [.ofText Text.changesWhenLowercasedText, .ofText Text.changesWhenUppercasedText,
        .ofText Text.changesWhenTitlecasedText]),
    (["caseignorable", "ci"], fun _ => Text.caseIgnorable),
    (["defaultignorablecodepoint", "di"], fun _ => Text.ignorable),
    (["graphemebase", "grbase"], fun _ => Text.graphemeBase),
    (["graphemeextend", "grext"], fun _ => Text.extenders),
    (["idc", "idcontinue"], fun _ => Text.identifierContinue),
    (["ids", "idstart"], fun _ => Text.identifierStart),
    (["lower", "lowercase"], fun _ => Text.lowercase),
    (["math"], fun _ => Text.math),
    (["upper", "uppercase"], fun _ => Text.uppercase),
    (["xidc", "xidcontinue"], fun _ => Text.identifierTails),
    (["xids", "xidstart"], fun _ => Text.identifierStarts)]

def categories : List (List String × List String) :=
  [(["casedletter", "lc"], ["Lu", "Ll", "Lt"]), (["closepunctuation", "pe"], ["Pe"]),
    (["connectorpunctuation", "pc"], ["Pc"]), (["control", "cc", "cntrl"], ["Cc"]),
    (["currencysymbol", "sc"], ["Sc"]), (["dashpunctuation", "pd"], ["Pd"]),
    (["decimalnumber", "digit", "nd"], ["Nd"]), (["enclosingmark", "me"], ["Me"]),
    (["finalpunctuation", "pf"], ["Pf"]), (["format", "cf"], ["Cf"]),
    (["initialpunctuation", "pi"], ["Pi"]), (["letter", "l"], ["Lu", "Ll", "Lt", "Lm", "Lo"]),
    (["letternumber", "nl"], ["Nl"]), (["lineseparator", "zl"], ["Zl"]),
    (["lowercaseletter", "ll"], ["Ll"]), (["mark", "m", "combiningmark"], ["Mn", "Mc", "Me"]),
    (["mathsymbol", "sm"], ["Sm"]), (["modifierletter", "lm"], ["Lm"]),
    (["modifiersymbol", "sk"], ["Sk"]), (["nonspacingmark", "mn"], ["Mn"]),
    (["number", "n"], ["Nd", "Nl", "No"]), (["openpunctuation", "ps"], ["Ps"]),
    (["other", "c"], ["Cc", "Cf", "Cn", "Co"]), (["otherletter", "lo"], ["Lo"]),
    (["othernumber", "no"], ["No"]), (["otherpunctuation", "po"], ["Po"]),
    (["othersymbol", "so"], ["So"]), (["paragraphseparator", "zp"], ["Zp"]),
    (["privateuse", "co"], ["Co"]),
    (["punctuation", "p", "punct"], ["Pc", "Pd", "Ps", "Pe", "Pi", "Pf", "Po"]),
    (["separator", "z"], ["Zs", "Zl", "Zp"]), (["spaceseparator", "zs"], ["Zs"]),
    (["spacingmark", "mc"], ["Mc"]), (["symbol", "s"], ["Sm", "Sc", "Sk", "So"]),
    (["titlecaseletter", "lt"], ["Lt"]), (["unassigned", "cn"], ["Cn"]),
    (["uppercaseletter", "lu"], ["Lu"])]

def categorySets : List (List String × (Unit → Ranges)) :=
  [(["any"], fun _ => [(0, Ranges.greatest)]),
    (["ascii"], fun _ => [(0, 127)]),
    (["assigned"], fun _ => Ranges.complement (Text.inCategories ["Cn"]))]

/-- The values for visible characters, by their names; of the syllables of Hangul, those without a
final consonant are every 28th from the first one on. -/
def graphemeBreaks : List (List String × (Unit → Ranges)) :=
  let value (code : String) (_ : Unit) := Ranges.select Text.graphemeBreakTable (· == code)
  [(["cn", "control"], value "cn"), (["cr"], value "cr"), (["ex", "extend"], value "ex"),
    (["l"], value "l"), (["lf"], value "lf"), (["lv"], fun _ => openSyllables),
    (["lvt"], fun _ => Ranges.minus [(0xAC00, 0xD7A3)] openSyllables),
    (["pp", "prepend"], value "pp"), (["regionalindicator", "ri"], value "ri"),
    (["sm", "spacingmark"], value "sm"), (["t"], value "t"), (["v"], value "v"),
    (["zwj"], value "zwj")]
where
  openSyllables : Ranges :=
    (List.range 399).map fun i => (0xAC00 + 28 * i, 0xAC00 + 28 * i)

/-- The values for words: the code of each, and the names that it goes by beside its code. -/
def wordBreaks : List (String × List String) :=
  [("le", ["aletter"]), ("cr", []), ("dq", ["doublequote"]), ("extend", []),
    ("ex", ["extendnumlet"]), ("fo", ["format"]), ("hl", ["hebrewletter"]), ("ka", ["katakana"]),
    ("lf", []), ("mb", ["midnumlet"]), ("ml", ["midletter"]), ("mn", ["midnum"]),
    ("nl", ["newline"]), ("nu", ["numeric"]), ("ri", ["regionalindicator"]),
    ("sq", ["singlequote"]), ("wsegspace", []), ("zwj", [])]

def sentenceBreaks : List (String × List String) :=
  [("at", ["aterm"]), ("cl", ["close"]), ("cr", []), ("ex", ["extend"]), ("fo", ["format"]),
    ("le", ["oletter"]), ("lf", []), ("lo", ["lower"]), ("nu", ["numeric"]),
    ("sc", ["scontinue"]), ("se", ["sep"]), ("sp", []), ("st", ["sterm"]), ("up", ["upper"])]

inductive PropertyQuery
  | named (name : String)
  | valued (name value : String) (unequal : Bool)
deriving DecidableEq, Repr

def loose (name : String) : String :=
  let keep (cs : List Char) :=
    (cs.filter fun c => c.toNat < 128 && c != ' ' && c != '_' && c != '-').map Char.toLower
  match name.toList with
  | a :: b :: cs =>
    if a.toLower = 'i' ∧ b.toLower = 's' then
      -- the short name of a property is not to be taken for that of a category
      if keep cs = ['c'] then "isc" else String.ofList (keep cs)
    else String.ofList (keep (a :: b :: cs))
  | cs => String.ofList (keep cs)

def found? {α : Type} (table : List (List String × α)) (name : String) : Option α :=
  (table.find? (·.1.contains name)).map (·.2)

def categorySet? (name : String) : Option Ranges :=
  (found? categories name).map Text.inCategories <|> (found? categorySets name).map (· ())

def scriptCode? (name : String) : Option String :=
  (Text.scriptNames.map (Text.splitOn ' ')).findSome? fun names =>
    match names with
    | code :: others =>
      if loose code = name || others.contains name then some code else none
    | [] => none

def scriptTable : Ranges.Labelled :=
  Ranges.labelled Text.scriptText

def scriptSet? (name : String) : Option Ranges :=
  (scriptCode? name).map fun code => Ranges.select scriptTable (· == code)

def scriptExtensionTable : Ranges.Labelled :=
  Ranges.labelled Text.scriptExtensionText

def codesOf : List Char → List String
  | a :: b :: c :: d :: rest => String.ofList [a, b, c, d] :: codesOf rest
  | _ => []

/-- The characters used in a script: those said to be used in it, and those of the script itself of
which nothing is said. -/
def scriptExtensionSet? (name : String) : Option Ranges :=
  (scriptCode? name).map fun code =>
    Ranges.union
      (Ranges.select scriptExtensionTable fun label => (codesOf label.toList).contains code)
      (Ranges.minus (Ranges.select scriptTable (· == code))
        (Ranges.select scriptExtensionTable (!·.isEmpty)))

def ageSet? (name : String) : Option Ranges :=
  (Text.ageNames.findIdx? fun age =>
    age = name || "v" ++ String.ofList (age.toList.filter (· != '.')) = name).map fun last =>
      Ranges.select (Ranges.labelled Text.ageText) fun label =>
        label.toList.any fun c => (ageLetters.take (last + 1)).contains c
where
  ageLetters : List Char := "abcdefghijklmnopqrstuvwxyzA".toList

def breakSet? (table : Ranges.Labelled) (values : List (String × List String)) (name : String) :
    Option Ranges :=
  (values.find? fun value => value.1 = name || value.2.contains name).map fun value =>
    Ranges.select table (· == value.1)

def valueSet? (property value : String) : Option Ranges :=
  match property with
  | "gc" | "generalcategory" => categorySet? value
  | "sc" | "script" => scriptSet? value
  | "scx" | "scriptextensions" => scriptExtensionSet? value
  | "age" => ageSet? value
  | "gcb" | "graphemeclusterbreak" => (found? graphemeBreaks value).map (· ())
  | "wb" | "wordbreak" => breakSet? Text.wordBreakTable wordBreaks value
  | "sb" | "sentencebreak" =>
    breakSet? (Ranges.labelled Text.sentenceBreakText) sentenceBreaks value
  | _ => none

/-- The characters for which a name stands: those with a property, else those of a category, else
those of a script. -/
def namedSet? (name : String) : Option Ranges :=
  (found? listedProperties name).map Ranges.ofText <|>
    (found? definedProperties name).map (· ()) <|> categorySet? name <|> scriptSet? name

namespace PropertyQuery

def ofText (text : String) : PropertyQuery :=
  match unequal [] text.toList with
  | some (name, value) => valued (String.ofList name) (String.ofList value) true
  | none =>
    match cut ':' text.toList <|> cut '=' text.toList with
    | some (name, value) => valued (String.ofList name) (String.ofList value) false
    | none => named text
where
  unequal : List Char → List Char → Option (List Char × List Char)
    | _, [] => none
    | before, '!' :: '=' :: rest => some (before.reverse, rest)
    | before, c :: rest => unequal (c :: before) rest
  cut (c : Char) (cs : List Char) : Option (List Char × List Char) :=
    match cs.span (· != c) with
    | (_, []) => none
    | (before, _ :: rest) => some (before, rest)

def set? : PropertyQuery → Option Ranges
  | named name => namedSet? (loose name)
  | valued name value _ => valueSet? (loose name) (loose value)

def isUnequal : PropertyQuery → Bool
  | named _ => false
  | valued _ _ unequal => unequal

end PropertyQuery

end ProtoRules.Pattern
