import ProtoRules.Text.BreakTable
import ProtoRules.Text.CategoryTable
import ProtoRules.Text.PropertyTable
import ProtoRules.Text.Ranges

/-!
Sets of characters by their Unicode properties. Those that the standard lists are read from tables,
the others are put together from general categories and listed properties as the standard defines
them.
-/

namespace ProtoRules.Text

def categoryTable : Ranges.Labelled :=
  Ranges.labelled categoryText

def inCategories (codes : List String) : Ranges :=
  Ranges.select categoryTable codes.contains

def letterCategories : List String := ["Lu", "Ll", "Lt", "Lm", "Lo"]
def markCategories : List String := ["Mn", "Mc", "Me"]
def numberCategories : List String := ["Nd", "Nl", "No"]

def digits : Ranges :=
  inCategories ["Nd"]

def numeric : Ranges :=
  inCategories numberCategories

def unprintables : Ranges :=
  inCategories ["Cc", "Cf", "Cs", "Co", "Cn", "Zs", "Zl", "Zp"]

def alphabetic : Ranges :=
  Ranges.union (inCategories ("Nl" :: letterCategories)) (.ofText otherAlphabeticText)

def lowercase : Ranges :=
  Ranges.union (inCategories ["Ll"]) (.ofText otherLowercaseText)

def uppercase : Ranges :=
  Ranges.union (inCategories ["Lu"]) (.ofText otherUppercaseText)

def cased : Ranges :=
  Ranges.unions [lowercase, uppercase, inCategories ["Lt"]]

def whiteSpace : Ranges :=
  .ofText whiteSpaceText

def wordChars : Ranges :=
  Ranges.unions [alphabetic, inCategories ("Nd" :: "Pc" :: markCategories),
    .ofText joinControlText]

def math : Ranges :=
  Ranges.union (inCategories ["Sm"]) (.ofText otherMathText)

def wordBreakTable : Ranges.Labelled :=
  Ranges.labelled wordBreakText

def caseIgnorable : Ranges :=
  Ranges.union (inCategories ["Mn", "Me", "Cf", "Lm", "Sk"])
    (Ranges.select wordBreakTable ["ml", "mb", "sq"].contains)

def extenders : Ranges :=
  Ranges.union (inCategories ["Mn", "Me"]) (.ofText otherGraphemeExtendText)

def graphemeBreakTable : Ranges.Labelled :=
  Ranges.labelled graphemeBreakText

def spacingMarks : Ranges :=
  Ranges.select graphemeBreakTable (· == "sm")

def prepended : Ranges :=
  Ranges.select graphemeBreakTable (· == "pp")

def controls : Ranges :=
  Ranges.select graphemeBreakTable ["cn", "cr", "lf"].contains

def graphemeBase : Ranges :=
  Ranges.complement
    (Ranges.union (inCategories ["Cc", "Cf", "Cs", "Co", "Cn", "Zl", "Zp"]) extenders)

/-- What may be left out where it cannot be shown: format characters for the most part, but those
for annotations and for the layout of hieroglyphs, and the marks in front of numbers. -/
def ignorable : Ranges :=
  Ranges.minus
    (Ranges.unions [inCategories ["Cf"], .ofText otherDefaultIgnorableCodePointText,
      .ofText variationSelectorText])
    (Ranges.unions [whiteSpace, [(0xFFF9, 0xFFFB)], [(0x13430, 0x1343F)],
      .ofText prependedConcatenationMarkText])

def syntactic : Ranges :=
  Ranges.union (.ofText patternSyntaxText) (.ofText patternWhiteSpaceText)

def identifierStart : Ranges :=
  Ranges.minus
    (Ranges.union (inCategories ("Nl" :: letterCategories)) (.ofText otherIdStartText)) syntactic

def identifierContinue : Ranges :=
  Ranges.minus
    (Ranges.unions [identifierStart, inCategories ["Mn", "Mc", "Nd", "Pc"],
      .ofText otherIdContinueText]) syntactic

def decomposing : Ranges :=
  [(0x37A, 0x37A), (0x309B, 0x309C), (0xFC5E, 0xFC63), (0xFDFA, 0xFDFB), (0xFE70, 0xFE70),
    (0xFE72, 0xFE72), (0xFE74, 0xFE74), (0xFE76, 0xFE76), (0xFE78, 0xFE78), (0xFE7A, 0xFE7A),
    (0xFE7C, 0xFE7C), (0xFE7E, 0xFE7E)]

def identifierStarts : Ranges :=
  Ranges.minus identifierStart
    (Ranges.union decomposing [(0xE33, 0xE33), (0xEB3, 0xEB3), (0xFF9E, 0xFF9F)])

def identifierTails : Ranges :=
  Ranges.minus identifierContinue decomposing

end ProtoRules.Text
