import ProtoRules.Rules.Basic
import ProtoRules.Text.Enclosures

/-!
The regular expressions that pattern names stand for. A rule that is explicitly not strict falls
back to the loose expression for every header pattern.
-/

namespace ProtoRules

namespace KnownPattern

/-- A header field name, with the colon that pseudo-headers begin with. -/
def headerNameRegex : String := "^:?[0-9a-zA-Z!#$%&'*+-.^_|~`]+$"

/-- The character with a code in hexadecimal digits. -/
def character (code : String) : String :=
  "\\x" ++ braced code

def headerValueRegex : String :=
  "^[^" ++ character "0000" ++ "-" ++ character "0008" ++ character "000A" ++ "-" ++
    character "001F" ++ character "007F" ++ "]*$"

def headerTextRegex : String :=
  "^[^" ++ character "0000" ++ character "000A" ++ character "000D" ++ "]*$"

def resolve (p : KnownPattern) (strict : Option Bool) : Option String :=
  match p, strict with
  | unknown, _ => none
  | _, some false => some headerTextRegex
  | headerName, _ => some headerNameRegex
  | headerValue, _ => some headerValueRegex

end KnownPattern

namespace StringRule

def knownPattern? (r : StringRule) : Option KnownPattern :=
  match r.format with
  | some (.pattern p) => some p
  | _ => none

/-- The pattern that strings are matched against: the explicit one, else the one that a name stands
for. -/
def effectivePattern? (r : StringRule) : Option String :=
  r.pattern <|> (r.knownPattern?.bind fun p => p.resolve r.strict)

end StringRule

end ProtoRules
