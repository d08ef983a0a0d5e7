import ProtoRules.Rules.Fault
import ProtoRules.Text.Blank
import ProtoRules.Text.Pieces

/-!
The options of a run, given as a parameter text such as `lang=java,format=true,module=acme/`. Parts
are separated by commas, white space around parts, keys and values does not count, and empty parts
are skipped. Of a key given more than once the last value holds.
-/

namespace ProtoRules

inductive ConfigError
  | invalidFormat (value : String)
  | malformedParameter (part : String)
  | missingLanguage
  | unknownParameter (key : String)
  | unknownLanguage (name : String)
deriving DecidableEq, Repr

def ConfigError.message : ConfigError → String
  | invalidFormat value =>
    quoted "format" ++ " must be " ++ quoted "true" ++ " or " ++ quoted "false" ++ ", got " ++
      quoted value
  | malformedParameter part =>
    "malformed parameter " ++ quoted part ++ ", expected " ++ quoted "key=value"
  | missingLanguage => quoted "lang" ++ " parameter is required"
  | unknownParameter key => "unknown parameter " ++ quoted key
  | unknownLanguage name => "unknown target language " ++ quoted name

structure Config where
  lang : String
  format : Bool := false
  module : Option String := none
deriving DecidableEq, Repr

namespace Config

structure Draft where
  lang : Option String := none
  format : Bool := false
  module : Option String := none
deriving DecidableEq, Repr

def readFlag? : String → Option Bool
  | "true" => some true
  | "false" => some false
  | _ => none

def nonempty? (s : String) : Option String :=
  if s.isEmpty then none else some s

def Draft.add (d : Draft) (part : String) : Except ConfigError Draft :=
  match Text.cut? '=' part with
  | none => .error (.malformedParameter part)
  | some (key, value) =>
    let value := Text.trim value
    match Text.trim key with
    | "lang" => .ok { d with lang := some value }
    | "format" =>
      match readFlag? value with
      | some flag => .ok { d with format := flag }
      | none => .error (.invalidFormat value)
    | "module" => .ok { d with module := nonempty? value }
    | other => .error (.unknownParameter other)

def parts (parameter : String) : List String :=
  ((Text.splitOn ',' parameter).map Text.trim).filter (!·.isEmpty)

def Draft.finish (d : Draft) : Except ConfigError Config :=
  match d.lang.bind nonempty? with
  | some lang => .ok { lang, format := d.format, module := d.module }
  | none => .error .missingLanguage

def parse (parameter : String) : Except ConfigError Config := do
  (← (parts parameter).foldlM Draft.add {}).finish

end Config

end ProtoRules
