/-!
Formatting of generated text. A formatter may fail; then the text stays as it is.
-/

namespace ProtoRules

inductive FormatError
  | failed (program status : String)
  | invalidOutput
  | spawn (program : String)
deriving DecidableEq, Repr

abbrev Formatter := String → Except FormatError String

def emit (formatter : Option Formatter) (source : String) : String :=
  match formatter with
  | none => source
  | some format =>
    match format source with
    | .ok text => text
    | .error _ => source

end ProtoRules
