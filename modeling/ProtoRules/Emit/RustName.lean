import ProtoRules.Emit.Pass
import ProtoRules.Emit.RustLiteral
import ProtoRules.Emit.RustPath
import ProtoRules.Text.Words

/-!
Names in Rust source text. Fields and modules are in snake case and types are capitalised; a keyword
is written as a raw identifier or, where that is not possible, with an underscore behind it.
-/

namespace ProtoRules.Rust

def keywords : List String :=
  ["abstract", "as", "async", "await", "become", "box", "break", "const", "continue", "crate", "do",
    "dyn", "else", "enum", "extern", "false", "final", "fn", "for", "gen", "if", "impl", "in",
    "let", "loop", "macro", "match", "mod", "move", "mut", "override", "priv", "pub", "ref",
    "return", "self", "Self", "static", "struct", "super", "trait", "true", "try", "type", "typeof",
    "unsafe", "unsized", "use", "virtual", "where", "while", "yield"]

def escape (name : String) : String :=
  if ["crate", "self", "super", "Self"].contains name then name ++ "_"
  else if keywords.contains name then "r#" ++ name
  else name

def identifier (name : String) : Rendered Token :=
  let valid := match Text.after? "r#" name with
    | some bare => isIdentifier bare.toList && !isNeverRaw bare
    | none => isIdentifier name.toList
  if valid then .ok (.word name) else .error (.badIdentifier name)

def fieldIdentifier (name : String) : Rendered Token :=
  identifier (escape (Text.snake name))

/-- The module for a package segment or for a message with messages inside. -/
def moduleName (name : String) : String :=
  escape (Text.snake name)

def path (text : String) : Rendered Tokens :=
  match path? text with
  | some ts => .ok ts
  | none => .error (.invalidPath text)

/-- The path of a type that a name inside a file stands for: the modules of the enclosing messages,
and the type. -/
def localSegments (name : String) : List String :=
  let parts := Text.splitOn '.' name
  parts.dropLast.map moduleName ++ [Text.pascal (parts.getLast?.getD name)]

def packageSegments (package : String) : List String :=
  "crate" :: ((Text.splitOn '.' package).filter (!·.isEmpty)).map moduleName

def typePath (schema : Schema) (package : String) (fullName : String) : Rendered Tokens :=
  let name := Text.undot fullName
  match schema.declaringFile? name with
  | none => .error (.schema (.unknownMessage name))
  | some file =>
    let outer := if file.package = package then [] else packageSegments file.package
    path ("::".intercalate (outer ++ localSegments (file.localName name)))

def errorPath (base : Option ErrorBase) (spec : ErrorSpec) : String :=
  match base with
  | some base => "::".intercalate (Text.splitOn '.' base.owner) ++ "::" ++ spec.method
  | none => spec.method

def raise (base : Option ErrorBase) (spec : ErrorSpec) : Rendered Tokens := do
  let constructor ← path (errorPath base spec)
  let arguments := (spec.code.map (number (.word .int32))).toList ++
    (spec.message.map string).toList
  let value := rooted ["core", "convert", "Into", "into"] ++
    [parens (constructor ++ [parens (commas arguments)])]
  return [.word "return"] ++ rooted ["core", "result", "Result", "Err"] ++
    [parens value, .op ";"]

def fail (c : Context) (own : Option ErrorSpec) : Rendered Tokens :=
  match c.error own with
  | none => .error (.missingError c.field.name)
  | some spec => raise c.errorBase spec

def place (c : Context) (byAccessor : Token → Tokens) (byField : Token → Tokens) :
    Rendered Tokens :=
  match c.accessor with
  | some accessor => do return byAccessor (← identifier accessor)
  | none => do return byField (← fieldIdentifier c.field.name)

end ProtoRules.Rust
