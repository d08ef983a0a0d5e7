import ProtoRules.Emit.OutputUnit
import ProtoRules.Emit.RustBody

/-!
Rust validators: a method of each message type that returns the first violation. A oneof is a field
of its own that holds one of its members or nothing.
-/

namespace ProtoRules.Rust

def units (file : File) : Except SchemaError (List OutputUnit) := do
  let messages ← OutputUnit.validated file.messages
  return [{ file, messages, name := file.stem
            path := OutputUnit.directory file.package ++ file.stem ++ ".validate.rs" }]

def plainField (schema : Schema) (package : String) (message : Message) (field : Field) :
    Rendered Tokens := do
  (checksPass schema package).render (← ProjectionError.render (Context.ofField message field))

def oneofType (message : Message) (oneof : Oneof) : String :=
  "::".intercalate ((Text.splitOn '.' message.name).map moduleName ++ [Text.pascal oneof.name])

def memberArm (schema : Schema) (package : String) (message : Message) (type : Tokens)
    (field : Field) : Rendered Tokens := do
  let c ← ProjectionError.render (Context.ofField message field)
  let body ← (checksPass schema package).render { c with accessor := some "v" }
  let variant ← identifier (Text.pascal field.name)
  return arm (optionSome ++
    [parens (type ++ [.op "::", variant, parens [.word "v"]])]) body

def missingMember (message : Message) (oneof : Oneof) : Rendered Tokens := do
  match ← SchemaError.render oneof.rules with
  | some ⟨true, none⟩ => .error (.missingError oneof.name)
  | some ⟨true, some spec⟩ => raise (← SchemaError.render message.errorBase) spec
  | _ => return []

def oneofMatch (schema : Schema) (package : String) (message : Message) (oneof : Oneof) :
    Rendered Tokens := do
  let field ← fieldIdentifier oneof.name
  let type ← path (oneofType message oneof)
  let arms ← concatM (memberArm schema package message type) (message.oneofFields oneof.name)
  let missing ← missingMember message oneof
  return [.word "match", .op "&", .word "self", .op ".", field,
    braces (arms ++ arm optionNone missing)]

def bodyTokens (schema : Schema) (package : String) (message : Message) : Rendered Tokens := do
  if ← SchemaError.render message.isDisabled then return []
  let plain ← concatM (plainField schema package message) message.plainFields
  let oneofs ← concatM (oneofMatch schema package message) message.oneofs
  return plain ++ oneofs

def outerAttribute (body : Tokens) : Tokens :=
  [.op "#", squares body]

def resultType : Tokens :=
  rooted ["core", "result", "Result"] ++ [.op "<", parens [], .op ","] ++
    rooted ["std", "boxed", "Box"] ++ [.op "<", .word "dyn"] ++ rooted ["std", "error", "Error"] ++
    [.op "+", .word "Send", .op "+", .word "Sync", .op ">>"]

/-- The method of a type that runs the checks. -/
def implementation (type body : Tokens) : Tokens :=
  let docs := outerAttribute [.word "doc", .op "=",
    .literal "r\" Checks every declared rule, returning the first violation.\""]
  let lints := outerAttribute [.word "allow",
    parens [.word "unused_variables", .op ",", .word "clippy", .op "::", .word "all"]]
  let signature := [Token.word "pub", .word "fn", .word "validate",
    parens [.op "&", .word "self", .op ","], .op "->"] ++ resultType
  let success := rooted ["core", "result", "Result", "Ok"] ++ [parens [parens []]]
  [.word "impl"] ++ type ++ [braces (docs ++ lints ++ signature ++ [braces (body ++ success)])]

def messageImplementation (schema : Schema) (file : File) (message : Message) :
    Rendered Tokens := do
  let type ← typePath schema file.package (file.fullName message.name)
  return implementation type (← bodyTokens schema file.package message)

def renderUnit (schema : Schema) (unit : OutputUnit) : Rendered String := do
  let tokens ← concatM (messageImplementation schema unit.file) unit.messages
  return "// Code generated by protovet. DO NOT EDIT.\n// source: " ++ unit.file.name ++ "\n\n" ++
    Token.textAll tokens ++ "\n"

end ProtoRules.Rust
