import ProtoRules.Descriptor.File

/-!
Descriptors as JSON. Members that are not known are skipped; lists that may be left out are left out
when they are empty, except the fields of a message and the messages of a file.
-/

namespace ProtoRules

open Json (opt many ofWord)

def ValueType.ofJson? (j : Json) : Option ValueType :=
  (Json.constant? j).bind ValueType.ofKeyword?

def ValueType.toJson (t : ValueType) : Json :=
  .str t.keyword

def ElementType.ofJson? (j : Json) : Option ElementType :=
  match Json.variant? j with
  | some ("enum", some content) => content.text?.map enum
  | some ("message", some content) => content.text?.map message
  | some ("scalar", some content) => (ValueType.ofJson? content).map scalar
  | _ => none

def ElementType.toJson : ElementType → Json
  | enum name => .obj [("enum", .str name)]
  | message name => .obj [("message", .str name)]
  | scalar t => .obj [("scalar", t.toJson)]

def Shape.ofJson? (j : Json) : Option Shape :=
  match Json.variant? j with
  | some ("single", some content) => (ElementType.ofJson? content).map single
  | some ("repeated", some content) => (ElementType.ofJson? content).map repeated
  | some ("map", some content) => do
    let r ← Json.record? ["key", "value"] false content
    return map (← r.required? "key" ElementType.ofJson?) (← r.required? "value" ElementType.ofJson?)
  | _ => none

def Shape.toJson : Shape → Json
  | single e => .obj [("single", e.toJson)]
  | repeated e => .obj [("repeated", e.toJson)]
  | map k v => .obj [("map", .obj [("key", k.toJson), ("value", v.toJson)])]

def Extensions.ofRecord? (r : Json.Record) : Option Extensions :=
  r.default? "extensions" {} Extensions.ofJson?

def Extensions.optMember (e : Extensions) : List Json.Member :=
  if e.isEmpty then [] else [("extensions", e.toJson)]

def EnumValue.ofJson? (j : Json) : Option EnumValue := do
  let r ← Json.record? ["name", "number"] false j
  return {
    name := ← r.required? "name" Json.text?
    number := ← r.required? "number" (Json.word? .int32) }

def EnumValue.toJson (v : EnumValue) : Json :=
  .obj [("name", .str v.name), ("number", ofWord v.number)]

def Enum.ofJson? (j : Json) : Option Enum := do
  let r ← Json.record? ["name", "values"] false j
  return {
    name := ← r.required? "name" Json.text?
    values := ← r.required? "values" (Json.list? EnumValue.ofJson?) }

def Enum.toJson (e : Enum) : Json :=
  .obj [("name", .str e.name), ("values", .arr (e.values.map EnumValue.toJson))]

def Field.ofJson? (j : Json) : Option Field := do
  let r ← Json.record? ["name", "type", "oneof", "extensions"] false j
  return {
    name := ← r.required? "name" Json.text?
    shape := ← r.required? "type" Shape.ofJson?
    oneof := ← r.optional? "oneof" Json.text?
    extensions := ← Extensions.ofRecord? r }

def Field.toJson (f : Field) : Json :=
  .obj ([("name", .str f.name), ("type", f.shape.toJson)] ++ opt "oneof" .str f.oneof ++
    f.extensions.optMember)

def Oneof.ofJson? (j : Json) : Option Oneof := do
  let r ← Json.record? ["name", "extensions"] false j
  return {
    name := ← r.required? "name" Json.text?
    extensions := ← Extensions.ofRecord? r }

def Oneof.toJson (o : Oneof) : Json :=
  .obj ([("name", .str o.name)] ++ o.extensions.optMember)

def Message.ofJson? (j : Json) : Option Message := do
  let r ← Json.record? ["name", "fields", "oneofs", "extensions"] false j
  return {
    name := ← r.required? "name" Json.text?
    fields := ← r.list? "fields" Field.ofJson?
    oneofs := ← r.list? "oneofs" Oneof.ofJson?
    extensions := ← Extensions.ofRecord? r }

def Message.toJson (m : Message) : Json :=
  .obj ([("name", .str m.name), ("fields", .arr (m.fields.map Field.toJson))] ++
    many "oneofs" Oneof.toJson m.oneofs ++ m.extensions.optMember)

def FileOptions.ofJson? (j : Json) : Option FileOptions := do
  let r ← Json.record? ["java_package", "java_outer_classname", "java_multiple_files"] false j
  return {
    javaPackage := ← r.optional? "java_package" Json.text?
    javaOuterClassname := ← r.optional? "java_outer_classname" Json.text?
    javaMultipleFiles := ← r.flag? "java_multiple_files" }

def FileOptions.toJson (o : FileOptions) : Json :=
  .obj (opt "java_package" .str o.javaPackage ++
    opt "java_outer_classname" .str o.javaOuterClassname ++
    [("java_multiple_files", .bool o.javaMultipleFiles)])

def File.ofJson? (j : Json) : Option File := do
  let r ← Json.record? ["name", "package", "options", "messages", "enums"] false j
  return {
    name := ← r.required? "name" Json.text?
    package := ← r.default? "package" "" Json.text?
    options := ← r.default? "options" {} FileOptions.ofJson?
    messages := ← r.list? "messages" Message.ofJson?
    enums := ← r.list? "enums" Enum.ofJson? }

def File.toJson (f : File) : Json :=
  .obj ([("name", .str f.name), ("package", .str f.package), ("options", f.options.toJson),
    ("messages", .arr (f.messages.map Message.toJson))] ++ many "enums" Enum.toJson f.enums)

end ProtoRules
