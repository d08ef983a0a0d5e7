import ProtoRules.Emit.Pass
import ProtoRules.Text.Words

/-!
Names in Java source text: classes, the constants of a validator class, and the expressions that
read a value from a message.
-/

namespace ProtoRules.Java

def runtime : String := "io.protovet.runtime"

def package (file : File) : String :=
  file.options.javaPackage.getD file.package

def outerClass (file : File) : String :=
  file.options.javaOuterClassname.getD (Text.pascal file.stem)

def qualified (schema : Schema) (fullName : String) : Rendered String :=
  let name := Text.undot fullName
  match schema.declaringFile? name with
  | none => .error (.schema (.unknownMessage name))
  | some file =>
    let package := package file
    let segments := (if package.isEmpty then [] else [package]) ++
      (if file.options.javaMultipleFiles then [] else [outerClass file]) ++ [file.localName name]
    .ok (".".intercalate segments)

/-- The validator class of a message; the dots of its name become underscores. -/
def validatorClass (message : Message) : String :=
  String.ofList (message.name.toList.map fun c => if c = '.' then '_' else c) ++ "Validator"

def position (alternative : Nat) : String :=
  if alternative = 0 then "" else toString alternative

def constantName (c : Context) (rule : String) (alternative : Nat) : String :=
  Text.camel c.field.name ++ c.suffix ++ "__" ++ rule ++ position alternative

/-- The error that rules of an alternative raise: that of the enclosing alternative for positions
that have none of their own. -/
def errorName (c : Context) (alternative : Nat) : String :=
  if c.ownsErrors then
    Text.camel c.field.name ++ c.suffix ++ "__Error" ++ toString alternative
  else Text.camel c.field.name ++ "__Error" ++ toString (c.errorIndex.getD 0)

def requiredName (c : Context) : String :=
  Text.camel c.field.name ++ c.suffix ++ "__RequiredError"

def oneofErrorName (oneof : Oneof) : String :=
  Text.camel oneof.name ++ "__RequiredError"

def accessor (c : Context) : String :=
  match c.accessor with
  | some accessor => accessor
  | none =>
    let name := Text.pascal c.field.name
    if c.shape.isRepeated then "proto.get" ++ name ++ "List()"
    else if c.shape.isMap then "proto.get" ++ name ++ "Map()"
    else "proto.get" ++ name ++ "()"

/-- The expression that tells whether a value is present; below a field it always is. -/
def presence (c : Context) : String :=
  if c.isNested then "true" else "proto.has" ++ Text.pascal c.field.name ++ "()"

def enumClass (schema : Schema) (c : Context) : Rendered String :=
  match c.shape.single?.bind ElementType.enumName? with
  | none => .error (.schema (.unknownEnum c.field.name))
  | some name => do
    discard (SchemaError.render (schema.enumeration name))
    qualified schema name

end ProtoRules.Java
