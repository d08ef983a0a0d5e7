import ProtoRules.Descriptor.Extensions
import ProtoRules.Descriptor.Shape

/-!
Descriptors: files with their messages and enums. Messages declared inside others are listed in the
file under dotted names.
-/

namespace ProtoRules

structure EnumValue where
  name : String
  number : Word .int32
deriving DecidableEq, Repr

structure Enum where
  name : String
  values : List EnumValue
deriving DecidableEq, Repr

def Enum.isDefined (e : Enum) (number : Word .int32) : Bool :=
  e.values.any (·.number == number)

structure Field where
  name : String
  shape : Shape
  oneof : Option String := none
  extensions : Extensions := {}
deriving Repr

def Field.rules (f : Field) : Except SchemaError (Option FieldRules) :=
  f.extensions.rules

def Field.withRules (f : Field) (payload : Json) : Field :=
  { f with extensions := f.extensions.insert rulesKey payload }

structure Oneof where
  name : String
  extensions : Extensions := {}
deriving Repr

namespace Oneof

def rules (o : Oneof) : Except SchemaError (Option OneofRules) :=
  o.extensions.get Extensions.oneofKey OneofRules.ofJson?

def isRequired (o : Oneof) : Except SchemaError Bool := do
  return (← o.rules).any (·.required)

def withRules (o : Oneof) (payload : Json) : Oneof :=
  { o with extensions := o.extensions.insert Extensions.oneofKey payload }

end Oneof

structure Message where
  name : String
  fields : List Field := []
  oneofs : List Oneof := []
  extensions : Extensions := {}
deriving Repr

namespace Message

def simpleName (m : Message) : String :=
  Text.lastPiece '.' m.name

def field? (m : Message) (name : String) : Option Field :=
  m.fields.find? (·.name == name)

def oneofFields (m : Message) (oneof : String) : List Field :=
  m.fields.filter (·.oneof == some oneof)

def plainFields (m : Message) : List Field :=
  m.fields.filter (·.oneof.isNone)

def isDisabled (m : Message) : Except SchemaError Bool :=
  m.extensions.flag Extensions.disabledKey

def isIgnored (m : Message) : Except SchemaError Bool :=
  m.extensions.flag Extensions.ignoredKey

def errorBase (m : Message) : Except SchemaError (Option ErrorBase) :=
  m.extensions.get Extensions.errorBaseKey ErrorBase.ofJson?

end Message

structure FileOptions where
  javaPackage : Option String := none
  javaOuterClassname : Option String := none
  javaMultipleFiles : Bool := false
deriving DecidableEq, Repr

structure File where
  name : String
  package : String := ""
  options : FileOptions := {}
  messages : List Message := []
  enums : List Enum := []
deriving Repr

namespace File

def fullName (f : File) (declared : String) : String :=
  if f.package = "" then declared else f.package ++ "." ++ declared

def localName (f : File) (name : String) : String :=
  if f.package = "" then name else (Text.after? (f.package ++ ".") name).getD name

def stem (f : File) : String :=
  let base := Text.lastPiece '/' f.name
  (Text.before? ".proto" base).getD base

end File

end ProtoRules
