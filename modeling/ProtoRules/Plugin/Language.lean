import ProtoRules.Emit.JavaClass
import ProtoRules.Emit.RustMethod
import ProtoRules.Plugin.Config
import ProtoRules.Plugin.Format

/-!
The languages that validators are written in.
-/

namespace ProtoRules

inductive Language
  | java
  | rust
deriving DecidableEq, Repr

namespace Language

def name : Language → String
  | java => "java"
  | rust => "rust"

def ofName (name : String) : Except ConfigError Language :=
  match name with
  | "java" => .ok java
  | "rust" => .ok rust
  | other => .error (.unknownLanguage other)

@[simp] theorem ofName_name (l : Language) : ofName l.name = .ok l := by
  cases l <;> rfl

def hasFormatter : Language → Bool
  | java => false
  | rust => true

def units (l : Language) (file : File) : Rendered (List OutputUnit) :=
  SchemaError.render <| match l with
    | java => Java.units file
    | rust => Rust.units file

def renderUnit (l : Language) (schema : Schema) (unit : OutputUnit) : Rendered String :=
  match l with
  | java => Java.renderUnit schema unit
  | rust => Rust.renderUnit schema unit

end Language

end ProtoRules
