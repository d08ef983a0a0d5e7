import ProtoRules.Rules.Decode

/-!
Extension payloads attached to a descriptor, kept as they came and read when they are asked for.
-/

namespace ProtoRules

structure Extensions where
  members : List Json.Member := []
deriving Repr

namespace Extensions

def disabledKey : String := "validate.disabled"

def ignoredKey : String := "validate.ignored"

def errorBaseKey : String := "validate.error_base"

def oneofKey : String := "validate.oneof"

def isEmpty (e : Extensions) : Bool :=
  e.members.isEmpty

def raw? (e : Extensions) (key : String) : Option Json :=
  Dictionary.find? key e.members

def insert (e : Extensions) (key : String) (payload : Json) : Extensions :=
  ⟨Dictionary.insert key payload.canonical e.members⟩

def get {α : Type} (e : Extensions) (key : String) (read : Json → Option α) :
    Except SchemaError (Option α) :=
  match e.raw? key with
  | none => .ok none
  | some payload =>
    match read payload with
    | some value => .ok (some value)
    | none => .error (.malformedExtension key (.unreadable key payload))

/-- A boolean extension; one that is missing is off. -/
def flag (e : Extensions) (key : String) : Except SchemaError Bool := do
  return (← e.get key Json.flag?).getD false

def rules (e : Extensions) : Except SchemaError (Option FieldRules) :=
  match e.raw? rulesKey with
  | none => .ok none
  | some payload => return some (← FieldRules.decode payload)

/-- Every value is a payload, provided that it can be read. -/
def ofJson? (j : Json) : Option Extensions :=
  match j with
  | .obj members =>
    if j.isReadable then some ⟨Json.canonicalMembers members []⟩ else none
  | _ => none

def toJson (e : Extensions) : Json :=
  .obj e.members

end Extensions

end ProtoRules
