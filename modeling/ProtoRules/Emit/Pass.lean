import ProtoRules.Context
import ProtoRules.Descriptor.Schema

/-!
Passes over contexts. A pass writes the rules of each kind in its own way; what is common to all of
them is how a context selects the way and how positions inside a collection are reached.
-/

namespace ProtoRules

inductive RenderError
  | invalidPath (path : String)
  | missingError (field : String)
  | projection (e : ProjectionError)
  | schema (e : SchemaError)
  | temporal (e : TemporalError)
  /-- A name that the target language does not take as an identifier. -/
  | badIdentifier (name : String)
deriving DecidableEq, Repr

def RenderError.message : RenderError → String
  | invalidPath path => "invalid Rust path " ++ quoted path
  | missingError field => "field " ++ quoted field ++ " has a check without an error to raise"
  | projection e => e.message
  | schema e => e.message
  | temporal e => e.message
  | badIdentifier name => quoted name ++ " is not an identifier"

abbrev Rendered := Except RenderError

def ProjectionError.render {α : Type} : Except ProjectionError α → Rendered α
  | .ok a => .ok a
  | .error e => .error (.projection e)

def SchemaError.render {α : Type} : Except SchemaError α → Rendered α
  | .ok a => .ok a
  | .error e => .error (.schema e)

def TemporalError.render {α : Type} : Except TemporalError α → Rendered α
  | .ok a => .ok a
  | .error e => .error (.temporal e)

/-- How the rules of each kind are written, as a list of items. Positions inside are written by the
functions that are handed over. -/
structure Pass (α : Type) where
  message : Context → Option MessageRules → Rendered (List α)
  value : Context → ValueRules → Rendered (List α)
  /-- The scalar inside is written once its accessor is known. -/
  wrapper : (String → Rendered (List α)) → Context → Rendered (List α)
  repeated : (Context.Step → Rendered (List α)) → Context → List (RepeatedRule FieldRules) →
    Rendered (List α)
  map : (Context.Step → Rendered (List α)) → (Context.Step → Rendered (List α)) → Context →
    List (MapRule FieldRules) → Rendered (List α)

namespace Pass

variable {α : Type} (p : Pass α)

def inner (c : Context) (rules : ValueRules) (accessor : String) : Rendered (List α) := do
  p.value (← ProjectionError.render (c.unwrap accessor)) rules

def single (c : Context) : Rendered (List α) :=
  match c.rules with
  | .none => .ok []
  | .message rules => p.message c rules
  | .typed (.value rules) => p.value c rules
  | .typed _ => .error (.projection (.notACollection c.field.name))
  | .wrapper rules => p.wrapper (p.inner c rules) c

def render (c : Context) : Rendered (List α) :=
  let keys step := do p.single (← ProjectionError.render (c.key step))
  let elements step := do p.single (← ProjectionError.render (c.element step))
  match c.rules with
  | .typed (.repeated rules) => p.repeated elements c rules
  | .typed (.map rules) => p.map keys elements c rules
  | _ => p.single c

end Pass

def concatM {α β : Type} (f : α → Rendered (List β)) : List α → Rendered (List β)
  | [] => .ok []
  | a :: as => do
    let first ← f a
    let rest ← concatM f as
    return first ++ rest

end ProtoRules
