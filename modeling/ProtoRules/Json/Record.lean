import ProtoRules.Json.Basic
import ProtoRules.Number.Numeral

/-!
Reading typed values out of JSON. A record is written as an object or, with its fields in their
order, as an array. A reader only says whether a value has the type; why it has not is not worded.
-/

namespace ProtoRules.Json

def text? : Json → Option String
  | str s => some s
  | _ => none

def flag? : Json → Option Bool
  | bool b => some b
  | _ => none

def word? (f : IntFormat) : Json → Option (Word f)
  | int n => Word.ofInt? f n
  | _ => none

/-- Every number is read as a float, rounded once more where the format is narrower. -/
def binary? (f : FloatFormat) : Json → Option (Binary f)
  | int n => some (Binary.ofInt f n)
  | float x => some (x.convert f)
  | _ => none

def number? : (f : NumberFormat) → Json → Option (Number f)
  | .word f => word? f
  | .binary f => binary? f

def byte? : Json → Option UInt8
  | int n => if 0 ≤ n ∧ n < 256 then some (UInt8.ofNat n.toNat) else none
  | _ => none

def list? {α : Type} (read : Json → Option α) : Json → Option (List α)
  | arr items => items.mapM read
  | _ => none

def bytes? : Json → Option (List UInt8) := list? byte?

def nullable? {α : Type} (read : Json → Option α) : Json → Option (Option α)
  | null => some none
  | j => (read j).map some

structure Record where
  positional : Bool
  members : List Member

/-- Opens a record with the given fields. A known field must not repeat; a closed record has no
other members. -/
def record? (fields : List String) (closed : Bool) : Json → Option Record
  | obj members =>
    if fields.all (fun f => members.countP (·.1 == f) ≤ 1) &&
        (!closed || members.all (fun m => fields.contains m.1)) then
      some ⟨false, members⟩
    else none
  | arr items => if items.length ≤ fields.length then some ⟨true, fields.zip items⟩ else none
  | _ => none

namespace Record

def field? {α : Type} (r : Record) (name : String) (absent : Option α) (read : Json → Option α) :
    Option α :=
  match Dictionary.find? name r.members with
  | some j => read j
  | none => absent

def required? {α : Type} (r : Record) (name : String) (read : Json → Option α) : Option α :=
  r.field? name none read

def default? {α : Type} (r : Record) (name : String) (default : α) (read : Json → Option α) :
    Option α :=
  r.field? name (some default) read

def optional? {α : Type} (r : Record) (name : String) (read : Json → Option α) :
    Option (Option α) :=
  r.field? name (some none) (nullable? read)

/-- A field that may be null, and left out of an object but not of an array. -/
def nullable? {α : Type} (r : Record) (name : String) (read : Json → Option α) :
    Option (Option α) :=
  r.field? name (if r.positional then none else some none) (Json.nullable? read)

def flag? (r : Record) (name : String) : Option Bool :=
  r.default? name false Json.flag?

def list? {α : Type} (r : Record) (name : String) (read : Json → Option α) : Option (List α) :=
  r.default? name [] (Json.list? read)

end Record

/-- A choice is written as its name alone or as an object whose one member is the name with its
content. -/
def variant? : Json → Option (String × Option Json)
  | str name => some (name, none)
  | obj [(name, content)] => some (name, some content)
  | _ => none

/-- A choice without content: its name alone, or with null. -/
def constant? (j : Json) : Option String :=
  match variant? j with
  | some (name, none) => some name
  | some (name, some null) => some name
  | _ => none

def opt {α : Type} (name : String) (write : α → Json) : Option α → List Member
  | some a => [(name, write a)]
  | none => []

def many {α : Type} (name : String) (write : α → Json) : List α → List Member
  | [] => []
  | as => [(name, arr (as.map write))]

def ofWord {f : IntFormat} (w : Word f) : Json :=
  int w.val

def ofByte (b : UInt8) : Json :=
  int b.toNat

def ofBytes (bs : List UInt8) : Json :=
  arr (bs.map ofByte)

def ofNumber : (f : NumberFormat) → Number f → Json
  | .word _, w => ofWord w
  | .binary _, x =>
    let y := Binary.convert .double x
    if y.isFinite then float y else null

end ProtoRules.Json
