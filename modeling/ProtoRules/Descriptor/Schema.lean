import ProtoRules.Descriptor.File

/-!
The types of a set of files by qualified name. A later declaration of a name hides earlier ones.
-/

namespace ProtoRules

structure Position where
  file : Nat
  entry : Nat
deriving DecidableEq, Repr

structure Schema where
  files : List File
  messages : List (String × Position)
  enums : List (String × Position)

namespace Schema

def declarations {α : Type} (select : File → List α) (name : α → String) (files : List File) :
    List (String × Position) :=
  files.zipIdx.flatMap fun (file, i) =>
    (select file).zipIdx.map fun (a, k) => (file.fullName (name a), ⟨i, k⟩)

def ofFiles (files : List File) : Schema where
  files
  messages := Dictionary.ofList (declarations File.messages Message.name files)
  enums := Dictionary.ofList (declarations File.enums Enum.name files)

def file? (s : Schema) (name : String) : Option File :=
  s.files.find? (·.name == name)

def at? {α : Type} (s : Schema) (select : File → List α) (p : Position) : Option (File × α) := do
  let file ← s.files[p.file]?
  let entry ← (select file)[p.entry]?
  return (file, entry)

/-- A message by its qualified name, which may carry a leading dot. -/
def message (s : Schema) (name : String) : Except SchemaError Message :=
  match (Dictionary.find? (Text.undot name) s.messages).bind (s.at? File.messages) with
  | some (_, message) => .ok message
  | none => .error (.unknownMessage name)

def enumeration (s : Schema) (name : String) : Except SchemaError Enum :=
  match (Dictionary.find? (Text.undot name) s.enums).bind (s.at? File.enums) with
  | some (_, e) => .ok e
  | none => .error (.unknownEnum name)

/-- The file that declares a message or, if there is none of that name, an enum. -/
def declaringFile? (s : Schema) (name : String) : Option File := do
  let key := Text.undot name
  let position ← Dictionary.find? key s.messages <|> Dictionary.find? key s.enums
  s.files[position.file]?

end Schema

end ProtoRules
