import ProtoRules.Descriptor.Codec
import ProtoRules.Json.Reader

/-!
Requests: the files of a schema, the names of those to generate for, and the parameter text.
-/

namespace ProtoRules

/-- No names to generate for stand for all files. -/
structure Request where
  files : List File
  filesToGenerate : List String := []
  parameter : String := ""
deriving Repr

namespace Request

def filesOfJson? : Json → Option (List File) :=
  Json.list? File.ofJson?

def ofJson? (j : Json) : Option Request := do
  let r ← Json.record? ["files", "files_to_generate", "parameter"] false j
  return {
    files := ← r.required? "files" filesOfJson?
    filesToGenerate := ← r.list? "files_to_generate" Json.text?
    parameter := ← r.default? "parameter" "" Json.text? }

def toJson (r : Request) : Json :=
  .obj ([("files", .arr (r.files.map File.toJson))] ++
    Json.many "files_to_generate" .str r.filesToGenerate ++ [("parameter", .str r.parameter)])

def parse? (text : String) : Option Request :=
  (Json.parse text).bind ofJson?

end Request

structure Artifact where
  path : String
  content : String
deriving DecidableEq, Repr

end ProtoRules
