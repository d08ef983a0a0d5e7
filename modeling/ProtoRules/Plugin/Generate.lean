import ProtoRules.Check.Checker
import ProtoRules.Plugin.Language
import ProtoRules.Plugin.Request

/-!
A run: the files asked for are checked and written one after the other, and the first fault ends the
run without any output.
-/

namespace ProtoRules

inductive GenerateError
  | check (e : CheckError)
  | config (e : ConfigError)
  | outsideModule (path module : String)
  | render (e : RenderError)
  | schema (e : SchemaError)
  | unknownFile (name : String)
deriving DecidableEq, Repr

def GenerateError.message : GenerateError → String
  | check e => e.message
  | config e => e.message
  | outsideModule path module =>
    "output " ++ quoted path ++ " is outside module " ++ quoted module
  | render e => e.message
  | schema e => e.message
  | unknownFile name => "file to generate " ++ quoted name ++ " is not part of the request"

abbrev Generated := Except GenerateError

namespace Generate

def liftCheck : Verdict → Generated Unit
  | .ok () => .ok ()
  | .error e => .error (.check e)

def liftConfig {α : Type} : Except ConfigError α → Generated α
  | .ok a => .ok a
  | .error e => .error (.config e)

def liftRender {α : Type} : Rendered α → Generated α
  | .ok a => .ok a
  | .error e => .error (.render e)

def liftSchema {α : Type} : Except SchemaError α → Generated α
  | .ok a => .ok a
  | .error e => .error (.schema e)

def namedFiles (schema : Schema) : List String → Generated (List File)
  | [] => .ok []
  | name :: names =>
    match schema.file? name with
    | none => .error (.unknownFile name)
    | some file => do return file :: (← namedFiles schema names)

def selected (schema : Schema) (names : List String) : Generated (List File) :=
  if names.isEmpty then .ok schema.files else namedFiles schema names

/-- The directory that a module stands for: its name without slashes at the end. -/
def moduleDirectory? (module : Option String) : Option String :=
  (module.map fun m => String.ofList (Text.dropTail (· == '/') m.toList)).bind Config.nonempty?

def stripModule (module : Option String) (path : String) : Generated String :=
  match moduleDirectory? module with
  | none => .ok path
  | some directory =>
    match Text.after? (directory ++ "/") path with
    | some rest => .ok rest
    | none => .error (.outsideModule path directory)

structure Settings where
  language : Language
  formatter : Option Formatter
  module : Option String

def unitArtifact (s : Settings) (schema : Schema) (unit : OutputUnit) : Generated Artifact := do
  let content ← liftRender (s.language.renderUnit schema unit)
  let path ← stripModule s.module unit.path
  return ⟨path, emit s.formatter content⟩

def unitArtifacts (s : Settings) (schema : Schema) : List OutputUnit → Generated (List Artifact)
  | [] => .ok []
  | unit :: units => do
    let artifact ← unitArtifact s schema unit
    return artifact :: (← unitArtifacts s schema units)

def checkFlags : List Message → Generated Unit
  | [] => .ok ()
  | m :: ms => do
    discard (liftSchema m.isDisabled)
    checkFlags ms

/-- The artifacts of one file, which is checked first. -/
def fileArtifacts (s : Settings) (schema : Schema) (file : File) : Generated (List Artifact) := do
  liftCheck (checkFile schema file)
  checkFlags file.messages
  unitArtifacts s schema (← liftRender (s.language.units file))

def filesArtifacts (s : Settings) (schema : Schema) : List File → Generated (List Artifact)
  | [] => .ok []
  | file :: files => do
    let artifacts ← fileArtifacts s schema file
    return artifacts ++ (← filesArtifacts s schema files)

end Generate

open Generate

abbrev Formatters := Language → Option Formatter

def generate (formatters : Formatters) (request : Request) (config : Config) :
    Generated (List Artifact) := do
  let language ← liftConfig (Language.ofName config.lang)
  let schema := Schema.ofFiles request.files
  let files ← selected schema request.filesToGenerate
  let formatter := if config.format then formatters language else none
  filesArtifacts ⟨language, formatter, config.module⟩ schema files

def execute (formatters : Formatters) (request : Request) : Generated (List Artifact) := do
  generate formatters request (← liftConfig (Config.parse request.parameter))

inductive RunError
  | generate (e : GenerateError)
  | malformedRequest
deriving DecidableEq, Repr

/-- The wording of a fault. Of a malformed request no more is said than that it is malformed. -/
def RunError.message : RunError → String
  | generate e => e.message
  | malformedRequest => "malformed request: <reason>"

def run (formatters : Formatters) (text : String) : Except RunError (List Artifact) :=
  match Request.parse? text with
  | none => .error .malformedRequest
  | some request => (execute formatters request).mapError .generate

end ProtoRules
