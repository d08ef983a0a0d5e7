import ProtoRules.Emit.JavaBody
import ProtoRules.Emit.JavaConstants
import ProtoRules.Emit.OutputUnit

/-!
Java validators: the classes that files are written as, and their text. A validator class declares
the constants of all fields of its message and checks the fields one after the other; of the members
of a oneof it checks the one that is set.
-/

namespace ProtoRules.Java

def validatorFile (file : File) (messages : List Message) (owner : String) : OutputUnit :=
  let name := owner ++ "Validator"
  { file, messages, name, path := OutputUnit.directory (package file) ++ name ++ ".java" }

/-- The messages that go into the file of a top-level message: itself and those nested in it. -/
def family (file : File) (top : Message) : List Message :=
  file.messages.filter fun m => m.name == top.name || (Text.after? (top.name ++ ".") m.name).isSome

/-- The files of top-level messages; one that nothing is validated for is left out. -/
def topLevelUnits (file : File) : List Message → Except SchemaError (List OutputUnit)
  | [] => .ok []
  | top :: tops => do
    let messages ← OutputUnit.validated (family file top)
    let rest ← topLevelUnits file tops
    return if messages.isEmpty then rest else validatorFile file messages top.name :: rest

def isTopLevel (m : Message) : Bool :=
  !m.name.toList.contains '.'

def units (file : File) : Except SchemaError (List OutputUnit) :=
  if file.options.javaMultipleFiles then topLevelUnits file (file.messages.filter isTopLevel)
  else do
    return [validatorFile file (← OutputUnit.validated file.messages) (outerClass file)]

structure Case where
  label : String
  body : List Statement

structure Switch where
  selector : String
  cases : List Case
  missing : Option Operand

structure ClassBody where
  constants : List Constant
  statements : List Statement
  switches : List Switch

namespace ClassBody

def ofPlainFields (schema : Schema) (message : Message) :
    List Field → Rendered (List Constant × List Statement)
  | [] => .ok ([], [])
  | field :: fields => do
    let c ← ProjectionError.render (Context.ofField message field)
    let constants ← (constantsPass schema).render c
    let statements ← (statementsPass schema).render c
    let (moreConstants, moreStatements) ← ofPlainFields schema message fields
    return (constants ++ moreConstants, statements ++ moreStatements)

def oneofConstants (schema : Schema) (message : Message) (oneof : Oneof) :
    Rendered (List Constant) := do
  let rules ← SchemaError.render oneof.rules
  let own ← match rules.bind (·.error) with
    | some spec => do
      let base ← SchemaError.render message.errorBase
      pure [⟨Constant.errorType, oneofErrorName oneof, errorCall base spec⟩]
    | none => pure []
  let members ← concatM (fun field => do
    (constantsPass schema).render (← ProjectionError.render (Context.ofField message field)))
    (message.oneofFields oneof.name)
  return own ++ members

def oneofCase (schema : Schema) (message : Message) (field : Field) : Rendered Case := do
  let c ← ProjectionError.render (Context.ofField message field)
  return ⟨Text.toUpper field.name, ← (statementsPass schema).render c⟩

def oneofSwitch (schema : Schema) (message : Message) (oneof : Oneof) : Rendered Switch := do
  let cases ← concatM (fun field => do return [← oneofCase schema message field])
    (message.oneofFields oneof.name)
  let rules ← SchemaError.render oneof.rules
  let selector := "proto.get" ++ Text.pascal oneof.name ++ "Case()"
  match rules with
  | some ⟨true, none⟩ => .error (.missingError oneof.name)
  | some ⟨true, some spec⟩ =>
    return ⟨selector, cases, some (.error (oneofErrorName oneof) spec)⟩
  | _ => return ⟨selector, cases, none⟩

def ofOneofs (schema : Schema) (message : Message) :
    List Oneof → Rendered (List Constant × List Switch)
  | [] => .ok ([], [])
  | oneof :: oneofs => do
    let constants ← oneofConstants schema message oneof
    let switch ← oneofSwitch schema message oneof
    let (moreConstants, switches) ← ofOneofs schema message oneofs
    return (constants ++ moreConstants, switch :: switches)

def ofMessage (schema : Schema) (message : Message) : Rendered ClassBody := do
  let (plain, statements) ← ofPlainFields schema message message.plainFields
  let (members, switches) ← ofOneofs schema message message.oneofs
  return ⟨plain ++ members, statements, switches⟩

end ClassBody

def atDepth (depth : Nat) (line : String) : String :=
  Lines.tabs depth ++ line

def Case.lines (k : Case) : Lines :=
  [atDepth 1 ("case " ++ k.label ++ ":")] ++ Lines.indent 2 (Statement.linesAll k.body) ++
    [atDepth 2 "break;"]

def Switch.lines (s : Switch) : Lines :=
  [opens ("switch (" ++ s.selector ++ ")")] ++ s.cases.flatMap Case.lines ++
    (match s.missing with
      | some error => [atDepth 1 "default:",
        atDepth 2 (callText requiredMethod [error, nullOperand])]
      | none => []) ++ [closes ""]

def ClassBody.lines (b : ClassBody) : Lines :=
  Statement.linesAll b.statements ++ b.switches.flatMap Switch.lines

def disabledLines (message : Message) : Lines :=
  ["// Validate is disabled for " ++ message.simpleName, "return;"]

def validatorLines (schema : Schema) (file : File) (message : Message) : Rendered Lines := do
  let type ← qualified schema (file.fullName message.name)
  let disabled ← SchemaError.render message.isDisabled
  let (constants, body) ←
    if disabled then pure ([], disabledLines message)
    else do
      let parts ← ClassBody.ofMessage schema message
      pure (parts.constants.map Constant.line, parts.lines)
  return ["/**",
      " * Validates " ++ braced ("@code " ++ message.simpleName) ++ " protobuf objects.",
      " */",
      opens ("public static class " ++ validatorClass message ++ " implements " ++ runtime ++
        ".ValidatorImpl<" ++ type ++ ">")] ++
    Lines.indent 1 constants ++ [""] ++
    [atDepth 1 (opens ("public void assertValid(" ++ type ++ " proto, " ++ runtime ++
      ".ValidatorIndex index) throws RuntimeException"))] ++
    Lines.indent 2 body ++ [atDepth 1 (closes ""), closes ""]

def selectionLine (schema : Schema) (file : File) (message : Message) : Rendered String := do
  let type ← qualified schema (file.fullName message.name)
  return atDepth 2 ("if (clazz.equals(" ++ type ++ ".class)) return new " ++
    validatorClass message ++ "();")

def packageLines (file : File) : Lines :=
  if (package file).isEmpty then [] else ["package " ++ package file ++ ";", ""]

def unitLines (schema : Schema) (unit : OutputUnit) : Rendered Lines := do
  let selection ← concatM (fun m => do return [← selectionLine schema unit.file m]) unit.messages
  let classes ← concatM (fun m => do
    return "" :: Lines.indent 1 (← validatorLines schema unit.file m)) unit.messages
  return ["// Code generated by protovet. DO NOT EDIT.", "// source: " ++ unit.file.name, ""] ++
    packageLines unit.file ++
    ["@SuppressWarnings(\"all\")",
      opens ("public class " ++ unit.name),
      atDepth 1 (opens ("public static " ++ runtime ++
        ".ValidatorImpl validatorFor(Class clazz)"))] ++
    selection ++ [atDepth 2 "return null;", atDepth 1 (closes "")] ++ classes ++ [closes ""]

def renderUnit (schema : Schema) (unit : OutputUnit) : Rendered String :=
  (unitLines schema unit).map Lines.text

end ProtoRules.Java
