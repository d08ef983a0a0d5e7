import ProtoRules.Text.Enclosures
import ProtoRules.Text.Pieces
import ProtoRules.Emit.JavaName

/-!
Statements of Java validators, and their text line by line. A statement is never empty: blocks with
nothing inside are left out when they are built.
-/

namespace ProtoRules.Java

abbrev Lines := List String

namespace Lines

def text (lines : Lines) : String :=
  String.join (lines.map (· ++ "\n"))

def tabs (depth : Nat) : String :=
  String.ofList (List.replicate depth '\t')

def dropReturn (cs : List Char) : List Char :=
  if cs.getLast? = some '\r' then cs.dropLast else cs

/-- A line moved to the right. Names may hold line feeds, so a line may be several; empty ones stay
empty, and a carriage return at the end is dropped. -/
def indentLine (depth : Nat) (line : String) : Lines :=
  (Text.pieces '\n' line.toList).map fun piece =>
    let rest := dropReturn piece
    if rest.isEmpty then "" else tabs depth ++ String.ofList rest

def indent (depth : Nat) (lines : Lines) : Lines :=
  lines.flatMap (indentLine depth)

end Lines

/-- What a call is handed. An error is the one to raise, by the name of the constant that holds it.
-/
inductive Operand
  | error (name : String) (spec : ErrorSpec)
  | constant (name : String)
  | code (expression : String)
deriving DecidableEq, Repr

def Operand.text : Operand → String
  | error name _ => name
  | constant name => name
  | code expression => expression

inductive Statement
  | note (text : String)
  | call (condition : Option String) (method : String) (operands : List Operand)
  | delegate (condition accessor : String)
  | required (condition : String) (error : Operand) (accessor : String)
  | block (condition : String) (body : List Statement)
  | forEach (method target parameter : String) (body : List Statement)
  /-- The scalar of a wrapper, and what is raised if the wrapper is missing. -/
  | unwrapped (condition : String) (body : List Statement) (missing : Option Operand)

def callText (method : String) (operands : List Operand) : String :=
  runtime ++ "." ++ method ++ "(" ++ ", ".intercalate (operands.map Operand.text) ++ ");"

def requiredMethod : String := "RequiredValidation.required"

def nullOperand : Operand := .code "null"

namespace Statement

mutual

def lines : Statement → Lines
  | note text => ["// " ++ text]
  | call condition method operands =>
    [(condition.map fun c => "if (" ++ c ++ ") ").getD "" ++ callText method operands]
  | delegate condition accessor =>
    ["if (" ++ condition ++ ") index.validatorFor(" ++ accessor ++ ").assertValid(" ++
      accessor ++ ");"]
  | required condition error accessor =>
    [opens ("if (" ++ condition ++ ")"),
      "\t" ++ callText requiredMethod [error, .code accessor],
      closes (opens " else"),
      "\t" ++ callText requiredMethod [error, nullOperand],
      closes ";"]
  | block condition body =>
    [opens ("if ( " ++ condition ++ " )")] ++ Lines.indent 1 (linesAll body) ++ [closes ""]
  | forEach method target parameter body =>
    [opens (runtime ++ "." ++ method ++ "(" ++ target ++ ", " ++ parameter ++ " ->")] ++
      Lines.indent 1 (linesAll body) ++ [closes ");"]
  | unwrapped condition body missing =>
    [opens ("if (" ++ condition ++ ")")] ++ Lines.indent 1 (linesAll body) ++
      (match missing with
        | some error =>
          [closes (opens " else"), "\t" ++ callText requiredMethod [error, nullOperand]]
        | none => []) ++ [closes ""]

def linesAll : List Statement → Lines
  | [] => []
  | s :: ss => lines s ++ linesAll ss

end

def guarded (condition : Option String) (body : List Statement) : List Statement :=
  match condition, body with
  | some _, [] => []
  | some condition, body => [block condition body]
  | none, body => body

def forAll (method target parameter : String) (body : List Statement) : List Statement :=
  if body.isEmpty then [] else [forEach method target parameter body]

end Statement

end ProtoRules.Java
