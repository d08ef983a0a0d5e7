import ProtoRules.Json.Basic
import ProtoRules.Rules.Kind
import ProtoRules.Text.Enclosures

/-!
Faults in descriptors and in the payloads of their extensions.
-/

namespace ProtoRules

/-- What is wrong with an extension. A value that cannot be read is given with the name of what it
was to be read as: the two tell why it cannot. -/
inductive Malformation
  | notAnObject
  | twoKinds (first second : RuleKind)
  | unreadable (name : String) (value : Json)
deriving DecidableEq, Repr

/-- The wording of a reason. Of a value that cannot be read no more is said than that there is a
reason. -/
def Malformation.message : Malformation → String
  | notAnObject => "expected an object"
  | twoKinds a b =>
    "rule kinds " ++ quoted a.keyword ++ " and " ++ quoted b.keyword ++
      " cannot be declared together"
  | unreadable _ _ => "<reason>"

inductive SchemaError
  | malformedExtension (key : String) (reason : Malformation)
  | unknownEnum (name : String)
  | unknownMessage (name : String)
  | unknownRuleKind (name : String)
deriving DecidableEq, Repr

def SchemaError.message : SchemaError → String
  | malformedExtension key reason =>
    "malformed extension " ++ quoted key ++ ": " ++ reason.message
  | unknownEnum name => "unknown enum " ++ quoted name
  | unknownMessage name => "unknown message " ++ quoted name
  | unknownRuleKind name => "unknown rule type (" ++ name ++ ")"

end ProtoRules
