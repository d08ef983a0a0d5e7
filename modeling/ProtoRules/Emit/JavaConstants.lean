import ProtoRules.Emit.JavaLiteral
import ProtoRules.Emit.JavaName
import ProtoRules.Rules.WellKnownPattern

/-!
The constants of a validator class: bounds, sets, compiled patterns, and the errors that failing
rules raise. Positions below a field have no errors of their own.
-/

namespace ProtoRules.Java

structure Constant where
  type : String
  name : String
  value : String
deriving DecidableEq, Repr

namespace Constant

def line (k : Constant) : String :=
  "private final " ++ k.type ++ " " ++ k.name ++ " = " ++ k.value ++ ";"

def array (type name : String) (items : List String) : List Constant :=
  if items.isEmpty then []
  else [⟨type ++ "[]", name, "new " ++ type ++ "[]" ++ braced (", ".intercalate items)⟩]

def bounds {α : Type} (type : String) (name : String → String) (text : α → String)
    (b : Bounds α) : List Constant :=
  [("Const", b.const), ("Lt", b.lt), ("Lte", b.lte), ("Gt", b.gt), ("Gte", b.gte)].flatMap
    fun (rule, value) => (value.map fun v => ⟨type, name rule, text v⟩).toList

def sets {α : Type} (type : String) (name : String → String) (text : α → String)
    (allowed denied : List α) : List Constant :=
  array type (name "In") (allowed.map text) ++ array type (name "NotIn") (denied.map text)

def patternType : String := "com.google.re2j.Pattern"

def pattern (name : String) (p : Option String) : List Constant :=
  (p.map fun p => ⟨patternType, name, patternType ++ ".compile(" ++ string p ++ ")"⟩).toList

def errorType : String := "RuntimeException"

/-- The error of an alternative, for positions that own theirs. -/
def error (c : Context) (alternative : Nat) (own : Option ErrorSpec) : List Constant :=
  if c.ownsErrors then
    (own.map fun spec => ⟨errorType, errorName c alternative, errorCall c.errorBase spec⟩).toList
  else []

def required (c : Context) (rules : Option MessageRules) : List Constant :=
  match rules with
  | some ⟨_, true, some spec⟩ =>
    if c.ownsErrors then [⟨errorType, requiredName c, errorCall c.errorBase spec⟩] else []
  | _ => []

end Constant

def alternatives {α : Type} (rules : List α) (constants : α → Nat → List Constant) :
    List Constant :=
  rules.zipIdx.flatMap fun (r, i) => constants r i

def byteStringType : String := "com.google.protobuf.ByteString"

def byteString (bs : Bytes) : String :=
  byteStringType ++ ".copyFrom(" ++ bytes bs ++ ")"

open Constant

def partConstants (name : String → String) (r : BytesRule) : List Constant :=
  [("Prefix", r.startsWith), ("Contains", r.contains), ("Suffix", r.endsWith)].flatMap
    fun (rule, value) => (value.map fun v => ⟨"byte[]", name rule, bytes v⟩).toList

def valueConstants (schema : Schema) (c : Context) : ValueRules → Rendered (List Constant)
  | .any rules => .ok (alternatives rules fun r i =>
      sets "String" (constantName c · i) string r.allowed r.denied ++ error c i r.error)
  | .bool r => .ok (error c 0 r.error)
  | .bytes rules => .ok (alternatives rules fun r i =>
      let name := (constantName c · i)
      (r.const.map fun v => ⟨byteStringType, name "Const", byteString v⟩).toList ++
        sets byteStringType name byteString r.allowed r.denied ++
        pattern (name "Pattern") r.pattern ++ partConstants name r ++ error c i r.error)
  | .duration rules => .ok (alternatives rules fun r i =>
      let name := (constantName c · i)
      bounds durationType name duration r.bounds ++
        sets durationType name duration r.allowed r.denied ++ error c i r.error)
  | .enum rules => do
    let type ← enumClass schema c
    let member (n : Word .int32) := type ++ ".forNumber(" ++ n.text ++ ")"
    return alternatives rules fun r i =>
      sets type (constantName c · i) member r.allowed r.denied ++ error c i r.error
  | .numeric k rules => .ok (alternatives rules fun r i =>
      let name := (constantName c · i)
      bounds (boxed k) name (number k.format) r.bounds ++
        sets (boxed k) name (number k.format) r.allowed r.denied ++ error c i r.error)
  | .string rules => .ok (alternatives rules fun r i =>
      let name := (constantName c · i)
      sets "String" name string r.allowed r.denied ++
        pattern (name "Pattern") r.effectivePattern? ++ error c i r.error)
  | .timestamp rules => .ok (alternatives rules fun r i =>
      let name := (constantName c · i)
      bounds timestampType name timestamp r.bounds ++
        (r.within.map fun d => ⟨durationType, name "Within", duration d⟩).toList ++
        error c i r.error)

def constantsPass (schema : Schema) : Pass Constant where
  message c rules := .ok (required c (rules <|> c.messageRules))
  value := valueConstants schema
  wrapper inner c := do
    return required c c.messageRules ++ (← inner "")
  repeated elements c rules := do
    let items ← elements ⟨"", "", none⟩
    return items ++ alternatives rules fun r i => error c i r.error
  map keys elements c rules := do
    let key ← keys ⟨"key", "Key", none⟩
    let value ← elements ⟨"value", "Value", none⟩
    return key ++ value ++ alternatives rules fun r i => error c i r.error

end ProtoRules.Java
