import ProtoRules.Emit.JavaBody
import ProtoRules.Emit.JavaConstants
import ProtoRules.Emit.RustBody
import ProtoRules.Proofs.AdmittedValues
import ProtoRules.Proofs.NumberText

/-!
Numbers that are held against bounds. Java compares the signed numbers that have the bits of the
value and of the bound. This is the order of the kind as long as both fit the signed type or neither
does; a value on the other side of that border is taken for a number beyond all those of its side.
-/

namespace ProtoRules

namespace Bounds

variable {α : Type}

/-- The bounds with the labels that Java's constants for them have. -/
def labelled (b : Bounds α) : List (String × Option α) :=
  [("Lt", b.lt), ("Lte", b.lte), ("Gt", b.gt), ("Gte", b.gte)]

/-- The bounds that are set. The constant is none of them. -/
def limits (b : Bounds α) : List α :=
  b.labelled.filterMap Prod.snd

end Bounds

namespace Word

variable {bits : Nat}

private theorem signedBits_signed (w : Word (.signed (bits + 1))) : signedBits bits w.val = w := by
  have double := IntFormat.count_succ bits
  have least := w.lo_le
  have greatest := w.le_hi
  ext
  simp only [IntFormat.lo, IntFormat.hi, Nat.add_sub_cancel] at least greatest
  rw [signedBits_val, if_pos]
  all_goals simp only [IntFormat.lo, IntFormat.hi, Nat.add_sub_cancel]; omega

private theorem signedBits_unsigned_val (w : Word (.unsigned (bits + 1))) :
    (signedBits bits w.val).val =
    if w.val ≤ (IntFormat.signed (bits + 1)).hi then w.val
    else w.val - IntFormat.count (bits + 1) :=
  signedBits_val (Int.le_trans (IntFormat.lo_le_zero _) w.lo_le) w.le_hi

private theorem compare_signedBits_signed (v b : Word (.signed (bits + 1))) :
    compare (signedBits bits v.val).val (signedBits bits b.val).val = Numeral.order v b := by
  rw [signedBits_signed, signedBits_signed, order_eq_compare]

theorem compare_signedBits_unsigned_iff (v b : Word (.unsigned (bits + 1))) :
    compare (signedBits bits v.val).val (signedBits bits b.val).val = Numeral.order v b ↔
      (v.val ≤ (IntFormat.signed (bits + 1)).hi ↔ b.val ≤ (IntFormat.signed (bits + 1)).hi) := by
  have vLeast := v.lo_le
  have vGreatest := v.le_hi
  have bLeast := b.lo_le
  have bGreatest := b.le_hi
  have vBits := signedBits_unsigned_val v
  have bBits := signedBits_unsigned_val b
  rw [order_eq_compare]
  simp only [IntFormat.lo, IntFormat.hi, Nat.add_sub_cancel] at *
  generalize (signedBits bits v.val).val = x at *
  generalize (signedBits bits b.val).val = y at *
  simp only [compare, compareOfLessAndEq]
  have double := IntFormat.count_succ bits
  constructor
  · intro same
    grind
  · intro side
    grind

end Word

namespace NumberFormat.IsInteger

def value : {f : NumberFormat} → f.IsInteger → Number f → Int
  | .word _, _, w => w.val

/-- Whether the signed type of the same width has the number. -/
def FitsSigned : {f : NumberFormat} → f.IsInteger → Number f → Prop
  | .word f, _, w => w.val ≤ (IntFormat.signed f.bits).hi

private theorem fitsSigned_of_signed {f : NumberFormat} (integer : f.IsInteger) {bits : Nat}
    (signed : f = .word (.signed bits)) (v : Number f) : integer.FitsSigned v := by
  cases signed
  exact Word.le_hi v

end NumberFormat.IsInteger

namespace Java

/-- How a message holds a number: one without sign by its bits. -/
def represented : {f : NumberFormat} → f.IsInteger → Number f → Boxed
  | .word f, _, w =>
    if f.bits ≤ 32 then .integer (Word.signedBits 31 w.val) else .long (Word.signedBits 63 w.val)

/-- The order that the boxed types come with; values of two types cannot be compared. -/
def Boxed.compareTo? : Boxed → Boxed → Option Ordering
  | integer a, integer b => some (compare a.val b.val)
  | long a, long b => some (compare a.val b.val)
  | _, _ => none

section Literals

variable {k : NumericKind}

private theorem represented_type (integer : k.format.IsInteger) (v : Number k.format) :
    (represented integer v).type = boxed k := by
  cases k with
  | double | float => exact integer.elim
  | _ => rfl

private theorem read?_number_int32 (w : Word .int32) :
    Boxed.read? (number (.word .int32) w) = some (.integer (Word.signedBits 31 w.val)) := by
  rw [Word.signedBits_signed w]
  exact Boxed.read?_int w

private theorem read?_number_int64 (w : Word .int64) :
    Boxed.read? (number (.word .int64) w) = some (.long (Word.signedBits 63 w.val)) := by
  rw [Word.signedBits_signed w]
  exact Boxed.read?_long w

private theorem read?_number_uint32 (w : Word .uint32) :
    Boxed.read? (number (.word .uint32) w) = some (.integer (Word.signedBits 31 w.val)) := by
  have nonneg : 0 ≤ w.val := w.lo_le
  by_cases small : w.val ≤ IntFormat.int32.hi
  · have least : IntFormat.int32.lo ≤ w.val := Int.le_trans (IntFormat.lo_le_zero _) nonneg
    have text : number (.word .uint32) w = (NumberLiteral.int w.val).text :=
      congrArg NumberLiteral.text (if_pos small)
    have same := Word.signedBits_signed ⟨w.val, least, small⟩
    rw [text, same]
    exact Boxed.read?_int ⟨w.val, least, small⟩
  · have least : IntFormat.int64.lo ≤ w.val := Int.le_trans (IntFormat.lo_le_zero _) nonneg
    have greatest : w.val ≤ IntFormat.int64.hi := Int.le_trans w.le_hi (by decide)
    have text : number (.word .uint32) w = (NumberLiteral.castInt w.val).text :=
      congrArg NumberLiteral.text (if_neg small)
    rw [text]
    exact Boxed.read?_castInt ⟨w.val, least, greatest⟩

private theorem read?_number_uint64 (w : Word .uint64) :
    Boxed.read? (number (.word .uint64) w) = some (.long (Word.signedBits 63 w.val)) := by
  have nonneg : 0 ≤ w.val := w.lo_le
  by_cases small : w.val ≤ IntFormat.int64.hi
  · have least : IntFormat.int64.lo ≤ w.val := Int.le_trans (IntFormat.lo_le_zero _) nonneg
    have text : number (.word .uint64) w = (NumberLiteral.long w.val).text :=
      congrArg NumberLiteral.text (if_pos small)
    have same := Word.signedBits_signed ⟨w.val, least, small⟩
    rw [text, same]
    exact Boxed.read?_long ⟨w.val, least, small⟩
  · have text : number (.word .uint64) w = (NumberLiteral.parseLong w.val).text :=
      congrArg NumberLiteral.text (if_neg small)
    rw [text]
    exact Boxed.read?_parseLong w

private theorem read?_number (integer : k.format.IsInteger) (b : Number k.format) :
    Boxed.read? (number k.format b) = some (represented integer b) := by
  cases k with
  | double | float => exact integer.elim
  | int32 | sint32 | sfixed32 => exact read?_number_int32 b
  | int64 | sint64 | sfixed64 => exact read?_number_int64 b
  | uint32 | fixed32 => exact read?_number_uint32 b
  | uint64 | fixed64 => exact read?_number_uint64 b

theorem compareTo?_represented_iff (integer : k.format.IsInteger) (v b : Number k.format) :
    (represented integer v).compareTo? (represented integer b) = some (Numeral.order v b) ↔
      (integer.FitsSigned v ↔ integer.FitsSigned b) := by
  cases k with
  | double | float => exact integer.elim
  | int32 | sint32 | sfixed32 | int64 | sint64 | sfixed64 =>
      have fits (w : Word _) : integer.FitsSigned w := Word.le_hi w
      exact iff_of_true (congrArg some (Word.compare_signedBits_signed v b))
        (iff_of_true (fits v) (fits b))
  | uint32 | fixed32 | uint64 | fixed64 =>
      exact Option.some_inj.trans (Word.compare_signedBits_unsigned_iff v b)

end Literals

abbrev Comparator := Boxed → Boxed → Option Ordering

/-- Whether a method of the runtime lets a value pass that is held against bounds under an order; a
bound may be null. -/
abbrev Comparisons := String → Comparator → Boxed → List (Option Boxed) → Bool

/-- What the calls rely on: a comparison raises the error unless the order puts the value where the
name of the method says, and a range unless it does so for every bound that is not null. -/
structure Comparisons.Lawful (passes : Comparisons) : Prop where
  less : ∀ order v b,
    passes "ComparativeValidation.lessThan" order v [some b] = (order v b).any Ordering.isLT
  lessOrEqual : ∀ order v b,
    passes "ComparativeValidation.lessThanOrEqual" order v [some b] = (order v b).any Ordering.isLE
  greater : ∀ order v b,
    passes "ComparativeValidation.greaterThan" order v [some b] = (order v b).any Ordering.isGT
  greaterOrEqual : ∀ order v b,
    passes "ComparativeValidation.greaterThanOrEqual" order v [some b] =
      (order v b).any Ordering.isGE
  range : ∀ order v lt lte gt gte,
    passes "ComparativeValidation.range" order v [lt, lte, gt, gte] =
      (lt.all (fun b => (order v b).any Ordering.isLT) &&
        lte.all (fun b => (order v b).any Ordering.isLE) &&
        gt.all (fun b => (order v b).any Ordering.isGT) &&
        gte.all (fun b => (order v b).any Ordering.isGE))

def comparator? : Operand → Option Comparator
  | .code expression => if expression = Call.naturalOrder then some Boxed.compareTo? else none
  | _ => none

/-- The value of an operand in a class that declares the constants. -/
def Operand.bound? (declared : List Constant) : Operand → Option (Option Boxed)
  | .constant name => do
    let constant ← declared.find? (·.name == name)
    let value ← Boxed.read? constant.value
    if value.type = constant.type then return some value else none
  | operand => if operand = nullOperand then some none else none

namespace Call

def comparisons : List String :=
  ["lessThan", "lessThanOrEqual", "greaterThan", "greaterThanOrEqual", "range"].map
    ("ComparativeValidation." ++ ·)

/-- Whether a value passes a call, which names the bounds first and the order last. -/
def passes? (passes : Comparisons) (declared : List Constant) (v : Boxed) (call : Call) :
    Option Bool := do
  let order ← comparator? (← call.operands.getLast?)
  let bounds ← call.operands.dropLast.mapM (Operand.bound? declared)
  return passes call.method order v bounds

section Bounds

variable {α : Type} {name : String → String}

private theorem method_of_mem_bounds {comparator : String} {b : Bounds α} {call : Call}
    (member : call ∈ bounds name comparator b) : call.method ∈ comparisons := by
  simp only [bounds] at member
  split at member
  · have method : "ComparativeValidation.range" ∈ comparisons := by decide
    rw [List.mem_singleton.mp member]
    exact method
  · obtain ⟨⟨method, bound⟩, listed, inside⟩ := List.mem_flatMap.mp member
    obtain ⟨operand, _, rfl⟩ := Option.map_eq_some_iff.mp (Option.mem_toList.mp inside)
    have methods : ∀ m ∈ [lessThan, "ComparativeValidation.lessThanOrEqual", greaterThan,
        "ComparativeValidation.greaterThanOrEqual"], m ∈ comparisons := by
      decide
    exact methods method (List.mem_map_of_mem (f := Prod.fst) listed)

private theorem method_of_mem_sets {allowed denied : List α} {call : Call}
    (member : call ∈ sets name allowed denied) : call.method ∉ comparisons := by
  have inside : "CollectiveValidation.in" ∉ comparisons := by decide
  have outside : "CollectiveValidation.notIn" ∉ comparisons := by decide
  rcases List.mem_append.mp member with ofAllowed | ofDenied
  · split at ofAllowed
    · cases ofAllowed
    · obtain rfl := List.mem_singleton.mp ofAllowed
      exact inside
  · split at ofDenied
    · cases ofDenied
    · obtain rfl := List.mem_singleton.mp ofDenied
      exact outside

private theorem method_of_mem_const {value : Option α} {call : Call}
    (member : call ∈ const name value) :
    call.method ∉ comparisons := by
  have method : "ConstantValidation.constant" ∉ comparisons := by decide
  obtain ⟨v, _, rfl⟩ := Option.map_eq_some_iff.mp (Option.mem_toList.mp member)
  exact method

/-- The comparisons among the calls for a numeric rule are those with its bounds. -/
theorem mem_bounds_iff {r : NumericRule α} {call : Call} :
    call ∈ bounds name naturalOrder r.bounds ↔
      call ∈ ofNumeric name r ∧ call.method ∈ comparisons := by
  rw [ofNumeric, List.mem_append, List.mem_append]
  constructor
  · intro member
    exact ⟨.inl (.inr member), method_of_mem_bounds member⟩
  · rintro ⟨(const | bounds) | sets, comparison⟩
    · exact absurd comparison (method_of_mem_const const)
    · exact bounds
    · exact absurd comparison (method_of_mem_sets sets)

end Bounds

section Passing

variable {α : Type} [Numeral α] {passes : Comparisons} {declared : List Constant} {rep : α → Boxed}
  {v : α}

/-- A bound, if there is one, that a constant holds and that the value is ordered with by its
kind. -/
structure Ordered (declared : List Constant) (rep : α → Boxed) (v : α) (name : String)
    (bound : Option α) : Prop where
  held : ∀ x ∈ bound, (Operand.constant name).bound? declared = some (some (rep x))
  order : ∀ x ∈ bound, (rep v).compareTo? (rep x) = some (Numeral.order v x)

namespace Ordered

variable {name : String} {bound : Option α}

theorem operand (ordered : Ordered declared rep v name bound) :
    ((bound.map fun _ => Operand.constant name).getD nullOperand).bound? declared =
      some (bound.map rep) := by
  cases bound with
  | none => rfl
  | some x => exact ordered.held x rfl

theorem all_iff (ordered : Ordered declared rep v name bound) (test : Ordering → Bool) :
    ((bound.map rep).all fun b => ((rep v).compareTo? b).any test) = true ↔
      ∀ x ∈ bound, test (Numeral.order v x) = true := by
  cases bound with
  | none => simp
  | some x => simp [ordered.order x rfl]

theorem forall_single_iff (ordered : Ordered declared rep v name bound) {method : String}
    {test : Ordering → Bool}
    (law : ∀ order v b, passes method order v [some b] = (order v b).any test) :
    (∀ call ∈ ((bound.map fun _ => Operand.constant name).map fun b =>
        (⟨method, [b, .code naturalOrder]⟩ : Call)).toList,
      call.passes? passes declared (rep v) = some true) ↔
        ∀ x ∈ bound, test (Numeral.order v x) = true := by
  have natural : comparator? (.code naturalOrder) = some Boxed.compareTo? := rfl
  cases bound with
  | none => simp
  | some x => simp [passes?, natural, ordered.held x rfl, law, ordered.order x rfl]

end Ordered

theorem forall_bounds_pass_iff (lawful : passes.Lawful) {name : String → String} {b : Bounds α}
    (held : ∀ label x, (label, some x) ∈ b.labelled →
      (Operand.constant (name label)).bound? declared = some (some (rep x)))
    (ordered : ∀ x ∈ b.limits, (rep v).compareTo? (rep x) = some (Numeral.order v x)) :
    (∀ call ∈ bounds name naturalOrder b, call.passes? passes declared (rep v) = some true) ↔
      b.Admits v := by
  have bound {label : String} {value : Option α} (listed : (label, value) ∈ b.labelled) :
      Ordered declared rep v (name label) value := by
    constructor
    · intro x set
      exact held label x (Option.mem_def.mp set ▸ listed)
    · intro x set
      exact ordered x (List.mem_filterMap.mpr ⟨(label, value), listed, set⟩)
  have lt : Ordered declared rep v (name "Lt") b.lt := bound (by simp [Bounds.labelled])
  have lte : Ordered declared rep v (name "Lte") b.lte := bound (by simp [Bounds.labelled])
  have gt : Ordered declared rep v (name "Gt") b.gt := bound (by simp [Bounds.labelled])
  have gte : Ordered declared rep v (name "Gte") b.gte := bound (by simp [Bounds.labelled])
  rw [Bounds.admits_iff]
  simp only [bounds]
  split
  · -- One call is handed all four bounds, null for those that are missing.
    have natural : comparator? (.code naturalOrder) = some Boxed.compareTo? := rfl
    simp [passes?, natural, lt.operand, lte.operand, gt.operand, gte.operand, lawful.range,
      lt.all_iff, lte.all_iff, gt.all_iff, gte.all_iff, and_assoc]
  · simp only [List.flatMap_cons, List.flatMap_nil, List.append_nil, List.forall_mem_append]
    exact and_congr (lt.forall_single_iff lawful.less)
      (and_congr (lte.forall_single_iff lawful.lessOrEqual)
        (and_congr (gt.forall_single_iff lawful.greater)
          (gte.forall_single_iff lawful.greaterOrEqual)))

end Passing

end Call

namespace Constant

theorem find?_of_mem {declared : List Constant} (nodup : (declared.map name).Nodup)
    {constant : Constant} (member : constant ∈ declared) :
    declared.find? (·.name == constant.name) = some constant := by
  induction declared with
  | nil => cases member
  | cons first rest ih =>
      obtain ⟨fresh, nodup⟩ := List.nodup_cons.mp nodup
      rw [List.find?_cons]
      rcases List.mem_cons.mp member with rfl | member
      · rw [beq_self_eq_true]
      · have other : first.name ≠ constant.name := fun same =>
          fresh (same ▸ List.mem_map_of_mem member)
        rw [beq_eq_false_iff_ne.mpr other]
        exact ih nodup member

end Constant

variable {k : NumericKind}

private theorem Operand.bound?_of_mem (integer : k.format.IsInteger) {declared : List Constant}
    (nodup : (declared.map Constant.name).Nodup) {name : String} {x : Number k.format}
    (member : ⟨boxed k, name, number k.format x⟩ ∈ declared) :
    (constant name).bound? declared = some (some (represented integer x)) := by
  have found := Constant.find?_of_mem nodup member
  simp only [bound?, found, read?_number integer, represented_type, Option.bind_eq_bind,
    Option.bind_some, if_true]
  rfl

private theorem mem_valueConstants {schema : Schema} {c : Context}
    {rules : List (NumericRule (Number k.format))} {own : List Constant}
    (constants : valueConstants schema c (.numeric k rules) = .ok own)
    {r : NumericRule (Number k.format)} {i : Nat} (listed : (r, i) ∈ rules.zipIdx) {label : String}
    {x : Number k.format} (declares : (label, some x) ∈ r.bounds.labelled) :
    ⟨boxed k, constantName c label i, number k.format x⟩ ∈ own := by
  cases constants
  apply List.mem_flatMap.mpr ⟨(r, i), listed, ?_⟩
  apply List.mem_append_left
  apply List.mem_append_left
  apply List.mem_flatMap.mpr
  exact ⟨(label, some x), List.mem_cons_of_mem _ declares, List.mem_singleton_self _⟩

end Java

namespace Rust

def comparison? : String → Option (Ordering → Bool)
  | "<" => some Ordering.isLT
  | "<=" => some Ordering.isLE
  | ">" => some Ordering.isGT
  | ">=" => some Ordering.isGE
  | _ => none

/-- Whether the value of a type violates a comparison with a literal. -/
def violated? (type : String) (v : Int) : Violation → Option Bool
  | [.op "!", .group .paren (.op "*" :: .word "v" :: .op op :: literal)] => do
    let b ← integer? type literal
    let holds ← comparison? op
    return !holds (Ord.compare v b)
  | _ => none

private theorem violated?_fails {f : IntFormat} (v b : Word f) {op : String}
    {holds : Ordering → Bool} (known : comparison? op = some holds) :
    violated? (suffix (.word f)) v.val (fails target op (number (.word f) b)) =
      some (!holds (Numeral.order v b)) := by
  have read : integer? (suffix (.word f)) (number (.word f) b) = some b.val := integer?_integer _ _
  have shape : fails target op (number (.word f) b) =
      [.op "!", .group .paren (.op "*" :: .word "v" :: .op op :: number (.word f) b)] := rfl
  rw [shape, violated?, read, Word.order_eq_compare]
  simp only [known]
  rfl

theorem forall_fails_iff {f : IntFormat} {v : Word f} {op : String} {holds : Ordering → Bool}
    (known : comparison? op = some holds) (bound : Option (Word f)) :
    (∀ violation ∈ (bound.map fun b => fails target op (number (.word f) b)).toList,
      violated? (suffix (.word f)) v.val violation = some false) ↔
        ∀ x ∈ bound, holds (Numeral.order v x) = true := by
  cases bound with
  | none => simp
  | some b => simp [violated?_fails v b known]

/-- The comparisons hold of exactly the values that the bounds admit. -/
theorem forall_bounds_hold_iff {f : NumberFormat} (integer : f.IsInteger) {b : Bounds (Number f)}
    {v : Number f} : (∀ violation ∈ boundViolations (number f) target b,
      violated? (suffix f) (integer.value v) violation = some false) ↔ b.Admits v := by
  cases f with
  | binary f => exact integer.elim
  | word f =>
      rw [Bounds.admits_iff, boundViolations]
      simp only [List.flatMap_cons, List.flatMap_nil, List.append_nil, List.forall_mem_append]
      exact and_congr (forall_fails_iff rfl b.lt) (and_congr (forall_fails_iff rfl b.lte)
        (and_congr (forall_fails_iff rfl b.gt) (forall_fails_iff rfl b.gte)))

end Rust

/-- Java takes a literal for the number it is written for, boxed like the values of the field. It
orders a value and a bound as their kind does exactly if both fit the signed type or neither does,
which those of signed kinds always do. Its calls then let the admitted values pass and no others;
Rust's comparisons do so for all values. -/
theorem bounds_enforced_on_one_side_of_sign {k : NumericKind} (integer : k.format.IsInteger) :
    (∀ v b : Number k.format, ∃ x, Java.Boxed.read? (Java.number k.format b) = some x ∧
      x.type = Java.boxed k ∧
      ((Java.represented integer v).compareTo? x = some (Numeral.order v b) ↔
        (integer.FitsSigned v ↔ integer.FitsSigned b))) ∧
    ((∃ bits, k.format = .word (.signed bits)) → ∀ v, integer.FitsSigned v) ∧
    ∀ (passes : Java.Comparisons), passes.Lawful →
      ∀ (schema : Schema) (c : Context) (rules : List (NumericRule (Number k.format)))
        (own declared : List Java.Constant),
      Java.valueConstants schema c (.numeric k rules) = .ok own → own ⊆ declared →
        (declared.map Java.Constant.name).Nodup →
      ∀ r i, (r, i) ∈ rules.zipIdx → ∀ v : Number k.format,
        ((∀ b ∈ r.bounds.limits, (integer.FitsSigned v ↔ integer.FitsSigned b)) →
          ((∀ call ∈ Java.Call.ofNumeric (Java.constantName c · i) r,
              call.method ∈ Java.Call.comparisons →
                call.passes? passes declared (Java.represented integer v) = some true) ↔
            r.bounds.Admits v)) ∧
        ((∀ violation ∈ Rust.boundViolations (Rust.number k.format) Rust.target r.bounds,
            Rust.violated? (Rust.suffix k.format) (integer.value v) violation = some false) ↔
          r.bounds.Admits v) := by
  refine ⟨fun v b => ?_, ?_, ?_⟩
  · exact ⟨Java.represented integer b, Java.read?_number integer b,
      Java.represented_type integer b, Java.compareTo?_represented_iff integer v b⟩
  · rintro ⟨bits, signed⟩ v
    exact integer.fitsSigned_of_signed signed v
  · intro passes lawful schema c rules own declared constants within nodup r i listed v
    refine ⟨fun side => ?_, Rust.forall_bounds_hold_iff integer⟩
    have held : ∀ label x, (label, some x) ∈ r.bounds.labelled →
        (Java.Operand.constant (Java.constantName c label i)).bound? declared =
          some (some (Java.represented integer x)) := fun label x declares =>
      Java.Operand.bound?_of_mem integer nodup
        (within (Java.mem_valueConstants constants listed declares))
    have ordered : ∀ b ∈ r.bounds.limits, (Java.represented integer v).compareTo?
        (Java.represented integer b) = some (Numeral.order v b) := fun b member =>
      (Java.compareTo?_represented_iff integer v b).mpr (side b member)
    rw [← Java.Call.forall_bounds_pass_iff lawful held ordered]
    simp only [Java.Call.mem_bounds_iff, and_imp]

/-! A count without sign that has to be greater than five. -/

def Java.plainComparisons : Java.Comparisons
  | "ComparativeValidation.lessThan", order, v, [some b] => (order v b).any Ordering.isLT
  | "ComparativeValidation.lessThanOrEqual", order, v, [some b] => (order v b).any Ordering.isLE
  | "ComparativeValidation.greaterThan", order, v, [some b] => (order v b).any Ordering.isGT
  | "ComparativeValidation.greaterThanOrEqual", order, v, [some b] =>
    (order v b).any Ordering.isGE
  | "ComparativeValidation.range", order, v, [lt, lte, gt, gte] =>
    lt.all (fun b => (order v b).any Ordering.isLT) &&
      lte.all (fun b => (order v b).any Ordering.isLE) &&
      gt.all (fun b => (order v b).any Ordering.isGT) &&
      gte.all (fun b => (order v b).any Ordering.isGE)
  | _, _, _, _ => false

private theorem Java.plainComparisons_lawful : plainComparisons.Lawful where
  less _ _ _ := rfl
  lessOrEqual _ _ _ := rfl
  greater _ _ _ := rfl
  greaterOrEqual _ _ _ := rfl
  range _ _ _ _ _ _ := rfl

def countContext : Context where
  field := { name := "count", shape := .single (.scalar (.numeric .uint32)) }
  shape := .single (.scalar (.numeric .uint32))
  rules := .none
  messageRules := none
  errorBase := none
  ownsErrors := true
  errorIndex := none
  inherited := none
  suffix := ""
  accessor := none

def minimumCount : Word .uint32 := ⟨5, by decide, by decide⟩

def countRule : NumericRule (Word .uint32) where
  bounds := { gt := some minimumCount }

def countConstants : List Java.Constant :=
  [⟨"Integer", "count__Gt", "5"⟩]

private theorem valueConstants_count (schema : Schema) :
    Java.valueConstants schema countContext (.numeric .uint32 [countRule]) = .ok countConstants :=
  rfl

private theorem uint32_isInteger : NumericKind.uint32.format.IsInteger :=
  trivial

/-- Whether a count passes the comparisons of the validator. -/
def CountPasses (v : Word .uint32) : Prop :=
  ∀ call ∈ Java.Call.ofNumeric (Java.constantName countContext · 0) countRule,
    call.method ∈ Java.Call.comparisons →
      call.passes? Java.plainComparisons countConstants (Java.represented uint32_isInteger v) =
        some true

def smallCount : Word .uint32 := ⟨7, by decide, by decide⟩

def greatCount : Word .uint32 := ⟨3000000000, by decide, by decide⟩

theorem small_count_passes : CountPasses smallCount := by
  obtain ⟨_, _, enforced⟩ := bounds_enforced_on_one_side_of_sign uint32_isInteger
  have constants := valueConstants_count (Schema.ofFiles [])
  obtain ⟨passes, _⟩ := enforced Java.plainComparisons Java.plainComparisons_lawful _ countContext
    _ _ countConstants constants (List.Subset.refl _) (by decide) countRule 0 List.mem_cons_self
    smallCount
  have side : ∀ b ∈ countRule.bounds.limits,
      (uint32_isInteger.FitsSigned smallCount ↔ uint32_isInteger.FitsSigned b) := by
    intro b member
    cases List.mem_singleton.mp member
    have value : smallCount.val ≤ IntFormat.int32.hi := by decide
    have bound : minimumCount.val ≤ IntFormat.int32.hi := by decide
    exact iff_of_true value bound
  have admitted : countRule.bounds.Admits smallCount :=
    ⟨nofun, nofun, by rintro _ ⟨⟩; decide, nofun⟩
  exact (passes side).mpr admitted

/-- The signed type takes a great count for a negative number, which is below the bound. -/
theorem great_count_rejected :
    countRule.bounds.Admits greatCount ∧ ¬ CountPasses greatCount ∧
      Java.Boxed.read? (Java.number (.word .uint32) minimumCount) =
        some (Java.represented uint32_isInteger minimumCount) ∧
      Numeral.order greatCount minimumCount = .gt ∧
      (Java.represented uint32_isInteger greatCount).compareTo?
        (Java.represented uint32_isInteger minimumCount) = some .lt := by
  refine ⟨⟨nofun, nofun, by rintro _ ⟨⟩; decide, nofun⟩, ?_, rfl, by decide, by decide⟩
  intro passes
  have accepted := passes
    ⟨Java.Call.greaterThan, [.constant "count__Gt", .code Java.Call.naturalOrder]⟩
    List.mem_cons_self (by decide)
  exact absurd accepted (by decide)

end ProtoRules
