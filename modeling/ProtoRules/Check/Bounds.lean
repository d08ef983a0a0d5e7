import ProtoRules.Check.Declared
import ProtoRules.Number.Numeral
import ProtoRules.Rules.Basic
import ProtoRules.Text.Blank

/-!
Consistency of a constant, of bounds and of membership sets. What is accepted admits more than one
value wherever both an upper and a lower bound are declared over discrete values.
-/

namespace ProtoRules

instance instNumeralInt : Numeral Int where
  same a b := a == b
  below a b := a < b
  next? n := some (n + 1)
  prev? n := some (n - 1)
  text := toString

namespace Bounds

variable {α : Type}

def merge (a b : Bounds α) : Bounds α where
  const := a.const <|> b.const
  lt := a.lt <|> b.lt
  lte := a.lte <|> b.lte
  gt := a.gt <|> b.gt
  gte := a.gte <|> b.gte

def upper? (b : Bounds α) : Option (String × α) :=
  b.lt.map ("lt", ·) <|> b.lte.map ("lte", ·)

def lower? (b : Bounds α) : Option (String × α) :=
  b.gt.map ("gt", ·) <|> b.gte.map ("gte", ·)

def hasRange (b : Bounds α) : Bool :=
  b.lt.isSome || b.lte.isSome || b.gt.isSome || b.gte.isSome

def declared (b : Bounds α) : List String :=
  named "const" b.const.isSome ++ named "lt" b.lt.isSome ++ named "lte" b.lte.isSome ++
    named "gt" b.gt.isSome ++ named "gte" b.gte.isSome

def mapM {β ε : Type} (f : String → α → Except ε β) (b : Bounds α) : Except ε (Bounds β) := do
  return {
    const := ← b.const.mapM (f "const")
    lt := ← b.lt.mapM (f "lt")
    lte := ← b.lte.mapM (f "lte")
    gt := ← b.gt.mapM (f "gt")
    gte := ← b.gte.mapM (f "gte") }

end Bounds

section Tests

def refuse (holds : Bool) (c : Conflict) : Except Conflict Unit :=
  if holds then .error c else .ok ()

@[simp] theorem refuse_eq_ok_iff {holds : Bool} {c : Conflict} :
    refuse holds c = .ok () ↔ holds = false := by
  cases holds <;> simp [refuse]

def checkSets (allowed denied : Nat) : Except Conflict Unit :=
  refuse (allowed != 0 && denied != 0) (.together "in" "not_in")

variable {α : Type} [Numeral α]

def checkRange (low up : String × α) : Except Conflict Unit := do
  let shownLow : ShownBound := ⟨low.1, Numeral.text low.2⟩
  let shownUp : ShownBound := ⟨up.1, Numeral.text up.2⟩
  refuse (Numeral.same up.2 low.2)
    (if up.1 = "lte" ∧ low.1 = "gte" then .equalInclusive else .equalBounds low.1 up.1)
  refuse (!Numeral.below low.2 up.2) (.inverted shownLow shownUp)
  let first? := if low.1 = "gt" then Numeral.next? low.2 else some low.2
  let last? := if up.1 = "lt" then Numeral.prev? up.2 else some up.2
  match first?, last? with
  | some first, some last =>
    refuse (Numeral.below last first) (.noneBetween shownLow shownUp)
    refuse (Numeral.same first last) (.oneBetween shownLow shownUp (Numeral.text first))
  | _, _ => pure ()

def checkNums (allowed denied : Nat) (b : Bounds α) : Except Conflict Unit := do
  if b.const.isSome then
    refuse (allowed != 0) (.together "const" "in")
    refuse (denied != 0) (.together "const" "not_in")
    refuse b.lt.isSome (.together "const" "lt")
    refuse b.lte.isSome (.together "const" "lte")
    refuse b.gt.isSome (.together "const" "gt")
    refuse b.gte.isSome (.together "const" "gte")
  checkSets allowed denied
  refuse (allowed != 0 && b.hasRange) .allowedWithRange
  refuse (b.lt.isSome && b.lte.isSome) (.together "lt" "lte")
  refuse (b.gt.isSome && b.gte.isSome) (.together "gt" "gte")
  match b.lower?, b.upper? with
  | some low, some up => checkRange low up
  | _, _ => pure ()

end Tests

def comparisonExclusions : Exclusions where
  alone := ["const"]
  pairs := [("lt", "lte"), ("gt", "gte"), ("in", "not_in"), ("in", "lt"), ("in", "lte"),
    ("in", "gt"), ("in", "gte")]

/-- A specification must name a method; it may be missing only where the rules are injected into a
rule that has one. -/
def checkError (error : Option ErrorSpec) (inject : Bool) (kind : String) : Verdict :=
  match error with
  | some e => Verdict.require (!Text.isBlankText e.method) (.missingError .blankMethod)
  | none => Verdict.require inject (.missingError (.undeclared kind))

structure Tally (α : Type) where
  seen : List String := []
  bounds : Bounds α := {}

namespace Tally

variable {α : Type}

def add (t : Exclusions) (tally : Tally α) (rules : List String) (b : Bounds α) :
    Except CheckError (Tally α) := do
  let seen ← Conflict.lift (t.declareAll tally.seen rules)
  return ⟨seen, tally.bounds.merge b⟩

end Tally

def NumericRule.declared {α : Type} (r : NumericRule α) : List String :=
  r.bounds.declared ++ named "in" (!r.allowed.isEmpty) ++ named "not_in" (!r.denied.isEmpty)

/-- Every alternative is tested by itself, then the bounds of all of them together. -/
def checkNumeric {α : Type} [Numeral α] (kind : String) (inject : Bool)
    (rules : List (NumericRule α)) : Verdict := do
  let tally ← rules.foldlM (fun (tally : Tally α) r => do
    checkError r.error inject kind
    Conflict.lift (checkNums r.allowed.length r.denied.length r.bounds)
    tally.add comparisonExclusions r.declared r.bounds) {}
  Conflict.lift (checkNums 0 0 tally.bounds)

end ProtoRules
