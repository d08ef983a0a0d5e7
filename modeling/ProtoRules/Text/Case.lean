import ProtoRules.Text.CaseTable
import ProtoRules.Text.Properties

/-!
Upper and lower case of texts. A character may have more than one character as its counterpart, and
the lower case of a sigma depends on whether it ends a word.
-/

namespace ProtoRules.Text

def shifted (runs : List CaseRun) (n : Nat) : Nat :=
  match runs.find? fun r => r.first ≤ n && n ≤ r.last && (n - r.first) % r.step == 0 with
  | some r => (n + r.shift).toNat
  | none => n

def lowerChar (c : Char) : List Char :=
  if c.toNat < 128 then [c.toLower]
  else if c.toNat = 0x130 then ['i', Char.ofNat 0x307]
  else [Char.ofNat (shifted lowerRuns c.toNat)]

def upperChar (c : Char) : List Char :=
  if c.toNat < 128 then [c.toUpper]
  else
    match upperSpecials.find? (·.1 == c.toNat) with
    | some (_, ns) => ns.map Char.ofNat
    | none => [Char.ofNat (shifted upperRuns c.toNat)]

def isCased (c : Char) : Bool :=
  c.isAlpha || (128 ≤ c.toNat && cased.contains c.toNat)

def isCaseIgnorable (c : Char) : Bool :=
  caseIgnorable.contains c.toNat

/-- Whether the next letter, past what a word may contain beside letters, has two cases. -/
def meetsCased (cs : List Char) : Bool :=
  (cs.find? (!isCaseIgnorable ·)).any isCased

def sigma : Char := Char.ofNat 0x3A3
def smallSigma : Char := Char.ofNat 0x3C3
def finalSigma : Char := Char.ofNat 0x3C2

/-- Lower case of the second list, the first one being what precedes it, last character first. -/
def lowerAfter (before : List Char) : List Char → List Char
  | [] => []
  | c :: cs =>
    let small :=
      if c = sigma then
        [if meetsCased before && !meetsCased cs then finalSigma else smallSigma]
      else lowerChar c
    small ++ lowerAfter (c :: before) cs

def lower (cs : List Char) : List Char :=
  lowerAfter [] cs

def upper (cs : List Char) : List Char :=
  cs.flatMap upperChar

def toUpper (s : String) : String :=
  String.ofList (upper s.toList)

end ProtoRules.Text
