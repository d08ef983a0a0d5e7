import ProtoRules.Pattern.Node
import ProtoRules.Text.CaseTable

/-!
The simple form of an expression, which it has if all its parts are allowed under the flags that
hold where they stand.
-/

namespace ProtoRules.Pattern

open Text (Ranges)

def foldPairs : List (Nat × Nat) :=
  Text.foldRuns.flatMap fun (r : Text.CaseRun) =>
    (List.range ((r.last - r.first) / r.step + 1)).map fun (i : Nat) =>
      let n : Nat := r.first + i * r.step
      (n, ((n : Int) + r.shift).toNat)

def foldCase (members : Ranges) : Ranges :=
  let forms := Ranges.ofList (((foldPairs.filter fun (source, form) =>
    members.contains source || members.contains form).map (·.2)).map fun n => (n, n))
  Ranges.unions [members, forms,
    (foldPairs.filter fun (_, form) => forms.contains form).map fun (source, _) => (source, source)]

def foldAsciiCase (members : Ranges) : Ranges :=
  let shifted (first last : Nat) (shift : Int) : Ranges :=
    (members.inter [(first, last)]).map fun (a, b) =>
      (((a : Int) + shift).toNat, ((b : Int) + shift).toNat)
  Ranges.unions [members, shifted 65 90 32, shifted 97 122 (-32)]

def asciiSet (name : String) : Ranges :=
  match name with
  | "alnum" => [(48, 57), (65, 90), (97, 122)]
  | "alpha" => [(65, 90), (97, 122)]
  | "ascii" => [(0, 127)]
  | "blank" => [(9, 9), (32, 32)]
  | "cntrl" => [(0, 31), (127, 127)]
  | "digit" => [(48, 57)]
  | "graph" => [(33, 126)]
  | "lower" => [(97, 122)]
  | "print" => [(32, 126)]
  | "punct" => [(33, 47), (58, 64), (91, 96), (123, 126)]
  | "space" => [(9, 13), (32, 32)]
  | "upper" => [(65, 90)]
  | "word" => [(48, 57), (65, 90), (95, 95), (97, 122)]
  | "xdigit" => [(48, 57), (65, 70), (97, 102)]
  | _ => []

/-- A set with the other cases of its members if case makes no difference, or else all other
characters. Without Unicode, sets stay within ASCII and so have no complement. -/
def complete? (m : Mode) (negated : Bool) (members : Ranges) : Option Ranges :=
  let members :=
    if !m.caseInsensitive then members
    else if m.unicode then foldCase members
    else foldAsciiCase members
  if !negated then some members
  else if m.unicode then some members.complement
  else none

def ClassName.members? (m : Mode) (negated : Bool) : ClassName → Option Ranges
  | .ascii name => complete? m negated (asciiSet name)
  | .digit => plain (if m.unicode then Text.digits else asciiSet "digit")
  | .space => plain (if m.unicode then Text.whiteSpace else asciiSet "space")
  | .word => plain (if m.unicode then Text.wordChars else asciiSet "word")
where
  plain (members : Ranges) : Option Ranges :=
    if !negated then some members
    else if m.unicode then some members.complement
    else none

def PropertyQuery.members? (m : Mode) (negated : Bool) (query : PropertyQuery) : Option Ranges :=
  if m.unicode then query.set?.bind (complete? m (negated != query.isUnequal)) else none

namespace SetNode

mutual

/-- The members of a set, none beyond ASCII without Unicode. -/
def members? (m : Mode) : SetNode → Option Ranges
  | empty => some []
  | glyph g => if m.unicode || g.isAscii then some [(g.char.toNat, g.char.toNat)] else none
  | range first last =>
    if m.unicode || (first.isAscii && last.isAscii) then some [(first.char.toNat, last.char.toNat)]
    else none
  | named name negated => name.members? m negated
  | property query negated => query.members? m negated
  | bracket negated body => (body.members? m).bind (complete? m negated)
  | union items => (allMembers? m items).map Ranges.unions
  | combination op left right => do
    let left ← complete? m false (← left.members? m)
    let right ← complete? m false (← right.members? m)
    return match op with
      | .intersection => left.inter right
      | .difference => left.minus right
      | .symmetricDifference => left.symmetricDifference right

def allMembers? (m : Mode) : List SetNode → Option (List Ranges)
  | [] => some []
  | n :: ns => do return (← n.members? m) :: (← allMembers? m ns)

end

end SetNode

/-- A character. Without Unicode it must not be a byte beyond ASCII, and nothing beyond ASCII has
another case. -/
def Glyph.expression? (m : Mode) (g : Glyph) : Option Expression :=
  let single : Ranges := [(g.char.toNat, g.char.toNat)]
  if !m.unicode && !g.isAscii && g.isByte then none
  else if !m.caseInsensitive then some (.ofSet false single)
  else if m.unicode then some (.ofSet false (foldCase single))
  else if g.isAscii then some (.ofSet true (foldAsciiCase single))
  else some (.ofSet false single)

def Mode.anyCharacter? (m : Mode) : Option Expression :=
  if !m.unicode then none
  else if m.dotMatchesNewLine then some (.ofSet false [(0, Ranges.greatest)])
  else if m.crlf then some (.ofSet false (Ranges.complement [(10, 10), (13, 13)]))
  else some (.ofSet false (Ranges.complement [(10, 10)]))

def Assertion.look (m : Mode) : Assertion → Look
  | .lineStart => if m.multiLine then .lineStart m.crlf else .textStart
  | .lineEnd => if m.multiLine then .lineEnd m.crlf else .textEnd
  | .textStart => .textStart
  | .textEnd => .textEnd
  | .word edge => .word edge m.unicode

namespace Node

mutual

def simplify? (m : Mode) : Node → Option (Expression × Mode)
  | empty => some (.empty, m)
  | settings changes => some (.empty, m.setAll changes)
  | glyph g => (g.expression? m).map (·, m)
  | dot => m.anyCharacter?.map (·, m)
  | assertion kind => some (.look (kind.look m), m)
  | named name negated => (name.members? m negated).map fun s => (.ofSet (!m.unicode) s, m)
  | property query negated => (query.members? m negated).map fun s => (.ofSet false s, m)
  | set negated body =>
    ((body.members? m).bind (complete? m negated)).map fun s => (.ofSet (!m.unicode) s, m)
  | repetition least most greedy body => do
    let (body, m) ← body.simplify? m
    return (.repeated least most (greedy != m.swapGreed) body, m)
  | group changes body => (body.simplify? (m.setAll changes)).map fun (e, _) => (e, m)
  | capture index body => (body.simplify? m).map fun (e, _) => (.capture index e, m)
  | sequence parts => (simplifyAll? m parts).map fun (es, m) => (.row es, m)
  | choice branches => (simplifyAll? m branches).map fun (es, m) => (.oneOf es, m)

def simplifyAll? (m : Mode) : List Node → Option (List Expression × Mode)
  | [] => some ([], m)
  | n :: ns => do
    let (e, m) ← n.simplify? m
    let (es, m) ← simplifyAll? m ns
    return (e :: es, m)

end

end Node

end ProtoRules.Pattern
