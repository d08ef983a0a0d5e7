import ProtoRules.Pattern.Expression
import ProtoRules.Pattern.Utf8
import Std.Data.HashMap

/-!
The size of the automaton for an expression. Repetitions are written out, and sets beyond ASCII are
nets of byte ranges in which equal parts are shared as long as a small table remembers them. An
automaton is built forwards, and another one backwards; neither may become too large.
-/

namespace ProtoRules.Pattern

open Text (Ranges)

/-- What has been built of an automaton: states, and the bytes that their lists of successors
take. -/
structure Draft where
  states : Nat := 0
  linkBytes : Nat := 0
deriving DecidableEq, Repr

namespace Draft

def stateBytes : Nat := 32

def linkSize : Nat := 4

def rangeSize : Nat := 8

def limit : Nat := 10 * 1024 * 1024

def bytes (d : Draft) : Nat :=
  d.states * stateBytes + d.linkBytes

def grow (d : Draft) (states linkBytes : Nat) : Option Draft :=
  let larger : Draft := ⟨d.states + states, d.linkBytes + linkBytes⟩
  if larger.bytes ≤ limit then some larger else none

def addRanges (d : Draft) (count : Nat) : Option Draft :=
  d.grow 1 (rangeSize * count)

/-- A draft whose open end has a successor, which takes space if the end is a state of several. -/
def close (d : Draft) (endsInFork : Bool) : Option Draft :=
  if endsInFork then d.grow 0 linkSize else some d

end Draft

structure Fragment where
  /-- The draft with the part, and whether the end of the part is a state of several successors. -/
  build : Draft → Option (Draft × Bool)
  consumes : Bool

namespace Fragment

def hash (key : List Nat) : UInt64 :=
  key.foldl (fun h n => (h ^^^ n.toUInt64) * 1099511628211) 14695981039346656037

/-- What has been built, by a key; of keys that fall into one slot the last one counts. -/
structure Memory where
  capacity : Nat
  slots : Std.HashMap Nat (List Nat × Nat) := ∅

namespace Memory

def slot (m : Memory) (key : List Nat) : Nat :=
  (hash key).toNat % m.capacity

def get? (m : Memory) (key : List Nat) : Option Nat :=
  match m.slots[m.slot key]? with
  | some (known, state) => if known = key then some state else none
  | none => none

def put (m : Memory) (key : List Nat) (state : Nat) : Memory :=
  { m with slots := m.slots.insert (m.slot key) (key, state) }

end Memory

def groupRows : List ByteRow → List ((Nat × Nat) × List ByteRow)
  | [] => []
  | [] :: rows => groupRows rows
  | (first :: tail) :: rows =>
    match groupRows rows with
    | (other, tails) :: groups =>
      if first = other then (other, tail :: tails) :: groups
      else (first, [tail]) :: (other, tails) :: groups
    | [] => [(first, [tail])]

/-- A net that leads from its first state to the target, built from its ends. Rows of a bounded
length are left; the state where the net begins is given back. -/
def net (target : Nat) : Nat → List ByteRow → Draft → Memory → Option (Nat × Draft × Memory)
  | 0, _, d, memory => some (target, d, memory)
  | length + 1, rows, d, memory => do
    let (key, d, memory) ← (groupRows rows).foldlM (fun (key, d, memory) (range, tails) => do
      let (next, d, memory) ←
        if tails = [[]] then some (target, d, memory) else net target length tails d memory
      return (next :: range.2 :: range.1 :: key, d, memory)) ([], d, memory)
    let key := key.reverse
    match memory.get? key with
    | some state => return (state, d, memory)
    | none => return (d.states, ← d.addRanges (key.length / 3), memory.put key d.states)

def branch (start : Nat) (row : ByteRow) (d : Draft) (memory : Memory) :
    Option (Nat × Draft × Memory) :=
  row.foldlM (fun (start, d, memory) range =>
    let key := [start, range.1, range.2]
    match memory.get? key with
    | some state => some (state, d, memory)
    | none => do return (d.states, ← d.grow 1 0, memory.put key d.states)) (start, d, memory)

def ofByteRanges (count : Nat) : Fragment where
  build d := do return (← (← d.grow 1 0).addRanges count, false)
  consumes := 0 < count

/-- A set of characters, as a net with one end or, backwards, with one beginning for each row. -/
def ofRows (backwards : Bool) (rows : List ByteRow) : Fragment where
  build d := do
    if backwards then
      let start := d.states + 1
      let (d, _) ← rows.foldlM (fun (d, memory) row => do
        let (_, d, memory) ← branch start row d memory
        return (← d.grow 0 Draft.linkSize, memory)) (← d.grow 2 0, { capacity := 1000 })
      return (d, false)
    else
      let (_, d, _) ← net d.states 4 rows (← d.grow 1 0) { capacity := 10000 }
      return (d, false)
  consumes := true

def ofMembers (backwards : Bool) (members : Ranges) : Fragment :=
  if members.isEmpty then ⟨fun d => do return (← d.grow 1 0, false), false⟩
  else if members.all fun r => r.2 < 128 then ofByteRanges members.length
  else ofRows backwards (ByteRow.ofMembers members)

def ofStates (count : Nat) (consumes : Bool) : Fragment where
  build d := do return (← d.grow count 0, false)
  consumes := consumes

def chunks : List (List UInt8) → List (List (List UInt8))
  | [] => [[]]
  | text :: texts =>
    if text.isEmpty then [] :: chunks texts
    else
      match chunks texts with
      | chunk :: rest => (text :: chunk) :: rest
      | [] => [[text]]

def restsBehind (b : UInt8) (texts : List (List UInt8)) : List (List UInt8) :=
  texts.filterMap fun text =>
    match text with
    | c :: rest => if c = b then some rest else none
    | [] => none

/-- The states that tell texts of a bounded length apart, and the bytes of their lists. Texts go
on behind a place in chunks, which end where a text ends, so that a text is preferred to those
behind it in the choice. Each chunk has a state, with a list of ranges unless there is but one,
and a fork leads to the chunks and, from where a text ends, to the common end. -/
def textsCost : Nat → List (List UInt8) → Nat × Nat
  | 0, _ => (0, 0)
  | length + 1, texts =>
    let parts := chunks (texts.head?.toList ++ texts.tail.dropWhile fun text =>
      texts.head?.any (·.isEmpty) && text.isEmpty)
    let ofChunk (chunk : List (List UInt8)) : Nat × Nat :=
      let heads := (chunk.filterMap (·.head?)).eraseDups
      let inner := heads.map fun b =>
        let rests := restsBehind b chunk
        if rests.all (·.isEmpty) then (0, 0) else textsCost length rests
      let own :=
        match heads.length with
        | 0 => (0, 0)
        | 1 => (1, Draft.linkSize)
        | k => (1, Draft.rangeSize * k + Draft.linkSize)
      inner.foldl (fun a b => (a.1 + b.1, a.2 + b.2)) own
    (parts.map ofChunk).foldl (fun a b => (a.1 + b.1, a.2 + b.2))
      (1, Draft.linkSize * (parts.length - 1))

def ofTexts (texts : List (List UInt8)) : Fragment where
  build d := do
    let (states, bytes) := textsCost ((texts.map (·.length)).foldl max 0) texts
    return (← d.grow (states + 1) bytes, false)
  consumes := texts.all (!·.isEmpty)

def chain : List Fragment → Draft × Bool → Option (Draft × Bool)
  | [], last => some last
  | f :: fs, (d, fork) => do
    let (d, fork') ← f.build d
    chain fs (← d.close fork, fork')

def rowBuild : List Fragment → Draft → Option (Draft × Bool)
  | [], d => do return (← d.grow 1 0, false)
  | f :: fs, d => do chain fs (← f.build d)

def again (f : Fragment) : Nat → Draft × Bool → Option (Draft × Bool)
  | 0, last => some last
  | n + 1, (d, fork) =>
    match f.build d with
    | none => none
    | some (d, fork') =>
      match d.close fork with
      | none => none
      | some d => again f n (d, fork')

def exactly (f : Fragment) : Nat → Draft → Option (Draft × Bool)
  | 0, d => do return (← d.grow 1 0, false)
  | n + 1, d => do again f n (← f.build d)

def upTo (f : Fragment) : Nat → Draft × Bool → Option (Draft × Bool)
  | 0, last => some last
  | n + 1, (d, fork) =>
    match (d.grow 1 0).bind f.build with
    | none => none
    | some (d, fork') =>
      match (d.close fork).bind fun d => d.grow 0 (2 * Draft.linkSize) with
      | none => none
      | some d => upTo f n (d, fork')

def optional (f : Fragment) (d : Draft) : Option (Draft × Bool) := do
  let (d, fork) ← f.build (← d.grow 1 0)
  return (← (← d.grow 1 (2 * Draft.linkSize)).close fork, false)

/-- A part any number of times. What may match the empty text is first repeated, then optional. -/
def star (f : Fragment) (d : Draft) : Option (Draft × Bool) := do
  if f.consumes then
    let (d, fork) ← f.build (← d.grow 1 0)
    return (← (← d.grow 0 Draft.linkSize).close fork, true)
  else
    let (d, fork) ← f.build d
    return (← (← d.grow 3 (4 * Draft.linkSize)).close fork, false)

def atLeast (f : Fragment) : Nat → Draft → Option (Draft × Bool)
  | 0, d => star f d
  | n + 1, d => do
    let (d, fork) ← exactly f (n + 1) d
    return (← (← d.grow 1 Draft.linkSize).close fork, true)

def between (f : Fragment) (least most : Nat) (d : Draft) : Option (Draft × Bool) := do
  let (d, fork) ← exactly f least d
  if least = most then return (d, fork)
  else
    let (d, fork) ← upTo f (most - least) (← d.grow 1 0, fork)
    return (← d.close fork, false)

def repeated (f : Fragment) : Nat → Option Nat → Draft → Option (Draft × Bool)
  | 0, some 1, d => optional f d
  | least, none, d => atLeast f least d
  | least, some most, d => between f least most d

def alternatives : List Fragment → Draft → Option Draft
  | [], d => some d
  | f :: fs, d => do
    let (d, fork) ← f.build d
    alternatives fs (← (← d.grow 0 Draft.linkSize).close fork)

def choiceBuild : List Fragment → Draft → Option (Draft × Bool)
  | f :: g :: fs, d => do
    let (d, fork) ← f.build d
    let (d, fork') ← g.build d
    let d ← (← (← d.grow 2 (2 * Draft.linkSize)).close fork).close fork'
    return (← alternatives fs d, false)
  | [f], d => f.build d
  | [], d => do return (← d.grow 1 0, false)

def marked (f : Fragment) (d : Draft) : Option (Draft × Bool) := do
  let (d, fork) ← f.build (← d.grow 1 0)
  return (← (← d.grow 1 0).close fork, false)

end Fragment

namespace Expression

/-- Whether all matches have at least one byte, and there may be some. -/
def consumes (e : Expression) : Bool :=
  e.minLength?.any (0 < ·)

def text? : Expression → Option (List UInt8)
  | literal bytes => some bytes
  | _ => none

mutual

/-- The part of an automaton that an expression needs. Groups leave marks in forward order alone. -/
def fragment (backwards : Bool) : Expression → Fragment
  | empty => .ofStates 1 false
  | literal bytes => .ofStates bytes.length true
  | set _ members => .ofMembers backwards members
  | look _ => .ofStates 1 false
  | repetition least most greedy body =>
    let f := fragment backwards body
    ⟨f.repeated least most, consumes (.repetition least most greedy body)⟩
  | capture _ body =>
    let f := fragment backwards body
    if backwards then f else ⟨f.marked, f.consumes⟩
  | concat parts =>
    let fs := fragments backwards parts
    ⟨Fragment.rowBuild (if backwards then fs.reverse else fs), consumes (.concat parts)⟩
  | choice branches =>
    match branches.mapM text? with
    | some texts => .ofTexts (if backwards then texts.map List.reverse else texts)
    | none =>
      ⟨Fragment.choiceBuild (fragments backwards branches), consumes (.choice branches)⟩

def fragments (backwards : Bool) : List Expression → List Fragment
  | [] => []
  | e :: es => fragment backwards e :: fragments backwards es

end

/-- The automaton in one direction, of which the part in front of the expression skips bytes unless
the expression matches at the edge of a text alone. -/
def draft? (backwards : Bool) (e : Expression) : Option Draft := do
  let atEdge := if backwards then e.endsWith .textEnd else e.beginsWith .textStart
  let start ←
    if atEdge then Draft.grow {} 1 0
    else Draft.grow {} 3 (Draft.rangeSize + 2 * Draft.linkSize)
  let body := fragment backwards e
  let (d, fork) ← if backwards then body.build start else body.marked start
  (← d.grow 1 0).close fork

/-- The number of texts from which on a choice between them needs no automaton. -/
def manyTexts : Nat := 3000

/-- Whether an expression can be matched: its automata do not become too large. -/
def isSmall (e : Expression) : Bool :=
  match e with
  | choice branches =>
    (manyTexts ≤ branches.length && branches.all (·.text?.isSome)) ||
      ((e.draft? false).isSome && (e.draft? true).isSome)
  | e => (e.draft? false).isSome && (e.draft? true).isSome

end Expression

end ProtoRules.Pattern
