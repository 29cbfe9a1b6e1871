import NowNext.Pattern.Bytes
import NowNext.Pattern.Outline
import NowNext.Pattern.Program
import Std.Data.HashMap

/-!
How much room the search program of a pattern takes. Patterns above a limit are refused, so that
repetitions in repetitions cannot exhaust the memory. A program works on the bytes of UTF-8, and there
is one for each direction.
-/

set_option autoImplicit false

namespace NowNext

inductive Direction where
  | forward
  | backward
deriving DecidableEq

structure Slots (K : Type) where
  size : Nat
  entries : Std.HashMap Nat (K × Nat) := {}

namespace Slots

def slot (size : Nat) (numbers : List Nat) : Nat :=
  (numbers.foldl (fun (hash : UInt64) n => (hash ^^^ n.toUInt64) * 1099511628211)
    14695981039346656037).toNat % size

def find? {K : Type} [DecidableEq K] (slots : Slots K) (slot : Nat) (key : K) : Option Nat :=
  match slots.entries[slot]? with
  | some (other, state) => if other = key then some state else none
  | none => none

def insert {K : Type} (slots : Slots K) (slot : Nat) (key : K) (state : Nat) : Slots K :=
  { slots with entries := slots.entries.insert slot (key, state) }

end Slots

structure ByteEdge where
  range : ByteRange
  target : Nat
deriving DecidableEq

namespace ByteEdge

def numbers (e : ByteEdge) : List Nat := [e.range.1, e.range.2, e.target]

end ByteEdge

structure ForwardSet where
  tally : Tally
  known : Slots (List ByteEdge) := ⟨10000, {}⟩

namespace ForwardSet

def intern (set : ForwardSet) (edges : List ByteEdge) : Nat × ForwardSet :=
  let slot := Slots.slot set.known.size (edges.flatMap ByteEdge.numbers)
  match set.known.find? slot edges with
  | some state => (state, set)
  | none =>
      let number := set.tally.states
      (number,
        { tally := ⟨number + 1, set.tally.ways + edges.length * Tally.edge⟩
          known := set.known.insert slot edges number })

def node (target : Nat) : Nat → List ByteRanges → ForwardSet → Nat × ForwardSet
  | 0, _, set => (target, set)
  | length + 1, sequences, set =>
      let (edges, set) := (ByteRanges.groupByHead sequences).foldl (fun (edges, set) group =>
        let (next, set) :=
          if group.2.all (·.isEmpty) then (target, set) else node target length group.2 set
        (⟨group.1, next⟩ :: edges, set)) ([], set)
      set.intern edges.reverse

end ForwardSet

structure BackwardSet where
  tally : Tally
  known : Slots ByteEdge := ⟨1000, {}⟩

namespace BackwardSet

def intern (set : BackwardSet) (edge : ByteEdge) : Nat × BackwardSet :=
  let slot := Slots.slot set.known.size [edge.target, edge.range.1, edge.range.2]
  match set.known.find? slot edge with
  | some state => (state, set)
  | none =>
      let number := set.tally.states
      (number, ⟨⟨number + 1, set.tally.ways⟩, set.known.insert slot edge number⟩)

def addSequence (target : Nat) (set : BackwardSet) (sequence : ByteRanges) : BackwardSet :=
  let (_, set) := sequence.foldl (fun (next, set) range =>
    BackwardSet.intern set ⟨range, next⟩) (target, set)
  { set with tally := { set.tally with ways := set.tally.ways + Tally.branch } }

end BackwardSet

namespace Step

def set (direction : Direction) (ranges : Unicode.Ranges) : Step :=
  if ranges.all fun range => range.2 < 0x80 then add 2 (ranges.length * Tally.edge)
  else fun tally =>
    let sequences := ByteRanges.ofRanges ranges
    let tally := match direction with
      | .forward =>
          let start : ForwardSet := { tally := ⟨tally.states + 1, tally.ways⟩ }
          (start.node tally.states 4 sequences).2.tally
      | .backward =>
          let start : BackwardSet := { tally := ⟨tally.states + 2, tally.ways⟩ }
          (sequences.foldl (BackwardSet.addSequence (tally.states + 1)) start).tally
    if tally.fits then some tally else none

def groupByByte : List (List UInt8) → List (UInt8 × List (List UInt8))
  | [] => []
  | [] :: words => groupByByte words
  | (byte :: rest) :: words =>
      let groups := groupByByte words
      (byte, rest :: (groups.lookup byte).getD []) :: groups.filter (·.1 ≠ byte)

-- A tree of words, of up to `length` bytes each, behind a common beginning: a choice between runs
-- of words and, after each run but the last, the end of the word that is the beginning itself.
def tree : Nat → List (List UInt8) → Tally
  | 0, _ => {}
  | length + 1, words =>
      if words.all (·.isEmpty) then {}
      else
        let words := if words.head? = some [] then [] :: words.dropWhile (·.isEmpty) else words
        let runs := ((words.splitOnP (·.isEmpty)).filter (!·.isEmpty)).map groupByByte
        let ends := words.countP (·.isEmpty)
        let inner := (runs.flatMap fun run => run.map fun group => tree length group.2)
        ⟨runs.length + 1 + (inner.map (·.states)).sum,
          (runs.length + ends) * Tally.branch +
          (runs.map fun run => if run.length = 1 then 0 else run.length * Tally.edge).sum +
          (inner.map (·.ways)).sum⟩

def words (direction : Direction) (words : List (List Char)) : Step :=
  let words := words.map fun word => word.flatMap String.utf8EncodeChar
  let words := match direction with
    | .forward => words
    | .backward => words.map List.reverse
  let tally := tree ((words.map List.length).foldl max 0 + 1) words
  add (tally.states + 1) tally.ways

end Step

namespace Outline

def text? : Outline → Option (List Char)
  | text chars => some chars
  | _ => none

mutual

def step (direction : Direction) : Outline → Step
  | empty => .add 1 0
  | text chars => .add ((chars.map Char.utf8Size).sum) 0
  | set ranges => .set direction ranges
  | look _ => .add 1 0
  | times p least most => .times p.takesSome (step direction p) least most
  | group p =>
      if direction = .forward then .all [.add 1 0, step direction p, .add 1 0]
      else step direction p
  | concat parts =>
      let steps := steps direction parts
      .all (if direction = .forward then steps else steps.reverse)
  | choice branches =>
      match branches.mapM text? with
      | some words => .words direction words
      | none => .choice (steps direction branches)

def steps (direction : Direction) : List Outline → List Step
  | [] => []
  | p :: ps => step direction p :: steps direction ps

end

-- A program starts by skipping bytes, unless every match is at that end of the text. Forwards it has
-- the bounds of the match.
def program (direction : Direction) (p : Outline) : Step :=
  let isFixed := if direction = .forward then p.isAtStart else p.isAtEnd
  .all [if isFixed then .add 1 0 else .add 3 (2 * Tally.branch + Tally.edge),
    step direction (if direction = .forward then .group p else p), .add 1 0]

end Outline

namespace Pattern

def fits (p : Pattern) : Bool :=
  let outline := p.outline
  (outline.program .forward {}).isSome && (outline.program .backward {}).isSome

end Pattern

end NowNext
