import Mathlib.Algebra.Ring.Nat
import Mathlib.Data.List.Forall2
import NowNext.Filter.Words

set_option autoImplicit false

namespace NowNext

namespace ByteRanges

def weight (sequences : List ByteRanges) : Nat := (sequences.map List.length).sum

-- Each sequence gives its first range to the head of its group.
theorem group_weight (sequences : List ByteRanges) :
    ((groupByHead sequences).map fun group => weight group.2 + 1).sum ≤ weight sequences := by
  induction sequences with
  | nil => exact Nat.le_refl _
  | cons sequence rest ih =>
      cases sequence with
      | nil => simpa [groupByHead, weight] using ih
      | cons range tail =>
          cases known : groupByHead rest with
          | nil => simp [groupByHead, known, weight]
          | cons group groups =>
              obtain ⟨other, tails⟩ := group
              simp only [known, weight, List.map_cons, List.sum_cons] at ih
              by_cases same : range = other
              · simp only [groupByHead, known, if_pos same, weight, List.map_cons, List.sum_cons, List.length_cons]
                omega
              · simp only [groupByHead, known, if_neg same, weight, List.map_cons, List.sum_cons, List.length_cons,
                  List.map_nil, List.sum_nil]
                omega

end ByteRanges

namespace ForwardSet

theorem intern_bytes (set : ForwardSet) (edges : List ByteEdge) :
    (set.intern edges).2.tally.bytes ≤ set.tally.bytes + Tally.state + Tally.edge * edges.length := by
  unfold intern
  dsimp only
  split
  · exact Nat.le_add_right_of_le (Nat.le_add_right _ _)
  · simp only [Tally.bytes, Tally.state, Tally.edge]
    omega

theorem groups_bytes (target length : Nat)
    (node_le : ∀ sequences set, (node target length sequences set).2.tally.bytes ≤
      set.tally.bytes + Tally.state + (Tally.state + Tally.edge) * ByteRanges.weight sequences)
    (groups : List (ByteRange × List ByteRanges)) (edges : List ByteEdge) (set : ForwardSet) :
    let result := groups.foldl (fun (edges, set) group =>
        let (next, set) :=
          if group.2.all (·.isEmpty) then (target, set) else node target length group.2 set
        (⟨group.1, next⟩ :: edges, set)) (edges, set)
    result.1.length = edges.length + groups.length ∧
      result.2.tally.bytes ≤ set.tally.bytes +
        (groups.map fun group => Tally.state + (Tally.state + Tally.edge) * ByteRanges.weight group.2).sum := by
  induction groups generalizing edges set with
  | nil => exact ⟨rfl, Nat.le_refl _⟩
  | cons group groups ih =>
      by_cases ends : group.2.all (·.isEmpty) = true
      · obtain ⟨count, bytes⟩ := ih (⟨group.1, target⟩ :: edges) set
        simp only [List.foldl_cons, if_pos ends, List.length_cons, List.map_cons, List.sum_cons] at count bytes ⊢
        exact ⟨by omega, by omega⟩
      · obtain ⟨count, bytes⟩ := ih (⟨group.1, (node target length group.2 set).1⟩ :: edges)
          (node target length group.2 set).2
        have inner := node_le group.2 set
        simp only [List.foldl_cons, if_neg ends, List.length_cons, List.map_cons, List.sum_cons] at count bytes ⊢
        exact ⟨by omega, by omega⟩

theorem groups_share (groups : List (ByteRange × List ByteRanges)) :
    (groups.map fun group => Tally.state + (Tally.state + Tally.edge) * ByteRanges.weight group.2).sum +
        Tally.edge * groups.length =
      (Tally.state + Tally.edge) * (groups.map fun group => ByteRanges.weight group.2 + 1).sum := by
  induction groups with
  | nil => rfl
  | cons group groups ih =>
      simp only [List.map_cons, List.sum_cons, List.length_cons, Tally.state, Tally.edge] at ih ⊢
      omega

theorem node_bytes (target length : Nat) (sequences : List ByteRanges) (set : ForwardSet) :
    (node target length sequences set).2.tally.bytes ≤
      set.tally.bytes + Tally.state + (Tally.state + Tally.edge) * ByteRanges.weight sequences := by
  induction length generalizing sequences set with
  | zero => exact Nat.le_add_right_of_le (Nat.le_add_right _ _)
  | succ length ih =>
      obtain ⟨count, bytes⟩ := groups_bytes target length ih (ByteRanges.groupByHead sequences) [] set
      have total := ByteRanges.group_weight sequences
      have shares := groups_share (ByteRanges.groupByHead sequences)
      unfold node
      generalize (ByteRanges.groupByHead sequences).foldl _ _ = result at count bytes ⊢
      obtain ⟨edges, last⟩ := result
      have interned := intern_bytes last edges.reverse
      simp only [List.length_reverse, List.length_nil, Tally.state, Tally.edge] at count bytes shares interned ⊢
      omega

end ForwardSet

namespace BackwardSet

theorem intern_bytes (set : BackwardSet) (edge : ByteEdge) :
    (set.intern edge).2.tally.bytes ≤ set.tally.bytes + Tally.state := by
  unfold intern
  dsimp only
  split
  · exact Nat.le_add_right _ _
  · simp only [Tally.bytes, Tally.state]
    omega

theorem add_sequence_bytes (target : Nat) (set : BackwardSet) (sequence : ByteRanges) :
    (addSequence target set sequence).tally.bytes ≤
      set.tally.bytes + Tally.state * sequence.length + Tally.branch := by
  have chain (start : Nat × BackwardSet) :
      (sequence.foldl (fun reached range => BackwardSet.intern reached.2 ⟨range, reached.1⟩) start).2.tally.bytes ≤
        start.2.tally.bytes + Tally.state * sequence.length := by
    induction sequence generalizing start with
    | nil => exact Nat.le_refl _
    | cons range sequence ih =>
        have first := intern_bytes start.2 ⟨range, start.1⟩
        have rest := ih (start.2.intern ⟨range, start.1⟩)
        simp only [List.foldl_cons, List.length_cons, Tally.state] at first rest ⊢
        omega
  have added := chain (target, set)
  simp only [addSequence, Tally.bytes] at added ⊢
  omega

theorem add_sequences_bytes (target : Nat) (set : BackwardSet) (sequences : List ByteRanges) :
    (sequences.foldl (addSequence target) set).tally.bytes ≤ set.tally.bytes +
      Tally.state * ByteRanges.weight sequences + Tally.branch * sequences.length := by
  induction sequences generalizing set with
  | nil => exact Nat.le_refl _
  | cons sequence sequences ih =>
      have first := add_sequence_bytes target set sequence
      have rest := ih (addSequence target set sequence)
      simp only [List.foldl_cons, ByteRanges.weight, List.map_cons, List.sum_cons, List.length_cons, Tally.state,
        Tally.branch] at first rest ⊢
      omega

end BackwardSet

namespace Step

def Within (room : Nat) (step : Step) : Prop :=
  ∀ tally, tally.bytes + room ≤ Tally.limit → ∃ next, step tally = some next ∧ next.bytes ≤ tally.bytes + room

theorem within_beyond (room : Nat) (step : Step) (beyond : Tally.limit < room) : Within room step := by
  intro tally left
  omega

theorem within_more {room more : Nat} {step : Step} (less : room ≤ more) (within : Within room step) :
    Within more step := by
  intro tally left
  obtain ⟨next, taken, bytes⟩ := within tally (by omega)
  exact ⟨next, taken, by omega⟩

theorem within_add (states ways : Nat) : Within (states * Tally.state + ways) (add states ways) := by
  intro tally left
  have grown : Tally.bytes ⟨tally.states + states, tally.ways + ways⟩ =
      tally.bytes + (states * Tally.state + ways) := by
    simp only [Tally.bytes, Tally.state]
    omega
  refine ⟨⟨tally.states + states, tally.ways + ways⟩, if_pos ?_, Nat.le_of_eq grown⟩
  rw [Tally.fits, decide_eq_true_eq, grown]
  exact left

theorem within_all (rooms : List Nat) (steps : List Step) (each : List.Forall₂ Within rooms steps) :
    Within rooms.sum (all steps) := by
  induction each with
  | nil =>
      intro tally left
      exact ⟨tally, rfl, Nat.le_refl _⟩
  | cons first _ ih =>
      rename_i room step rooms steps
      intro tally left
      rw [List.sum_cons] at left ⊢
      obtain ⟨next, taken, bytes⟩ := first tally (by omega)
      obtain ⟨last, others, more⟩ := ih next (by omega)
      refine ⟨last, ?_, by omega⟩
      rw [all, andThen, taken, Option.bind_some, others]

def setRoom (ranges : Unicode.Ranges) : Nat :=
  2 * Tally.state + Tally.edge * ranges.length +
    (Tally.state + Tally.edge) * ByteRanges.weight (ByteRanges.ofRanges ranges) +
    Tally.branch * (ByteRanges.ofRanges ranges).length

theorem within_set (direction : Direction) (ranges : Unicode.Ranges) :
    Within (setRoom ranges) (set direction ranges) := by
  intro tally left
  unfold set
  by_cases ascii : (ranges.all fun range => range.2 < 0x80) = true
  · rw [if_pos ascii]
    obtain ⟨next, taken, bytes⟩ := within_add 2 (ranges.length * Tally.edge) tally (by
      simp only [setRoom, Tally.state, Tally.edge, Tally.branch] at left ⊢
      omega)
    refine ⟨next, taken, ?_⟩
    simp only [setRoom, Tally.state, Tally.edge, Tally.branch] at bytes ⊢
    omega
  · rw [if_neg ascii]
    cases direction with
    | forward =>
        have bytes := ForwardSet.node_bytes tally.states 4 (ByteRanges.ofRanges ranges)
          { tally := ⟨tally.states + 1, tally.ways⟩ }
        have small : ((ForwardSet.node tally.states 4 (ByteRanges.ofRanges ranges)
            { tally := ⟨tally.states + 1, tally.ways⟩ }).2.tally).bytes ≤ tally.bytes + setRoom ranges := by
          simp only [setRoom, Tally.bytes, Tally.state, Tally.edge, Tally.branch] at bytes ⊢
          omega
        exact ⟨_, if_pos (decide_eq_true (Nat.le_trans small left)), small⟩
    | backward =>
        have bytes := BackwardSet.add_sequences_bytes (tally.states + 1)
          { tally := ⟨tally.states + 2, tally.ways⟩ } (ByteRanges.ofRanges ranges)
        have small : ((ByteRanges.ofRanges ranges).foldl (BackwardSet.addSequence (tally.states + 1))
            { tally := ⟨tally.states + 2, tally.ways⟩ }).tally.bytes ≤ tally.bytes + setRoom ranges := by
          simp only [setRoom, Tally.bytes, Tally.state, Tally.edge, Tally.branch] at bytes ⊢
          omega
        exact ⟨_, if_pos (decide_eq_true (Nat.le_trans small left)), small⟩

theorem within_choice (rooms : List Nat) (steps : List Step) (each : List.Forall₂ Within rooms steps) :
    Within (rooms.sum + 2 * Tally.state + Tally.branch * steps.length) (choice steps) := by
  cases each with
  | nil => exact within_more (Nat.zero_le _) (within_all [] [] .nil)
  | cons first others =>
      cases others with
      | nil => exact within_more (by simp only [List.sum_cons]; omega) (within_all _ _ (.cons first .nil))
      | cons second others =>
          rename_i steps
          have met := within_add 2 (Tally.branch * (steps.length + 2))
          have chain := within_all _ _ (.cons first (.cons second (.cons met others)))
          refine within_more ?_ chain
          simp only [List.sum_cons, List.length_cons, Tally.branch]
          omega

end Step

namespace Outline

mutual

-- Room that is enough for an outline. Repetitions and choices of texts alone are left out.
def room : Outline → Nat
  | empty => Tally.state
  | text chars => (chars.map Char.utf8Size).sum * Tally.state
  | set ranges => Step.setRoom ranges
  | look _ => Tally.state
  | times _ _ _ => Tally.limit + 1
  | group p => p.room + 2 * Tally.state
  | concat parts => (rooms parts).sum
  | choice branches =>
      match branches.mapM text? with
      | some _ => Tally.limit + 1
      | none => (rooms branches).sum + 2 * Tally.state + Tally.branch * branches.length

def rooms : List Outline → List Nat
  | [] => []
  | p :: ps => p.room :: rooms ps

end

theorem steps_length (direction : Direction) (ps : List Outline) : (steps direction ps).length = ps.length := by
  induction ps with
  | nil => rfl
  | cons p ps ih => rw [steps, List.length_cons, List.length_cons, ih]

mutual

theorem room_within (direction : Direction) (p : Outline) : Step.Within p.room (p.step direction) := by
  cases p with
  | empty | look condition =>
      have added := Step.within_add 1 0
      rwa [Nat.one_mul, Nat.add_zero] at added
  | text chars =>
      have added := Step.within_add ((chars.map Char.utf8Size).sum) 0
      rwa [Nat.add_zero] at added
  | set ranges => exact Step.within_set direction ranges
  | times p least most =>
      rw [room]
      exact Step.within_beyond _ _ (Nat.lt_succ_self _)
  | group p =>
      have inner := room_within direction p
      cases direction with
      | forward =>
          have chain := Step.within_all _ _ (.cons (Step.within_add 1 0) (.cons inner (.cons (Step.within_add 1 0) .nil)))
          refine Step.within_more ?_ chain
          simp only [room, List.sum_cons, List.sum_nil]
          omega
      | backward => exact Step.within_more (Nat.le_add_right _ _) inner
  | concat parts =>
      have each := rooms_within direction parts
      cases direction with
      | forward => exact Step.within_all _ _ each
      | backward =>
          have chain := Step.within_all _ _ (List.rel_reverse each)
          rwa [List.sum_reverse] at chain
  | choice branches =>
      have each := rooms_within direction branches
      change Step.Within _ (match branches.mapM text? with
        | some words => .words direction words
        | none => .choice (steps direction branches))
      rw [room]
      cases branches.mapM text? with
      | some words => exact Step.within_beyond _ _ (Nat.lt_succ_self _)
      | none =>
          rw [← steps_length direction branches]
          exact Step.within_choice _ _ each

theorem rooms_within (direction : Direction) (ps : List Outline) :
    List.Forall₂ Step.Within (rooms ps) (steps direction ps) := by
  cases ps with
  | nil =>
      rw [rooms, steps]
      exact .nil
  | cons p ps =>
      rw [rooms, steps]
      exact .cons (room_within direction p) (rooms_within direction ps)

end

theorem program_within (direction : Direction) (p : Outline) :
    Step.Within (p.room + 7 * Tally.state) (program direction p) := by
  have front : Step.Within (4 * Tally.state) (if (if direction = .forward then p.isAtStart else p.isAtEnd) = true
      then .add 1 0 else .add 3 (2 * Tally.branch + Tally.edge)) := by
    by_cases fixed : (if direction = .forward then p.isAtStart else p.isAtEnd) = true
    · rw [if_pos fixed]
      exact Step.within_more (by decide) (Step.within_add 1 0)
    · rw [if_neg fixed]
      exact Step.within_more (by decide) (Step.within_add 3 (2 * Tally.branch + Tally.edge))
  have inner : Step.Within (p.room + 2 * Tally.state) (step direction (if direction = .forward then .group p else p)) := by
    cases direction with
    | forward => exact room_within .forward (.group p)
    | backward => exact Step.within_more (Nat.le_add_right _ _) (room_within .backward p)
  have last : Step.Within Tally.state (.add 1 0) := Step.within_more (by decide) (Step.within_add 1 0)
  have chain := Step.within_all _ _ (.cons front (.cons inner (.cons last .nil)))
  refine Step.within_more ?_ chain
  simp only [List.sum_cons, List.sum_nil]
  omega

theorem rooms_append (ps qs : List Outline) : rooms (ps ++ qs) = rooms ps ++ rooms qs := by
  induction ps with
  | nil => rw [rooms, List.nil_append, List.nil_append]
  | cons p ps ih => rw [List.cons_append, rooms, rooms, ih, List.cons_append]

theorem flatten_rooms (parts : List Outline) : (rooms (flattenParts parts)).sum = (rooms parts).sum := by
  induction parts with
  | nil => rfl
  | cons p parts ih =>
      rw [flattenParts, List.flatMap_cons, rooms_append, List.sum_append]
      change _ + (rooms (flattenParts parts)).sum = _
      rw [ih, rooms, List.sum_cons]
      congr 1
      cases p with
      | concat inner => rw [room]
      | _ => simp [rooms]

theorem join_rooms (p : Outline) (parts : List Outline) : (rooms (joinPart p parts)).sum ≤ p.room + (rooms parts).sum := by
  unfold joinPart
  split
  · exact Nat.le_add_left _ _
  · simp only [rooms, room, List.map_append, List.sum_append, List.sum_cons, Nat.add_mul]
    omega
  · exact Nat.le_of_eq (by rw [rooms, List.sum_cons])

theorem joined_rooms (parts : List Outline) : (rooms (parts.foldr joinPart [])).sum ≤ (rooms parts).sum := by
  induction parts with
  | nil => exact Nat.le_refl _
  | cons p parts ih =>
      have first := join_rooms p (parts.foldr joinPart [])
      rw [List.foldr_cons, rooms, List.sum_cons]
      omega

theorem parts_room (parts : List Outline) : (ofParts parts).room ≤ (rooms parts).sum + Tally.state := by
  have joined := Nat.le_trans (joined_rooms (flattenParts parts)) (Nat.le_of_eq (flatten_rooms parts))
  unfold ofParts
  split
  · exact Nat.le_add_left _ _
  · rename_i p only
    rw [only, rooms, rooms, List.sum_cons, List.sum_nil] at joined
    omega
  · rw [room]
    omega

end Outline

namespace Pattern

theorem fits_within (p : Pattern) (small : p.outline.room + 7 * Tally.state ≤ Tally.limit) : p.fits = true := by
  have built (direction : Direction) : (p.outline.program direction {}).isSome = true := by
    obtain ⟨next, taken, _⟩ := p.outline.program_within direction {} (by simpa [Tally.bytes] using small)
    rw [taken]
    rfl
  simp only [fits, built, Bool.and_self]

def classOutline (cls : CharClass) : Outline := .ofRanges (CharClass.cutSurrogates cls.toRanges)

theorem class_outline_cases (cls : CharClass) :
    (∃ c, classOutline cls = .text [c]) ∨ ∃ ranges, classOutline cls = .set ranges := by
  unfold classOutline Outline.ofRanges
  split
  · split
    · exact .inl ⟨_, rfl⟩
    · exact .inr ⟨_, rfl⟩
  · exact .inr ⟨_, rfl⟩

theorem edge_parts (condition : Look) (cls : CharClass) :
    Outline.partsOf (branchParts (.alt (.look condition) (.chars cls))) =
        [.choice [.look condition, classOutline cls]] ∧
      Outline.partsOf (branchParts (.alt (.chars cls) (.look condition))) =
        [.choice [classOutline cls, .look condition]] := by
  change Outline.partsOf [[.look condition], [classOutline cls]] = _ ∧
    Outline.partsOf [[classOutline cls], [.look condition]] = _
  rcases class_outline_cases cls with ⟨c, same⟩ | ⟨ranges, same⟩
  · rw [same]
    exact ⟨rfl, rfl⟩
  · rw [same]
    exact ⟨rfl, rfl⟩

def edgeRoom : Nat := (classOutline .nonWord).room + 3 * Tally.state + 2 * Tally.branch

theorem edge_rooms (condition : Look) :
    (Outline.rooms [.choice [.look condition, classOutline .nonWord]]).sum = edgeRoom ∧
      (Outline.rooms [.choice [classOutline .nonWord, .look condition]]).sum = edgeRoom := by
  have mixed : [.look condition, classOutline .nonWord].mapM Outline.text? = none ∧
      [classOutline .nonWord, .look condition].mapM Outline.text? = none := by
    rcases class_outline_cases .nonWord with ⟨c, same⟩ | ⟨ranges, same⟩
    · rw [same]
      exact ⟨rfl, rfl⟩
    · rw [same]
      exact ⟨rfl, rfl⟩
  simp only [Outline.rooms, Outline.room, mixed.1, mixed.2, edgeRoom, List.sum_cons, List.sum_nil, List.length_cons,
    List.length_nil, Tally.state, Tally.branch]
  omega

theorem caseless_rooms (value : List Char) : (Outline.rooms (Outline.partsOf (caseless value).branchParts)).sum ≤
    (value.map fun c => (classOutline (.caseless c)).room).sum + Tally.state := by
  induction value using caseless.induct with
  | case1 => exact Nat.le_refl _
  | case2 c =>
      change (Outline.rooms [classOutline (.caseless c)]).sum ≤ _
      simp only [Outline.rooms, List.sum_cons, List.sum_nil, List.map_cons, List.map_nil]
      omega
  | case3 c value more ih =>
      rw [caseless.eq_3 c value more]
      change (Outline.rooms ([classOutline (.caseless c)] ++ Outline.partsOf (caseless value).branchParts)).sum ≤ _
      rw [Outline.rooms_append, List.sum_append]
      simp only [Outline.rooms, List.sum_cons, List.sum_nil, List.map_cons]
      omega

theorem words_room (value : List Char) : (words value).outline.room ≤
    2 * edgeRoom + (value.map fun c => (classOutline (.caseless c)).room).sum + 2 * Tally.state := by
  have left := (edge_rooms .textStart).1
  have right := (edge_rooms .textEnd).2
  have middle := caseless_rooms value
  rw [← (edge_parts .textStart .nonWord).1] at left
  rw [← (edge_parts .textEnd .nonWord).2] at right
  have whole := Outline.parts_room (Outline.partsOf leftEdge.branchParts ++
    (Outline.partsOf (caseless value).branchParts ++ Outline.partsOf rightEdge.branchParts))
  rw [Outline.rooms_append, Outline.rooms_append, List.sum_append, List.sum_append] at whole
  change (Outline.ofParts _).room ≤ _
  refine Nat.le_trans whole ?_
  rw [leftEdge, rightEdge, left, right]
  omega

theorem non_word_ranges : CharClass.nonWord.toRanges = CharClass.gaps 0 (CharClass.merge Unicode.wordRanges) := by
  have sorted : Unicode.wordRanges.Pairwise fun a b => decide (a.1 ≤ b.1) = true := by
    rw [← List.isChain_iff_pairwise]
    decide +kernel
  rw [CharClass.nonWord, CharClass.word, CharClass.toRanges, CharClass.toRanges, CharClass.normalize,
    List.mergeSort_of_pairwise sorted]

theorem edge_room_small : edgeRoom ≤ 200000 := by
  rw [edgeRoom, classOutline, non_word_ranges]
  decide +kernel

theorem words_fit (value : List Char)
    (small : (value.map fun c => (classOutline (.caseless c)).room).sum ≤ 10000000) : (words value).fits = true := by
  have bound := words_room value
  have edges := edge_room_small
  refine fits_within _ ?_
  simp only [Tally.state, Tally.limit] at bound ⊢
  omega

end Pattern

end NowNext
