import Mathlib.Data.List.Chain
import Mathlib.Order.WithBot
import NowNext.Proofs.Board.Boundary

set_option autoImplicit false

namespace NowNext.Board

def bounds (events : List Event) : List Instant := events.map (·.start) ++ events.map (·.finish)

def remaining (agenda : Agenda) (t : Instant) : Nat := (bounds agenda.events).countP fun bound => t < bound

variable {agenda : Agenda} {t u : Instant}

theorem bounds_iff (events : List Event) (w : Instant) :
    w ∈ bounds events ↔ ∃ event ∈ events, w = event.start ∨ w = event.finish := by
  simp only [bounds, List.mem_append, List.mem_map]
  constructor
  · rintro (⟨event, member, start⟩ | ⟨event, member, finish⟩)
    · exact ⟨event, member, .inl start.symm⟩
    · exact ⟨event, member, .inr finish.symm⟩
  · rintro ⟨event, member, start | finish⟩
    · exact .inl ⟨event, member, start.symm⟩
    · exact .inr ⟨event, member, finish.symm⟩

theorem remaining_le (agenda : Agenda) (t : Instant) : remaining agenda t ≤ 2 * agenda.events.length := by
  have within := List.countP_le_length (l := bounds agenda.events) (p := fun bound => t < bound)
  simp only [bounds, List.length_append, List.length_map] at within
  simp only [remaining, bounds]
  omega

theorem boundary_is_bound (w : Instant) (boundary : nextBoundary (some agenda) t = .ok (some w)) :
    w ∈ bounds agenda.events := by
  rw [bounds_iff]
  rw [next_boundary_agenda] at boundary
  rcases earlier_some _ _ _ (Except.ok.inj boundary) with ending | starting
  · obtain ⟨event, current, finish⟩ := Option.map_eq_some_iff.mp ending
    rw [Agenda.current_eq_find] at current
    exact ⟨event, List.mem_of_find?_eq_some current, .inr finish.symm⟩
  · obtain ⟨event, next, start⟩ := Option.map_eq_some_iff.mp starting
    rw [Agenda.next_eq_find] at next
    exact ⟨event, List.mem_of_find?_eq_some next, .inl start.symm⟩

theorem remaining_lt (w : Instant) (boundary : nextBoundary (some agenda) t = .ok (some w)) (reached : w ≤ u) :
    remaining agenda u < remaining agenda t := by
  have later := boundary_later w boundary
  have before : 0 < ((bounds agenda.events).filter fun bound => !decide (u < bound)).countP fun bound => t < bound := by
    refine List.countP_pos_iff.mpr ⟨w, List.mem_filter.mpr ⟨boundary_is_bound w boundary, ?_⟩, by simpa using later⟩
    simpa using reached
  have after : ((bounds agenda.events).filter fun bound => u < bound).countP (fun bound => t < bound) =
      remaining agenda u := by
    rw [List.countP_filter]
    refine List.countP_congr fun bound _ => ?_
    simp only [Bool.and_eq_true, decide_eq_true_eq, and_iff_right_iff_imp]
    exact fun late => (later.trans_le reached).trans late
  have split := List.countP_eq_countP_filter_add (bounds agenda.events) (fun bound => t < bound) fun bound => u < bound
  rw [after] at split
  change _ < List.countP _ _
  omega

theorem boundary_monotone (order : t ≤ u) : ∃ v w : WithTop Instant,
    nextBoundary (some agenda) t = .ok v ∧ nextBoundary (some agenda) u = .ok w ∧ v ≤ w := by
  obtain ⟨v, now⟩ : ∃ v, nextBoundary (some agenda) t = .ok v := ⟨_, next_boundary_agenda agenda t⟩
  obtain ⟨w, later⟩ : ∃ w, nextBoundary (some agenda) u = .ok w := ⟨_, next_boundary_agenda agenda u⟩
  refine ⟨v, w, now, later, ?_⟩
  cases v with
  | none =>
      have same := quiet_boundary (quiet_idle order now)
      rw [now, later] at same
      cases same
      exact le_top
  | some v =>
      by_cases early : u < v
      · have same := quiet_boundary (quiet_early order v now early)
        rw [now, later] at same
        cases same
        exact le_rfl
      · cases w with
        | none => exact le_top
        | some w =>
            have passed : v < w := lt_of_le_of_lt (le_of_not_gt early) (boundary_later w later)
            exact WithTop.coe_le_coe.mpr (le_of_lt passed)

theorem boundaries_end (agenda : Agenda) (t : Instant) : ∃ chain : List Instant,
    (t :: chain).IsChain (fun a b => nextBoundary (some agenda) a = .ok (some b)) ∧
    nextBoundary (some agenda) (chain.getLastD t) = .ok none ∧ chain.length ≤ remaining agenda t := by
  obtain ⟨found, boundary⟩ : ∃ found, nextBoundary (some agenda) t = .ok found := ⟨_, next_boundary_agenda agenda t⟩
  cases found with
  | none => exact ⟨[], .singleton t, boundary, Nat.zero_le _⟩
  | some w =>
      have fewer := remaining_lt w boundary le_rfl
      obtain ⟨chain, linked, last, short⟩ := boundaries_end agenda w
      refine ⟨w :: chain, .cons_cons boundary linked, ?_, ?_⟩
      · rw [List.getLastD_cons]
        exact last
      · rw [List.length_cons]
        omega
termination_by remaining agenda t

theorem chain_increases (chain : List Instant)
    (linked : (t :: chain).IsChain fun a b => nextBoundary (some agenda) a = .ok (some b)) :
    (t :: chain).Pairwise (· < ·) :=
  List.isChain_iff_pairwise.mp (linked.imp fun _ w => boundary_later w)

theorem chain_bounds (chain : List Instant)
    (linked : (t :: chain).IsChain fun a b => nextBoundary (some agenda) a = .ok (some b)) :
    ∀ w ∈ chain, w ∈ bounds agenda.events := by
  induction chain generalizing t with
  | nil => simp
  | cons head tail ih =>
      obtain ⟨boundary, rest⟩ := List.isChain_cons_cons.mp linked
      intro w member
      rcases List.mem_cons.mp member with same | later
      · rw [same]
        exact boundary_is_bound head boundary
      · exact ih rest w later

end NowNext.Board
