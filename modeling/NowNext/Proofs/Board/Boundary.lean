import Mathlib.Order.Bounds.Defs
import Mathlib.Order.MinMax
import NowNext.Board.Resolve
import NowNext.Proofs.Calendar.Answers

set_option autoImplicit false

namespace NowNext

namespace Board

theorem resolve_agenda (agenda : Agenda) (t : Instant) (filter : Option Filter) :
    resolve (some agenda) t filter =
      .ok ⟨Calendar.current agenda t filter, Calendar.next agenda t filter⟩ :=
  rfl

theorem next_boundary_agenda (agenda : Agenda) (t : Instant) :
    nextBoundary (some agenda) t =
      .ok (earlier ((Calendar.current agenda t none).map (·.finish))
        ((Calendar.next agenda t none).map (·.start))) := by
  have ending : presentEnd agenda t = .ok ((Calendar.current agenda t none).map (·.finish)) := by
    rw [presentEnd, Agenda.present_eq_current]
    cases Calendar.current agenda t none <;> rfl
  rw [nextBoundary, ending]
  rfl

theorem earlier_le_left (a : Instant) (b : Option Instant) (w : Instant)
    (found : earlier (some a) b = some w) : w ≤ a := by
  cases b with
  | none =>
      cases found
      exact le_rfl
  | some b =>
      cases found
      exact min_le_left a b

theorem earlier_le_right (a : Option Instant) (b : Instant) (w : Instant)
    (found : earlier a (some b) = some w) : w ≤ b := by
  cases a with
  | none =>
      cases found
      exact le_rfl
  | some a =>
      cases found
      exact min_le_right a b

theorem earlier_some (a b : Option Instant) (w : Instant) (found : earlier a b = some w) :
    a = some w ∨ b = some w := by
  cases a with
  | none => exact .inr found
  | some a =>
      cases b with
      | none => exact .inl found
      | some b =>
          cases found
          rcases min_choice a b with left | right
          · exact .inl (by rw [left])
          · exact .inr (by rw [right])

theorem earlier_none (a b : Option Instant) (missing : earlier a b = none) : a = none ∧ b = none := by
  cases a <;> cases b <;> simp_all [earlier]

def Quiet (agenda : Agenda) (t u : Instant) : Prop :=
  t ≤ u ∧ ∀ w, nextBoundary (some agenda) t = .ok (some w) → u < w

variable {agenda : Agenda} {t u : Instant}

theorem quiet_idle (later : t ≤ u) (boundary : nextBoundary (some agenda) t = .ok none) :
    Quiet agenda t u := by
  refine ⟨later, fun w found => ?_⟩
  rw [boundary] at found
  cases found

theorem quiet_early (later : t ≤ u) (w : Instant) (boundary : nextBoundary (some agenda) t = .ok (some w))
    (early : u < w) : Quiet agenda t u := by
  refine ⟨later, fun other found => ?_⟩
  rw [boundary] at found
  cases found
  exact early

theorem quiet_finish (quiet : Quiet agenda t u) (event : Event)
    (current : Calendar.current agenda t none = some event) : u < event.finish := by
  cases boundary : earlier (some event.finish) ((Calendar.next agenda t none).map (·.start)) with
  | none => cases (earlier_none _ _ boundary).1
  | some w =>
      have found : nextBoundary (some agenda) t = .ok (some w) := by
        rw [next_boundary_agenda, current]
        exact congrArg Except.ok boundary
      exact lt_of_lt_of_le (quiet.2 w found) (earlier_le_left _ _ _ boundary)

theorem quiet_start (quiet : Quiet agenda t u) (event : Event) (member : event ∈ agenda.events)
    (started : event.start ≤ u) : event.start ≤ t := by
  cases following : Calendar.next agenda t none with
  | none => exact Agenda.next_none agenda t event following member
  | some next =>
      by_contra late
      have first := Agenda.next_first agenda t next event following member (lt_of_not_ge late)
      cases boundary : earlier ((Calendar.current agenda t none).map (·.finish)) (some next.start) with
      | none => cases (earlier_none _ _ boundary).2
      | some w =>
          have found : nextBoundary (some agenda) t = .ok (some w) := by
            rw [next_boundary_agenda, following]
            exact congrArg Except.ok boundary
          have early := lt_of_lt_of_le (quiet.2 w found) (earlier_le_right _ _ _ boundary)
          exact absurd (lt_of_lt_of_le early first) (not_lt_of_ge started)

theorem quiet_next (quiet : Quiet agenda t u) (filter : Option Filter) :
    Calendar.next agenda u filter = Calendar.next agenda t filter := by
  rw [Agenda.next_eq_find, Agenda.next_eq_find]
  apply List.find?_congr
  intro event member
  have same : event.startsAfter u = event.startsAfter t := by
    rw [Bool.eq_iff_iff, Agenda.starts_after_iff, Agenda.starts_after_iff]
    refine ⟨fun late => lt_of_le_of_lt quiet.1 late, fun late => ?_⟩
    by_contra early
    exact absurd late (not_lt_of_ge (quiet_start quiet event member (le_of_not_gt early)))
  rw [same]

theorem quiet_contains (quiet : Quiet agenda t u) (event : Event) (member : event ∈ agenda.events)
    (holds : event.contains u = true) : event.contains t = true := by
  rw [Agenda.contains_iff] at holds ⊢
  exact ⟨quiet_start quiet event member holds.1, lt_of_le_of_lt quiet.1 holds.2⟩

theorem quiet_current (quiet : Quiet agenda t u) (filter : Option Filter) :
    Calendar.current agenda u filter = Calendar.current agenda t filter ↔
      ∀ shown, Calendar.current agenda t filter = some shown → u < shown.finish := by
  constructor
  · intro same shown current
    rw [current] at same
    exact (Agenda.current_contains agenda u filter shown same).2
  · intro lasting
    have narrower : ∀ event ∈ agenda.events, (event.contains u && accepted filter event) = true →
        (event.contains t && accepted filter event) = true := by
      intro event member holds
      rw [Bool.and_eq_true] at holds ⊢
      exact ⟨quiet_contains quiet event member holds.1, holds.2⟩
    rw [Agenda.current_eq_find, Agenda.current_eq_find]
    cases found : agenda.events.find? fun event => event.contains t && accepted filter event with
    | none =>
        rw [List.find?_eq_none] at found ⊢
        exact fun event member holds => found event member (narrower event member holds)
    | some shown =>
        have current : Calendar.current agenda t filter = some shown := by
          rw [Agenda.current_eq_find]
          exact found
        have begun := (Agenda.current_contains agenda t filter shown current).1
        apply Agenda.find_narrowed agenda.events _ _ narrower shown found
        rw [Bool.and_eq_true, Agenda.contains_iff]
        have selected := List.find?_some found
        rw [Bool.and_eq_true] at selected
        exact ⟨⟨le_trans begun quiet.1, lasting shown current⟩, selected.2⟩

theorem quiet_resolve (quiet : Quiet agenda t u) (filter : Option Filter) :
    resolve (some agenda) u filter = resolve (some agenda) t filter ↔
      ∀ shown, Calendar.current agenda t filter = some shown → u < shown.finish := by
  rw [← quiet_current quiet filter, resolve_agenda, resolve_agenda, quiet_next quiet filter]
  simp

theorem quiet_unfiltered (quiet : Quiet agenda t u) :
    resolve (some agenda) u none = resolve (some agenda) t none :=
  (quiet_resolve quiet none).mpr (quiet_finish quiet)

theorem quiet_boundary (quiet : Quiet agenda t u) :
    nextBoundary (some agenda) u = nextBoundary (some agenda) t := by
  have same := (quiet_current quiet none).mpr (quiet_finish quiet)
  rw [next_boundary_agenda, next_boundary_agenda, same, quiet_next quiet none]

theorem boundary_later (w : Instant) (boundary : nextBoundary (some agenda) t = .ok (some w)) : t < w := by
  rw [next_boundary_agenda] at boundary
  rcases earlier_some _ _ _ (Except.ok.inj boundary) with ending | starting
  · obtain ⟨event, current, finish⟩ := Option.map_eq_some_iff.mp ending
    rw [← finish]
    exact (Agenda.current_contains agenda t none event current).2
  · obtain ⟨event, next, start⟩ := Option.map_eq_some_iff.mp starting
    rw [← start]
    exact Agenda.next_later agenda t none event next

-- What ends at the boundary is never current again, and what starts there is never next again.
theorem boundary_changes (w : Instant) (boundary : nextBoundary (some agenda) t = .ok (some w))
    (reached : w ≤ u) : resolve (some agenda) u none ≠ resolve (some agenda) t none := by
  intro same
  rw [resolve_agenda, resolve_agenda] at same
  obtain ⟨current, next⟩ := Board.mk.inj (Except.ok.inj same)
  rw [next_boundary_agenda] at boundary
  rcases earlier_some _ _ _ (Except.ok.inj boundary) with ending | starting
  · obtain ⟨event, was, finish⟩ := Option.map_eq_some_iff.mp ending
    rw [was] at current
    have lasting := (Agenda.current_contains agenda u none event current).2
    rw [finish] at lasting
    exact absurd lasting (not_lt_of_ge reached)
  · obtain ⟨event, was, start⟩ := Option.map_eq_some_iff.mp starting
    rw [was] at next
    have later := Agenda.next_later agenda u none event next
    rw [start] at later
    exact absurd later (not_lt_of_ge reached)

theorem boundary_least_change (w : Instant) :
    nextBoundary (some agenda) t = .ok (some w) ↔
      IsLeast {u | t < u ∧ resolve (some agenda) u none ≠ resolve (some agenda) t none} w := by
  constructor
  · intro boundary
    refine ⟨⟨boundary_later w boundary, boundary_changes w boundary le_rfl⟩, ?_⟩
    rintro u ⟨later, changed⟩
    by_contra early
    exact changed (quiet_unfiltered (quiet_early (le_of_lt later) w boundary (lt_of_not_ge early)))
  · rintro ⟨⟨later, changed⟩, least⟩
    obtain ⟨found, boundary⟩ : ∃ found, nextBoundary (some agenda) t = .ok found :=
      ⟨_, next_boundary_agenda agenda t⟩
    cases found with
    | none => exact absurd (quiet_unfiltered (quiet_idle (le_of_lt later) boundary)) changed
    | some v =>
        have early : v ≤ w := by
          by_contra late
          exact changed (quiet_unfiltered (quiet_early (le_of_lt later) v boundary (lt_of_not_ge late)))
        have reached : w ≤ v := least ⟨boundary_later v boundary, boundary_changes v boundary le_rfl⟩
        rw [boundary, le_antisymm early reached]

theorem no_boundary_no_change :
    nextBoundary (some agenda) t = .ok none ↔
      ∀ u, t ≤ u → resolve (some agenda) u none = resolve (some agenda) t none := by
  constructor
  · exact fun boundary u later => quiet_unfiltered (quiet_idle later boundary)
  · intro still
    obtain ⟨found, boundary⟩ : ∃ found, nextBoundary (some agenda) t = .ok found :=
      ⟨_, next_boundary_agenda agenda t⟩
    cases found with
    | none => exact boundary
    | some w =>
        have later := boundary_later w boundary
        exact absurd (still w (le_of_lt later)) (boundary_changes w boundary le_rfl)

theorem next_boundary_is_first_change (events : List Event)
    (valid : ∀ event ∈ events, event.check = .ok ()) :
    ∃ agenda, Agenda.of? events = .ok agenda ∧ ∀ t,
      (∃ boundary, nextBoundary (some agenda) t = .ok boundary) ∧
      (∀ w, nextBoundary (some agenda) t = .ok (some w) ↔
        IsLeast {u | t < u ∧ resolve (some agenda) u none ≠ resolve (some agenda) t none} w) ∧
      (nextBoundary (some agenda) t = .ok none ↔
        ∀ u, t ≤ u → resolve (some agenda) u none = resolve (some agenda) t none) := by
  obtain ⟨agenda, built⟩ := Agenda.valid_agenda events valid
  exact ⟨agenda, built, fun t =>
    ⟨⟨_, next_boundary_agenda agenda t⟩, boundary_least_change, no_boundary_no_change⟩⟩

theorem minute_bounds (n : Nat) : firstSecond ≤ 1714521600 + 60 * ((n % 1440 : Nat) : Int) ∧
    1714521600 + 60 * ((n % 1440 : Nat) : Int) ≤ lastSecond := by
  simp only [firstSecond, lastSecond]
  omega

theorem minute_whole (n : Nat) : 0 < 2 * nanosPerSecond ∧
    (nanosPerSecond ≤ 0 → (1714521600 + 60 * ((n % 1440 : Nat) : Int)) % 60 = 59) :=
  ⟨by decide, fun leap => absurd leap (by decide)⟩

def minute (n : Nat) : Instant :=
  ⟨1714521600 + 60 * ((n % 1440 : Nat) : Int), 0, (minute_bounds n).1, (minute_bounds n).2, (minute_whole n).1,
    (minute_whole n).2⟩

def work : Event := { title := "Work", start := minute 540, finish := minute 1020 }
def gym : Event := { title := "Gym", start := minute 720, finish := minute 780 }
def bell : Event := { title := "Bell", start := minute 900, finish := minute 900 }

-- The gym ends first, but it is not what is shown; the bell takes no time, but it is no longer to come.
theorem next_boundary_is_first_change_at_work :
    (∀ event ∈ [work, gym, bell], event.check = .ok ()) ∧
      ∃ agenda, Agenda.of? [work, gym, bell] = .ok agenda ∧
        IsLeast {u | minute 750 < u ∧
          resolve (some agenda) u none ≠ resolve (some agenda) (minute 750) none} (minute 900) := by
  refine ⟨by decide, ?_⟩
  obtain ⟨agenda, built, change⟩ := next_boundary_is_first_change [work, gym, bell] (by decide)
  have listed : agenda.events = [work, gym, bell] := by
    rw [Agenda.agenda_events _ agenda built]
    exact List.mergeSort_of_pairwise (by decide)
  refine ⟨agenda, built, ((change (minute 750)).2.1 (minute 900)).mp ?_⟩
  rw [next_boundary_agenda, Agenda.current_eq_find, Agenda.next_eq_find, listed]
  decide

end Board

end NowNext
