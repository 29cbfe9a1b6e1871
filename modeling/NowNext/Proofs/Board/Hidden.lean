import NowNext.Filter.Settings
import NowNext.Proofs.Board.Boundary

set_option autoImplicit false

namespace NowNext.Board

def onlyGym : Settings := { field := some "SUMMARY", value := some "Gym", comparison := some "REGEX" }

def verdicts? : Except SetupFault (Option Filter) → Option (Bool × Bool)
  | .ok (some filter) => some (filter.accepts work, filter.accepts gym)
  | _ => none

theorem only_gym_filter : ∃ filter, onlyGym.filter = .ok (some filter) ∧ filter.accepts work = false ∧
    filter.accepts gym = true := by
  have probe : verdicts? onlyGym.filter = some (false, true) := by decide +kernel
  cases selected : onlyGym.filter with
  | error cause =>
      rw [selected] at probe
      cases probe
  | ok found =>
      cases found with
      | none =>
          rw [selected] at probe
          cases probe
      | some filter =>
          rw [selected] at probe
          obtain ⟨hidden, shown⟩ := Prod.mk.inj (Option.some.inj probe)
          exact ⟨filter, rfl, hidden, shown⟩

theorem gym_during_work : ∃ agenda filter, Agenda.of? [work, gym] = .ok agenda ∧
    onlyGym.filter = .ok (some filter) ∧
    nextBoundary (some agenda) (minute 750) = .ok (some (minute 1020)) ∧
    Calendar.current agenda (minute 750) (some filter) = some gym := by
  obtain ⟨filter, selected, hidden, shown⟩ := only_gym_filter
  obtain ⟨agenda, built⟩ := Agenda.valid_agenda [work, gym] (by decide)
  have listed : agenda.events = [work, gym] := by
    rw [Agenda.agenda_events _ agenda built]
    exact List.mergeSort_of_pairwise (by decide)
  refine ⟨agenda, filter, built, selected, ?_, ?_⟩
  · rw [next_boundary_agenda, Agenda.current_eq_find, Agenda.next_eq_find, listed]
    decide
  · rw [Agenda.current_eq_find, listed]
    simp [accepted, hidden, shown, show gym.contains (minute 750) = true by decide]

-- How long a board behind a filter stays right: until the event that it shows ends, if no boundary
-- comes first. Without a filter, no boundary comes too late.
theorem board_lasts_as_shown (events : List Event) (valid : ∀ event ∈ events, event.check = .ok ()) :
    ∃ agenda, Agenda.of? events = .ok agenda ∧ ∀ (filter : Option Filter) (t u : Instant), t ≤ u →
      (nextBoundary (some agenda) t = .ok none ∨
        ∃ w, nextBoundary (some agenda) t = .ok (some w) ∧ u < w) →
      (resolve (some agenda) u filter = resolve (some agenda) t filter ↔
        ∀ shown, Calendar.current agenda t filter = some shown → u < shown.finish) ∧
      (filter = none → resolve (some agenda) u filter = resolve (some agenda) t filter) := by
  obtain ⟨agenda, built⟩ := Agenda.valid_agenda events valid
  refine ⟨agenda, built, fun filter t u later early => ?_⟩
  have quiet : Quiet agenda t u := by
    rcases early with boundary | ⟨w, boundary, before⟩
    · exact quiet_idle later boundary
    · exact quiet_early later w boundary before
  refine ⟨quiet_resolve quiet filter, ?_⟩
  rintro rfl
  exact quiet_unfiltered quiet

theorem board_lasts_as_shown_at_gym :
    (∀ event ∈ [work, gym], event.check = .ok ()) ∧
      ∃ agenda filter, Agenda.of? [work, gym] = .ok agenda ∧ onlyGym.filter = .ok (some filter) ∧
        resolve (some agenda) (minute 779) (some filter) = resolve (some agenda) (minute 750) (some filter) ∧
        resolve (some agenda) (minute 780) (some filter) ≠ resolve (some agenda) (minute 750) (some filter) := by
  refine ⟨by decide, ?_⟩
  obtain ⟨agenda, filter, built, selected, boundary, current⟩ := gym_during_work
  obtain ⟨other, rebuilt, lasts⟩ := board_lasts_as_shown [work, gym] (by decide)
  cases Except.ok.inj (built.symm.trans rebuilt)
  refine ⟨agenda, filter, built, selected, ?_, ?_⟩
  · apply (lasts (some filter) (minute 750) (minute 779) (by decide)
      (.inr ⟨minute 1020, boundary, by decide⟩)).1.mpr
    intro shown found
    rw [current] at found
    cases found
    decide
  · intro same
    have ended := (lasts (some filter) (minute 750) (minute 780) (by decide)
      (.inr ⟨minute 1020, boundary, by decide⟩)).1.mp same gym current
    exact absurd ended (by decide)

theorem shown_event_outlived :
    ¬ ∀ events, (∀ event ∈ events, event.check = .ok ()) →
      ∀ agenda, Agenda.of? events = .ok agenda → ∀ (settings : Settings) (filter : Option Filter),
        settings.filter = .ok filter → ∀ t u, t ≤ u →
          (nextBoundary (some agenda) t = .ok none ∨
            ∃ w, nextBoundary (some agenda) t = .ok (some w) ∧ u < w) →
          resolve (some agenda) u filter = resolve (some agenda) t filter := by
  intro steady
  obtain ⟨agenda, filter, built, selected, boundary, current⟩ := gym_during_work
  have same := steady [work, gym] (by decide) agenda built onlyGym (some filter) selected
    (minute 750) (minute 780) (by decide) (.inr ⟨minute 1020, boundary, by decide⟩)
  have quiet : Quiet agenda (minute 750) (minute 780) :=
    quiet_early (by decide) (minute 1020) boundary (by decide)
  exact absurd ((quiet_resolve quiet (some filter)).mp same gym current) (by decide)

end NowNext.Board
