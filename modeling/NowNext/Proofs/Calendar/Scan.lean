import NowNext.Proofs.Calendar.Answers

set_option autoImplicit false

namespace NowNext

def FirstBackward (events : List Event) (event : Event) : Prop :=
  ∃ before after, events = before ++ event :: after ∧ event.finish < event.start ∧
    ∀ other ∈ before, other.start ≤ other.finish

structure SortedByStart (events sorted : List Event) : Prop where
  same : sorted.Perm events
  ordered : sorted.Pairwise fun a b => a.start ≤ b.start
  stable : ∀ s, (sorted.filter fun event => event.start = s) = events.filter fun event => event.start = s

inductive Earliest (events : List Event) (chosen : Event → Bool) : Option Event → Prop where
  | missing : (∀ event ∈ events, chosen event = false) → Earliest events chosen none
  | found (before after : List Event) (event : Event) : events = before ++ event :: after →
      chosen event = true → (∀ other ∈ before, chosen other = true → event.start < other.start) →
      (∀ other ∈ after, chosen other = true → event.start ≤ other.start) →
      Earliest events chosen (some event)

namespace Agenda

variable {events : List Event} {chosen : Event → Bool}

theorem earliest_iff (event : Event) : Earliest events chosen (some event) ↔
    (∀ other ∈ events, chosen other = true → event.start ≤ other.start) ∧
      (events.find? fun other => chosen other && other.start = event.start) = some event := by
  constructor
  · intro earliest
    cases earliest with
    | found before after event split selected sooner soon =>
        constructor
        · intro other member picked
          rw [split, List.mem_append, List.mem_cons] at member
          rcases member with left | same | right
          · exact le_of_lt (sooner other left picked)
          · rw [same]
          · exact soon other right picked
        · refine List.find?_eq_some_iff_append.mpr ⟨by simp [selected], before, after, split, fun other left => ?_⟩
          by_cases picked : chosen other = true
          · simp [ne_of_gt (sooner other left picked)]
          · simp [picked]
  · rintro ⟨least, first⟩
    obtain ⟨selected, before, after, split, refused⟩ := List.find?_eq_some_iff_append.mp first
    rw [Bool.and_eq_true] at selected
    refine .found before after event split selected.1 (fun other member picked => ?_)
      (fun other member => least other (by simp [split, member]))
    have apart : other.start ≠ event.start := by simpa [picked] using refused other member
    exact lt_of_le_of_ne (least other (by simp [split, member]) picked) apart.symm

theorem earliest_missing (earliest : Earliest events chosen none) (event : Event) :
    ¬ Earliest events chosen (some event) := by
  intro too
  cases earliest with
  | missing refused =>
      cases too with
      | found before after event split selected =>
          have missed := refused event (by simp [split])
          rw [selected] at missed
          cases missed

theorem earliest_unique {one other : Option Event} (earliest : Earliest events chosen one)
    (too : Earliest events chosen other) : one = other := by
  cases one with
  | none =>
      cases other with
      | none => rfl
      | some rival => exact absurd too (earliest_missing earliest rival)
  | some event =>
      cases other with
      | none => exact absurd earliest (earliest_missing too event)
      | some rival =>
          obtain ⟨least, first⟩ := (earliest_iff event).mp earliest
          obtain ⟨lowest, front⟩ := (earliest_iff rival).mp too
          have selected := List.find?_some first
          have picked := List.find?_some front
          rw [Bool.and_eq_true] at selected picked
          have same : event.start = rival.start :=
            le_antisymm (least rival (List.mem_of_find?_eq_some front) picked.1)
              (lowest event (List.mem_of_find?_eq_some first) selected.1)
          rw [same, front] at first
          exact first.symm

theorem sort_keeps (events : List Event) (kept : Event → Bool) (s : Instant)
    (together : ∀ event, kept event = true → event.start = s) :
    (events.mergeSort startsNoLater).filter kept = events.filter kept := by
  have tied : (events.filter kept).Pairwise fun a b => startsNoLater a b = true := by
    refine List.pairwise_of_forall_mem_list fun a inside b within => ?_
    have start := together a (List.mem_filter.mp inside).2
    have same := together b (List.mem_filter.mp within).2
    simp [startsNoLater, start, same]
  have placed : (events.filter kept).Sublist (events.mergeSort startsNoLater) := by
    refine List.sublist_mergeSort (fun a b c ab bc => ?_) (fun a b => ?_) tied List.filter_sublist
    · simp only [startsNoLater, decide_eq_true_eq] at *
      exact le_trans ab bc
    · simp only [startsNoLater, Bool.or_eq_true, decide_eq_true_eq]
      exact le_total a.start b.start
  have within := placed.filter kept
  rw [List.filter_filter] at within
  simp only [Bool.and_self] at within
  exact (within.eq_of_length ((List.mergeSort_perm events startsNoLater).filter kept).length_eq.symm).symm

theorem sort_sorted (events : List Event) : SortedByStart events (events.mergeSort startsNoLater) where
  same := List.mergeSort_perm events startsNoLater
  ordered := sort_ordered events
  stable s := sort_keeps events _ s fun event => by simp

-- The first chosen event of the sorted list is the earliest one of the list as given: among those that
-- start together with it, both lists have the same order.
theorem sort_earliest (events : List Event) (chosen : Event → Bool) :
    Earliest events chosen ((events.mergeSort startsNoLater).find? chosen) := by
  cases found : (events.mergeSort startsNoLater).find? chosen with
  | none =>
      rw [List.find?_eq_none] at found
      refine .missing fun event member => ?_
      simpa using found event (List.mem_mergeSort.mpr member)
  | some event =>
      have selected := List.find?_some found
      refine (earliest_iff event).mpr ⟨fun other member picked => ?_, ?_⟩
      · exact find_first _ (sort_ordered events) chosen event other found (List.mem_mergeSort.mpr member) picked
      · rw [← List.head?_filter, ← sort_keeps events _ event.start (by simp), List.head?_filter]
        exact find_narrowed _ chosen _ (by simp +contextual) event found (by simp [selected])

theorem check_fault (event : Event) (fault : EventFault) :
    event.check = .error fault ↔ event.finish < event.start ∧ fault = .endBeforeStart event.start event.finish := by
  unfold Event.check
  by_cases backward : event.finish < event.start
  · simp [backward, eq_comm]
  · simp [backward]

theorem first_fault (events : List Event) (fault : EventFault) (failed : Agenda.of? events = .error fault) :
    ∃ event, FirstBackward events event ∧ fault = .endBeforeStart event.start event.finish := by
  unfold Agenda.of? at failed
  split at failed
  case h_2 => cases failed
  case h_1 first found =>
      cases failed
      obtain ⟨before, event, after, split, told, sound⟩ := List.findSome?_eq_some_iff.mp found
      cases checked : event.check with
      | ok valid =>
          rw [checked] at told
          cases told
      | error cause =>
          rw [checked] at told
          cases told
          obtain ⟨backward, named⟩ := (check_fault event fault).mp checked
          refine ⟨event, ⟨before, after, split, backward, ?_⟩, named⟩
          exact valid_of_firstFault?_eq_none before (List.findSome?_eq_none_iff.mpr sound)

theorem present_iff (agenda : Agenda) (t : Instant) :
    Calendar.isPresent agenda t = true ↔ ∃ event ∈ agenda.events, event.contains t = true := by
  rw [present_eq_current, current_eq_find, List.find?_isSome]
  simp [accepted]

theorem agenda_agrees_with_list (events : List Event) :
    ((∃ fault, Agenda.of? events = .error fault) ↔ ∃ event ∈ events, event.finish < event.start) ∧
    (∀ fault, Agenda.of? events = .error fault →
      ∃ event, FirstBackward events event ∧ fault = .endBeforeStart event.start event.finish) ∧
    ∀ agenda, Agenda.of? events = .ok agenda → SortedByStart events agenda.events ∧
      ∀ (t : Instant) (filter : Option Filter),
        (Calendar.isPresent agenda t = true ↔ ∃ event ∈ events, event.contains t = true) ∧
        Earliest events (fun event => event.contains t && accepted filter event)
          (Calendar.current agenda t filter) ∧
        Earliest events (fun event => event.startsAfter t && accepted filter event)
          (Calendar.next agenda t filter) := by
  refine ⟨⟨?_, ?_⟩, first_fault events, ?_⟩
  · rintro ⟨fault, failed⟩
    obtain ⟨event, ⟨before, after, split, backward, _⟩, _⟩ := first_fault events fault failed
    exact ⟨event, by simp [split], backward⟩
  · rintro ⟨event, member, backward⟩
    cases built : Agenda.of? events with
    | error fault => exact ⟨fault, rfl⟩
    | ok agenda =>
        have listed : event ∈ agenda.events := by
          rw [agenda_events events agenda built]
          exact List.mem_mergeSort.mpr member
        exact absurd backward (not_lt_of_ge (agenda.valid event listed))
  · intro agenda built
    have listed := agenda_events events agenda built
    refine ⟨?_, fun t filter => ⟨?_, ?_, ?_⟩⟩
    · rw [listed]
      exact sort_sorted events
    · rw [present_iff, listed]
      simp
    · rw [current_eq_find, listed]
      exact sort_earliest events _
    · rw [next_eq_find, listed]
      exact sort_earliest events _

def knell : Event := { title := "Knell", start := .last, finish := .last }
def watch : Event := { title := "Watch", start := .first, finish := .last }
def sentry : Event := { title := "Sentry", start := .first, finish := .last }

theorem agenda_agrees_with_list_at_watch : ∃ agenda, Agenda.of? [knell, watch, sentry] = .ok agenda ∧
    Calendar.isPresent agenda .last = false ∧
    Calendar.current agenda .first none = some watch ∧ Calendar.next agenda .first none = some knell := by
  obtain ⟨agenda, built⟩ := valid_agenda [knell, watch, sentry] (by decide)
  obtain ⟨_, answers⟩ := (agenda_agrees_with_list [knell, watch, sentry]).2.2 agenda built
  obtain ⟨_, current, next⟩ := answers .first none
  refine ⟨agenda, built, ?_, ?_, ?_⟩
  · rw [Bool.eq_false_iff, ne_eq, (answers .last none).1]
    decide
  · exact earliest_unique current (.found [knell] [sentry] watch rfl (by decide) (by decide) (by decide))
  · exact earliest_unique next (.found [] [watch, sentry] knell rfl (by decide) (by decide) (by decide))

end Agenda

end NowNext
