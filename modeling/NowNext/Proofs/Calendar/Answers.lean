import Mathlib.Data.List.Find
import Mathlib.Data.List.TakeWhile
import NowNext.Calendar.Agenda
import NowNext.Proofs.Time.Order

set_option autoImplicit false

namespace NowNext.Agenda

theorem valid_agenda (events : List Event) (valid : ∀ event ∈ events, event.check = .ok ()) :
    ∃ agenda, Agenda.of? events = .ok agenda := by
  have sound : Agenda.firstFault? events = none := by
    rw [Agenda.firstFault?, List.findSome?_eq_none_iff]
    intro event member
    rw [valid event member]
  unfold Agenda.of?
  split
  case h_1 fault failed =>
      rw [sound] at failed
      cases failed
  case h_2 => exact ⟨_, rfl⟩

theorem agenda_events (events : List Event) (agenda : Agenda) (built : Agenda.of? events = .ok agenda) :
    agenda.events = events.mergeSort startsNoLater := by
  unfold Agenda.of? at built
  split at built
  case h_1 => cases built
  case h_2 =>
      cases built
      rfl

theorem contains_iff (event : Event) (t : Instant) :
    event.contains t = true ↔ event.start ≤ t ∧ t < event.finish := by
  simp [Event.contains]

theorem starts_after_iff (event : Event) (t : Instant) : event.startsAfter t = true ↔ t < event.start := by
  simp [Event.startsAfter]

theorem started_start (agenda : Agenda) (t : Instant) (event : Event) (member : event ∈ agenda.started t) :
    event.start ≤ t := by
  simpa using List.mem_takeWhile_imp member

theorem drop_started_start (events : List Event) (ordered : events.Pairwise fun a b => a.start ≤ b.start)
    (t : Instant) (event : Event) (member : event ∈ events.dropWhile fun event => event.start ≤ t) :
    t < event.start := by
  induction events with
  | nil => simp at member
  | cons head tail ih =>
      obtain ⟨first, rest⟩ := List.pairwise_cons.mp ordered
      by_cases started : head.start ≤ t
      · rw [List.dropWhile_cons_of_pos (by simpa using started)] at member
        exact ih rest member
      · rw [List.dropWhile_cons_of_neg (by simpa using started)] at member
        have late : t < head.start := lt_of_not_ge started
        rcases List.mem_cons.mp member with same | later
        · rw [same]
          exact late
        · exact lt_of_lt_of_le late (first event later)

theorem upcoming_start (agenda : Agenda) (t : Instant) (event : Event) (member : event ∈ agenda.upcoming t) :
    t < event.start :=
  drop_started_start agenda.events agenda.ordered t event member

theorem started_upcoming (agenda : Agenda) (t : Instant) :
    agenda.started t ++ agenda.upcoming t = agenda.events :=
  List.takeWhile_append_dropWhile

theorem current_eq_find (agenda : Agenda) (t : Instant) (filter : Option Filter) :
    Calendar.current agenda t filter =
      agenda.events.find? fun event => event.contains t && accepted filter event := by
  have later : (agenda.upcoming t).find? (fun event => event.contains t && accepted filter event) = none := by
    rw [List.find?_eq_none]
    intro event member
    have late := upcoming_start agenda t event member
    simp [Event.contains, not_le_of_gt late]
  rw [← started_upcoming agenda t, List.find?_append, later, Option.or_none]
  rfl

theorem next_eq_find (agenda : Agenda) (t : Instant) (filter : Option Filter) :
    Calendar.next agenda t filter =
      agenda.events.find? fun event => event.startsAfter t && accepted filter event := by
  have earlier : (agenda.started t).find? (fun event => event.startsAfter t && accepted filter event) = none := by
    rw [List.find?_eq_none]
    intro event member
    have early := started_start agenda t event member
    simp [Event.startsAfter, not_lt_of_ge early]
  have later : (agenda.upcoming t).find? (fun event => event.startsAfter t && accepted filter event) =
      (agenda.upcoming t).find? fun event => accepted filter event := by
    apply List.find?_congr
    intro event member
    have late := upcoming_start agenda t event member
    simp [Event.startsAfter, late]
  rw [← started_upcoming agenda t, List.find?_append, earlier, Option.none_or, later]
  rfl

theorem current_contains (agenda : Agenda) (t : Instant) (filter : Option Filter) (event : Event)
    (found : Calendar.current agenda t filter = some event) : event.start ≤ t ∧ t < event.finish := by
  rw [current_eq_find] at found
  have holds := List.find?_some found
  rw [Bool.and_eq_true, contains_iff] at holds
  exact holds.1

theorem next_later (agenda : Agenda) (t : Instant) (filter : Option Filter) (event : Event)
    (found : Calendar.next agenda t filter = some event) : t < event.start := by
  rw [next_eq_find] at found
  have holds := List.find?_some found
  rw [Bool.and_eq_true, starts_after_iff] at holds
  exact holds.1

-- Presence and the current event are found by separate searches. They agree, so that an agenda never
-- tells of an event that it cannot give.
theorem present_eq_current (agenda : Agenda) (t : Instant) :
    Calendar.isPresent agenda t = (Calendar.current agenda t none).isSome := by
  change (agenda.started t).any (fun event => event.contains t) =
    ((agenda.started t).find? fun event => event.contains t && accepted none event).isSome
  rw [Bool.eq_iff_iff]
  simp [accepted]

theorem find_first (events : List Event) (ordered : events.Pairwise fun a b => a.start ≤ b.start)
    (select : Event → Bool) (event other : Event) (found : events.find? select = some event)
    (member : other ∈ events) (selected : select other = true) : event.start ≤ other.start := by
  induction events with
  | nil => simp at member
  | cons head tail ih =>
      obtain ⟨first, rest⟩ := List.pairwise_cons.mp ordered
      by_cases holds : select head = true
      · rw [List.find?_cons_of_pos holds] at found
        cases found
        rcases List.mem_cons.mp member with same | later
        · rw [same]
        · exact first other later
      · rw [List.find?_cons_of_neg holds] at found
        rcases List.mem_cons.mp member with same | later
        · rw [same] at selected
          exact absurd selected holds
        · exact ih rest found later

theorem next_first (agenda : Agenda) (t : Instant) (event other : Event)
    (found : Calendar.next agenda t none = some event) (member : other ∈ agenda.events)
    (late : t < other.start) : event.start ≤ other.start := by
  rw [next_eq_find] at found
  exact find_first agenda.events agenda.ordered _ event other found member
    (by simpa [accepted, starts_after_iff] using late)

theorem next_none (agenda : Agenda) (t : Instant) (other : Event)
    (missing : Calendar.next agenda t none = none) (member : other ∈ agenda.events) :
    other.start ≤ t := by
  rw [next_eq_find, List.find?_eq_none] at missing
  have refused := missing other member
  simpa [accepted, Event.startsAfter] using refused

theorem find_narrowed (events : List Event) (wide narrow : Event → Bool)
    (narrower : ∀ event ∈ events, narrow event = true → wide event = true) (event : Event)
    (found : events.find? wide = some event) (kept : narrow event = true) :
    events.find? narrow = some event := by
  induction events with
  | nil => simp at found
  | cons head tail ih =>
      by_cases holds : wide head = true
      · rw [List.find?_cons_of_pos holds] at found
        cases found
        exact List.find?_cons_of_pos kept
      · rw [List.find?_cons_of_neg holds] at found
        have refused : ¬ narrow head = true := fun accepts => holds (narrower head (by simp) accepts)
        rw [List.find?_cons_of_neg refused]
        exact ih (fun other member => narrower other (by simp [member])) found

end NowNext.Agenda
