import NowNext.Calendar.Basic

set_option autoImplicit false

namespace NowNext

def startsNoLater (a b : Event) : Bool := a.start ≤ b.start

structure Agenda where
  events : List Event
  ordered : events.Pairwise fun a b => a.start ≤ b.start
  valid : ∀ event ∈ events, event.start ≤ event.finish

namespace Agenda

theorem sort_ordered (events : List Event) :
    (events.mergeSort startsNoLater).Pairwise fun a b => a.start ≤ b.start := by
  have sorted := @List.pairwise_mergeSort Event startsNoLater
    (fun a b c ab bc => by
      simp only [startsNoLater, decide_eq_true_eq] at *
      exact Instant.le_trans _ _ _ ab bc)
    (fun a b => by
      simp only [startsNoLater, Bool.or_eq_true, decide_eq_true_eq]
      exact Instant.le_total a.start b.start)
    events
  exact sorted.imp fun le => by simpa [startsNoLater] using le

def firstFault? (events : List Event) : Option EventFault :=
  events.findSome? fun event =>
    match event.check with
    | .error fault => some fault
    | .ok _ => none

theorem valid_of_firstFault?_eq_none (events : List Event) (sound : firstFault? events = none) :
    ∀ event ∈ events, event.start ≤ event.finish := by
  intro event member
  rw [firstFault?, List.findSome?_eq_none_iff] at sound
  have := sound event member
  by_cases late : event.finish < event.start
  · simp [Event.check, late] at this
  · exact (Instant.not_lt event.finish event.start).mp late

def of? (events : List Event) : Except EventFault Agenda :=
  match sound : firstFault? events with
  | some fault => .error fault
  | none =>
      .ok ⟨events.mergeSort startsNoLater, sort_ordered events, fun event member =>
        valid_of_firstFault?_eq_none events sound event (List.mem_mergeSort.mp member)⟩

def empty : Agenda := ⟨[], .nil, by simp⟩

def size (agenda : Agenda) : Nat := agenda.events.length

def titles (agenda : Agenda) : List String := agenda.events.map (·.title)

def started (agenda : Agenda) (t : Instant) : List Event :=
  agenda.events.takeWhile fun event => event.start ≤ t

def upcoming (agenda : Agenda) (t : Instant) : List Event :=
  agenda.events.dropWhile fun event => event.start ≤ t

instance : Calendar Agenda where
  isPresent agenda t := (agenda.started t).any fun event => event.contains t
  current agenda t filter :=
    (agenda.started t).find? fun event => event.contains t && accepted filter event
  next agenda t filter := (agenda.upcoming t).find? fun event => accepted filter event

end Agenda

end NowNext
