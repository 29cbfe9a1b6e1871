import NowNext.Files.EventsFile
import NowNext.Proofs.Calendar.Scan

set_option autoImplicit false

namespace NowNext

theorem Event.check_valid (event : Event) : event.check = .ok () ↔ event.start ≤ event.finish := by
  unfold Event.check
  by_cases backward : event.finish < event.start
  · simp [backward]
  · simpa [backward] using not_lt.mp backward

namespace EventsFile

theorem all_valid (events : List Event) (valid : ∀ event ∈ events, event.start ≤ event.finish) (index : Nat) :
    firstInvalid? index events = none := by
  induction events generalizing index with
  | nil => rfl
  | cons event rest ih =>
      rw [List.forall_mem_cons, ← event.check_valid] at valid
      rw [firstInvalid?, valid.1]
      exact ih valid.2 (index + 1)

theorem first_backward (before after : List Event) (event : Event) (backward : event.finish < event.start)
    (valid : ∀ other ∈ before, other.start ≤ other.finish) (index : Nat) :
    firstInvalid? index (before ++ event :: after) = some (.invalidEvent (index + before.length) event.title
      (.endBeforeStart event.start event.finish)) := by
  induction before generalizing index with
  | nil =>
      rw [List.nil_append, firstInvalid?, (Agenda.check_fault event _).mpr ⟨backward, rfl⟩]
      rfl
  | cons other before ih =>
      rw [List.forall_mem_cons, ← other.check_valid] at valid
      rw [List.cons_append, firstInvalid?, valid.1, List.length_cons, Nat.add_comm before.length, ← Nat.add_assoc]
      exact ih valid.2 (index + 1)

theorem valid_or_backward (events : List Event) :
    (∀ event ∈ events, event.start ≤ event.finish) ∨ ∃ event, FirstBackward events event := by
  induction events with
  | nil => exact .inl (List.forall_mem_nil _)
  | cons event rest ih =>
      rcases lt_or_ge event.finish event.start with backward | valid
      · exact .inr ⟨event, [], rest, rfl, backward, List.forall_mem_nil _⟩
      · rcases ih with all | ⟨other, before, after, rfl, backward, sound⟩
        · exact .inl (List.forall_mem_cons.mpr ⟨valid, all⟩)
        · exact .inr ⟨other, event :: before, after, rfl, backward, List.forall_mem_cons.mpr ⟨valid, sound⟩⟩

theorem parse_all_valid (format : Format) (content : String) (events : List Event)
    (written : read format content = .ok events) (valid : ∀ event ∈ events, event.start ≤ event.finish) :
    parse format content = .ok events := by
  change (read format content).bind _ = _
  rw [written]
  change (firstInvalid? 0 events).elim _ _ = _
  rw [all_valid events valid]
  rfl

theorem parse_first_backward (format : Format) (content : String) (before after : List Event) (event : Event)
    (written : read format content = .ok (before ++ event :: after)) (backward : event.finish < event.start)
    (valid : ∀ other ∈ before, other.start ≤ other.finish) :
    parse format content = .error (.invalidEvent before.length event.title
      (.endBeforeStart event.start event.finish)) := by
  change (read format content).bind _ = _
  rw [written]
  change (firstInvalid? 0 (before ++ event :: after)).elim _ _ = _
  rw [first_backward before after event backward valid, Nat.zero_add]
  rfl

end EventsFile

end NowNext
