import NowNext.Keeper.Alarm

set_option autoImplicit false

namespace NowNext.Alarm

def follow (alarm : Alarm) (elapsed : Nat) (reference : Instant) : Option Instant → Alarm
  | some target => alarm.arm elapsed reference target
  | none => alarm.cancel

def Tidy (alarm : Alarm) : Prop := alarm.cancel.sleepers = []

def Timed (alarm : Alarm) (moment : Nat) (reference : Instant) : Prop :=
  alarm.sleepers = (alarm.pending.map fun pending =>
    (⟨pending.generation, dueAfter moment (alarm.delay (reference.wait pending.target))⟩ : Sleeper)).toList

def Numbered (alarm : Alarm) : Prop := ∀ sleeper ∈ alarm.sleepers, sleeper.generation ≤ alarm.issued

-- Those who sleep for the wake-up that is set. Whoever else sleeps ends in vain.
def wakers (alarm : Alarm) : List Sleeper := alarm.sleepers.filter fun sleeper => alarm.holds sleeper.generation

variable (alarm : Alarm)

theorem holds_set (generation : Nat) (own : alarm.holds generation = true) : alarm.pending.isSome = true := by
  cases pending : alarm.pending with
  | none => simp [holds, pending] at own
  | some wakeup => rfl

theorem claim_own (generation : Nat) (own : alarm.holds generation = true) :
    alarm.claim generation = { alarm with pending := none } := if_pos own

theorem cancel_pending : alarm.cancel.pending = none := by
  cases alarm with
  | mk pending issued sleepers bound => cases pending <;> rfl

theorem cancel_bound : alarm.cancel.bound = alarm.bound := by
  cases alarm with
  | mk pending issued sleepers bound => cases pending <;> rfl

theorem cancel_issued : alarm.cancel.issued = alarm.issued := by
  cases alarm with
  | mk pending issued sleepers bound => cases pending <;> rfl

theorem cancel_target : alarm.cancel.target? = none := by
  rw [target?, cancel_pending]
  rfl

theorem cancel_cancel : alarm.cancel.cancel = alarm.cancel := by
  unfold cancel
  cases pending : alarm.pending <;> simp [pending]

theorem follow_target (elapsed : Nat) (reference : Instant) (next : Option Instant) :
    (alarm.follow elapsed reference next).target? = next := by
  cases next with
  | none => exact cancel_target alarm
  | some target => rfl

theorem follow_bound (elapsed : Nat) (reference : Instant) (next : Option Instant) :
    (alarm.follow elapsed reference next).bound = alarm.bound := by
  cases next with
  | none => exact cancel_bound alarm
  | some target => rfl

theorem cancel_tidy (tidy : alarm.Tidy) : alarm.cancel.Tidy := by
  rw [Tidy, cancel_cancel]
  exact tidy

theorem follow_timed (tidy : alarm.Tidy) (moment : Nat) (reference : Instant) (next : Option Instant) :
    (alarm.follow moment reference next).Timed moment reference := by
  cases next with
  | none =>
      change alarm.cancel.sleepers = _
      rw [tidy, follow, cancel_pending]
      rfl
  | some target =>
      change alarm.cancel.sleepers ++ _ = _
      rw [tidy]
      rfl

theorem timed_tidy (moment : Nat) (reference : Instant) (timed : alarm.Timed moment reference) : alarm.Tidy := by
  unfold Tidy cancel
  unfold Timed at timed
  cases pending : alarm.pending with
  | none => simpa [pending] using timed
  | some pending => simp_all

theorem tidy_idle (tidy : alarm.Tidy) (idle : alarm.pending = none) : alarm.sleepers = [] := by
  simpa [Tidy, cancel, idle] using tidy

theorem cancel_numbered (numbered : alarm.Numbered) : alarm.cancel.Numbered := by
  unfold cancel
  cases alarm.pending with
  | none => exact numbered
  | some pending => exact fun sleeper member => numbered sleeper (List.mem_filter.mp member).1

theorem arm_numbered (numbered : alarm.Numbered) (elapsed : Nat) (reference target : Instant) :
    (alarm.arm elapsed reference target).Numbered := by
  intro sleeper member
  rcases List.mem_append.mp member with before | new
  · have known := alarm.cancel_numbered numbered sleeper before
    rw [cancel_issued] at known
    exact Nat.le_succ_of_le known
  · cases List.mem_singleton.mp new
    exact Nat.le_refl _

theorem arm_wakers (numbered : alarm.Numbered) (elapsed : Nat) (reference target : Instant) :
    (alarm.arm elapsed reference target).wakers =
      [⟨alarm.issued + 1, dueAfter elapsed (alarm.delay (reference.wait target))⟩] := by
  have others : alarm.cancel.sleepers.filter
      (fun sleeper => (alarm.arm elapsed reference target).holds sleeper.generation) = [] := by
    rw [List.filter_eq_nil_iff]
    intro sleeper member own
    have known := alarm.cancel_numbered numbered sleeper member
    have new : alarm.issued + 1 = sleeper.generation := by simpa [holds, arm] using own
    rw [cancel_issued] at known
    omega
  change List.filter _ (alarm.cancel.sleepers ++ [_]) = _
  rw [List.filter_append, others]
  simp [holds, arm]

theorem follow_wakers (numbered : alarm.Numbered) (elapsed : Nat) (reference : Instant) (next : Option Instant) :
    (alarm.follow elapsed reference next).wakers.map (·.generation) =
      ((alarm.follow elapsed reference next).pending.map (·.generation)).toList := by
  cases next with
  | none => simp [follow, wakers, holds, cancel_pending]
  | some target =>
      rw [follow, alarm.arm_wakers numbered]
      rfl

theorem delay_le (nanos : Nat) : alarm.delay nanos ≤ nanos := by
  unfold delay
  cases alarm.bound with
  | none => exact Nat.le_refl nanos
  | some bound => exact Nat.min_le_left nanos bound

theorem delay_endless (endless : alarm.bound = none) (nanos : Nat) : alarm.delay nanos = nanos := by
  rw [delay, endless]
  rfl

theorem delay_pos (bounded : alarm.bound ≠ some 0) (nanos : Nat) (positive : 0 < nanos) :
    0 < alarm.delay nanos := by
  unfold delay
  cases bound : alarm.bound with
  | none => exact positive
  | some n =>
      have nonzero : n ≠ 0 := fun zero => bounded (by rw [bound, zero])
      change 0 < min nanos n
      omega

theorem lt_due_after (moment now nanos : Nat) (later : moment ≤ now) :
    now < dueAfter moment nanos ↔ (now - moment) * nanosPerMilli < nanos := by
  simp only [dueAfter, nanosPerMilli]
  omega

theorem first_due_le (limit : Nat) (sleepers : List Sleeper) (sleeper : Sleeper)
    (found : firstDue? limit sleepers = some sleeper) : sleeper ∈ sleepers ∧ sleeper.due ≤ limit := by
  induction sleepers generalizing sleeper with
  | nil => cases found
  | cons head tail ih =>
      unfold firstDue? at found
      cases rest : firstDue? limit tail with
      | none =>
          simp only [rest, Option.ite_none_right_eq_some, Option.some.injEq] at found
          obtain ⟨due, rfl⟩ := found
          exact ⟨by simp, due⟩
      | some other =>
          obtain ⟨member, due⟩ := ih other rest
          simp only [rest, Option.some.injEq] at found
          by_cases first : head.due ≤ other.due
          · rw [if_pos first] at found
            cases found
            exact ⟨by simp, Nat.le_trans first due⟩
          · rw [if_neg first] at found
            cases found
            exact ⟨by simp [member], due⟩

theorem first_due_none (limit : Nat) (sleepers : List Sleeper) (missing : firstDue? limit sleepers = none)
    (sleeper : Sleeper) (member : sleeper ∈ sleepers) : limit < sleeper.due := by
  induction sleepers with
  | nil => cases member
  | cons head tail ih =>
      unfold firstDue? at missing
      cases rest : firstDue? limit tail with
      | some other => simp [rest] at missing
      | none =>
          simp only [rest, ite_eq_right_iff, reduceCtorEq, imp_false, Nat.not_le] at missing
          rcases List.mem_cons.mp member with same | later
          · rw [same]
            exact missing
          · exact ih rest later

theorem wake_none (limit : Nat) (missing : alarm.wake? limit = none) (sleeper : Sleeper)
    (member : sleeper ∈ alarm.sleepers) : limit < sleeper.due :=
  first_due_none limit alarm.sleepers (Option.map_eq_none_iff.mp missing) sleeper member

theorem wake_some (limit : Nat) (sleeper : Sleeper) (rest : Alarm) (woken : alarm.wake? limit = some (sleeper, rest)) :
    sleeper ∈ alarm.sleepers ∧ sleeper.due ≤ limit ∧
      rest = { alarm with sleepers := alarm.sleepers.erase sleeper } := by
  obtain ⟨first, found, same⟩ := Option.map_eq_some_iff.mp woken
  obtain ⟨rfl, rfl⟩ := Prod.mk.inj same
  obtain ⟨member, due⟩ := first_due_le limit alarm.sleepers first found
  exact ⟨member, due, rfl⟩

theorem wake_set (tidy : alarm.Tidy) (limit : Nat) (sleeper : Sleeper) (rest : Alarm)
    (woken : alarm.wake? limit = some (sleeper, rest)) : alarm.pending.isSome = true := by
  cases pending : alarm.pending with
  | some wakeup => rfl
  | none =>
      rw [wake?, alarm.tidy_idle tidy pending] at woken
      cases woken

theorem wake_timed (limit moment : Nat) (reference : Instant) (timed : alarm.Timed moment reference)
    (sleeper : Sleeper) (rest : Alarm) (woken : alarm.wake? limit = some (sleeper, rest)) :
    ∃ pending, alarm.pending = some pending ∧ rest = { alarm with sleepers := [] } ∧
      sleeper ∈ alarm.sleepers ∧ sleeper.due ≤ limit ∧ sleeper.generation = pending.generation ∧
      sleeper.due = dueAfter moment (alarm.delay (reference.wait pending.target)) := by
  obtain ⟨member, due, rfl⟩ := alarm.wake_some limit sleeper rest woken
  have asleep := member
  unfold Timed at timed
  cases pending : alarm.pending with
  | none => simp [timed, pending] at member
  | some wakeup =>
      simp only [timed, pending, Option.map_some, Option.toList_some, List.mem_singleton] at member
      refine ⟨wakeup, rfl, ?_, asleep, due, by rw [member], by rw [member]⟩
      rw [timed, pending, Option.map_some, Option.toList_some, member, List.erase_cons_head]

end NowNext.Alarm
