import NowNext.Daemon.Session
import NowNext.Proofs.Keeper.Certified

set_option autoImplicit false

namespace NowNext

inductive WakeupEnd where
  | cancelled
  | fired
deriving DecidableEq

inductive AlarmStep where
  | armed (generation : Nat)
  | ended (how : WakeupEnd) (generation : Nat)
deriving DecidableEq

namespace Effect

def alarmStep? : Effect → Option AlarmStep
  | .note (.armed generation ..) => some (.armed generation)
  | .note (.cancelled generation _) => some (.ended .cancelled generation)
  | .note (.fired generation) => some (.ended .fired generation)
  | _ => none

theorem remark_alarm_step (notice : Notice) (remark : notice.isRemark = true) :
    (Effect.note notice).alarmStep? = none := by
  cases notice with
  | armed | cancelled | fired => cases remark
  | _ => rfl

end Effect

namespace Journal

def alarmSteps (journal : Journal) : List AlarmStep := journal.filterMap Effect.alarmStep?

def updates (journal : Journal) : List Update := journal.filterMap Effect.update?

end Journal

namespace AlarmStep

-- The wake-ups that have ended, the latest first. Each of them was set after the end of the one before.
def ledger : List WakeupEnd → List AlarmStep
  | [] => []
  | how :: earlier => .ended how (earlier.length + 1) :: .armed (earlier.length + 1) :: ledger earlier

theorem ledger_ends (ends : List WakeupEnd) (generation : Nat) :
    (ledger ends).count (.ended .cancelled generation) + (ledger ends).count (.ended .fired generation) =
      if 0 < generation ∧ generation ≤ ends.length then 1 else 0 := by
  induction ends with
  | nil =>
      have nobody : ¬(0 < generation ∧ generation ≤ 0) := by omega
      exact (if_neg nobody).symm
  | cons how earlier ih =>
      have armed (step : WakeupEnd) : (armed (earlier.length + 1) == ended step generation) = false := by simp
      simp only [ledger, List.count_cons, armed, Bool.false_eq_true, if_false, Nat.add_zero, List.length_cons]
      by_cases latest : generation = earlier.length + 1
      · subst latest
        have later : ¬(0 < earlier.length + 1 ∧ earlier.length + 1 ≤ earlier.length) := by omega
        have now : 0 < earlier.length + 1 ∧ earlier.length + 1 ≤ earlier.length + 1 := by omega
        rw [if_neg later] at ih
        obtain ⟨cancelled, fired⟩ := Nat.add_eq_zero_iff.mp ih
        rw [cancelled, fired, if_pos now]
        cases how <;> simp
      · have other (step : WakeupEnd) : (ended how (earlier.length + 1) == ended step generation) = false := by
          simp only [beq_eq_false_iff_ne, ne_eq, ended.injEq, not_and]
          intro _ same
          exact latest same.symm
        simp only [other, Bool.false_eq_true, if_false, Nat.add_zero, ih]
        congr 1
        simp only [eq_iff_iff]
        omega

end AlarmStep

namespace Alarm

variable (alarm : Alarm)

theorem cancel_idle (idle : alarm.pending = none) : alarm.cancel = alarm := by
  unfold cancel
  rw [idle]

theorem follow_idle (idle : alarm.pending = none) (elapsed : Nat) (reference : Instant) (next : Option Instant) :
    (alarm.follow elapsed reference next).issued =
        alarm.issued + (alarm.follow elapsed reference next).pending.toList.length ∧
      alarm.sleepers <+: (alarm.follow elapsed reference next).sleepers := by
  cases next with
  | none =>
      rw [follow, alarm.cancel_idle idle, idle]
      exact ⟨rfl, List.prefix_rfl⟩
  | some target =>
      refine ⟨rfl, ?_⟩
      change _ <+: alarm.cancel.sleepers ++ _
      rw [alarm.cancel_idle idle]
      exact List.prefix_append _ _

end Alarm

theorem Standing.cycled_idle {C : Type} [Calendar C] {world : Surroundings C} {before after : Standing C}
    (cycled : Cycled world before after) (idle : before.alarm.pending = none) :
    after.alarm.issued = before.alarm.issued + after.alarm.pending.toList.length ∧
      before.alarm.sleepers <+: after.alarm.sleepers := by
  cases cycled with
  | missing | offline | broken | blank | contradicted =>
      exact before.alarm.follow_idle idle world.elapsed world.reference none
  | shown feed filter board next => exact before.alarm.follow_idle idle world.elapsed world.reference next

namespace Keeper

variable {C : Type} {world : Surroundings C} {keeper before after : Keeper C} {ends : List WakeupEnd}

-- All numbers that were given out have ended, but for that of the wake-up that is set.
inductive Booked (keeper : Keeper C) (ends : List WakeupEnd) : Prop where
  | idle : keeper.alarm.pending = none → keeper.alarm.issued = ends.length →
      keeper.journal.alarmSteps = AlarmStep.ledger ends → Booked keeper ends
  | set (pending : Pending) : keeper.alarm.pending = some pending → pending.generation = ends.length + 1 →
      keeper.alarm.issued = ends.length + 1 →
      keeper.journal.alarmSteps = .armed (ends.length + 1) :: AlarmStep.ledger ends → Booked keeper ends

theorem booked_same (booked : before.Booked ends) (alarm : after.alarm = before.alarm)
    (steps : after.journal.alarmSteps = before.journal.alarmSteps) : after.Booked ends := by
  cases booked with
  | idle unset issued told =>
      rw [← alarm] at unset issued
      exact .idle unset issued (steps.trans told)
  | set pending current number issued told =>
      rw [← alarm] at current issued
      exact .set pending current number issued (steps.trans told)

theorem booked_issued (booked : keeper.Booked ends) :
    keeper.alarm.issued = ends.length + keeper.alarm.pending.toList.length := by
  cases booked with
  | idle unset issued =>
      rw [issued, unset]
      rfl
  | set pending current number issued =>
      rw [issued, current]
      rfl

theorem cancel_pending (keeper : Keeper C) : keeper.cancel.alarm.pending = none :=
  (congrArg (·.alarm.pending) (standing_cancel keeper)).trans keeper.alarm.cancel_pending

theorem cancel_issued (keeper : Keeper C) : keeper.cancel.alarm.issued = keeper.alarm.issued :=
  (congrArg (·.alarm.issued) (standing_cancel keeper)).trans keeper.alarm.cancel_issued

theorem cancel_booked (booked : keeper.Booked ends) : ∃ more, keeper.cancel.Booked (more ++ ends) := by
  cases booked with
  | idle unset issued told =>
      refine ⟨[], .idle keeper.cancel_pending (keeper.cancel_issued.trans issued) ?_⟩
      rw [cancel_journal, Alarm.cancelNotice?, unset]
      exact told
  | set pending current number issued told =>
      refine ⟨[.cancelled], .idle keeper.cancel_pending (keeper.cancel_issued.trans issued) ?_⟩
      rw [cancel_journal, Alarm.cancelNotice?, current]
      change .ended .cancelled pending.generation :: keeper.journal.alarmSteps = _
      rw [told, number]
      rfl

theorem arm_booked (booked : keeper.Booked ends) (elapsed : Nat) (reference target : Instant) :
    ∃ more, (keeper.arm elapsed reference target).Booked (more ++ ends) := by
  obtain ⟨more, cancelled⟩ := cancel_booked booked
  cases cancelled with
  | idle _ issued told =>
      rw [cancel_issued] at issued
      refine ⟨more, .set ⟨keeper.alarm.issued + 1, target⟩ rfl (by rw [issued]) (congrArg (· + 1) issued) ?_⟩
      change .armed (keeper.alarm.issued + 1) :: keeper.cancel.journal.alarmSteps = _
      rw [told, issued]
  | set pending current =>
      rw [cancel_pending] at current
      cases current

theorem held_number (booked : keeper.Booked ends) {generation : Nat} (own : keeper.alarm.holds generation = true) :
    generation = ends.length + 1 ∧ keeper.alarm.issued = ends.length + 1 ∧
      keeper.journal.alarmSteps = .armed (ends.length + 1) :: AlarmStep.ledger ends := by
  unfold Alarm.holds at own
  cases booked with
  | idle unset =>
      rw [unset] at own
      cases own
  | set pending current number issued told =>
      rw [current, Option.any_some, beq_iff_eq] at own
      exact ⟨own.symm.trans number, issued, told⟩

theorem booked_ends (booked : keeper.Booked ends) (generation : Nat) :
    keeper.journal.alarmSteps.count (.ended .cancelled generation) +
        keeper.journal.alarmSteps.count (.ended .fired generation) =
      if 0 < generation ∧ generation ≤ ends.length then 1 else 0 := by
  rw [← AlarmStep.ledger_ends]
  cases booked with
  | idle unset issued told => rw [told]
  | set pending current number issued told =>
      rw [told, List.count_cons_of_ne (by simp), List.count_cons_of_ne (by simp)]

theorem claim_booked (booked : keeper.Booked ends) {generation : Nat} (own : keeper.alarm.holds generation = true) :
    ({ keeper with alarm.pending := none }.note (.fired generation)).Booked (.fired :: ends) := by
  obtain ⟨number, issued, told⟩ := held_number booked own
  refine .idle rfl issued ?_
  change .ended .fired generation :: keeper.journal.alarmSteps = _
  rw [told, number]
  rfl

theorem act_booked (act : Act world before after) (booked : before.Booked ends) :
    ∃ more, after.Booked (more ++ ends) := by
  have settled {status : Status} : (setStatus world status before).Booked ends :=
    booked_same booked (congrArg Standing.alarm (standing_set_status world before status))
      (set_status_read Effect.remark_alarm_step (fun _ => rfl) world before status)
  cases act with
  | remark notice remark => exact ⟨[], booked_same booked rfl (remark_read Effect.remark_alarm_step before notice remark)⟩
  | hand | turn | fetch => exact ⟨[], booked_same booked rfl rfl⟩
  | report status => exact ⟨[], settled⟩
  | resolve | abort => exact ⟨[], booked_same settled rfl rfl⟩
  | cancel => exact cancel_booked booked
  | arm target => exact arm_booked booked world.elapsed world.reference target
  | claim generation own =>
      rw [before.alarm.claim_own generation own]
      exact ⟨[.fired], claim_booked booked own⟩

theorem acts_booked (acts : Acts world before after) (booked : before.Booked ends) :
    ∃ more, after.Booked (more ++ ends) := by
  induction acts with
  | refl => exact ⟨[], booked⟩
  | tail _ act ih =>
      obtain ⟨earlier, known⟩ := ih
      obtain ⟨later, booked⟩ := act_booked act known
      exact ⟨later ++ earlier, by rwa [List.append_assoc]⟩

variable [Calendar C]

theorem booked_lasting (settings : Settings) (isAttached : Bool) :
    Lasting settings isAttached fun keeper : Keeper C => ∃ ends, keeper.Booked ends := by
  refine acts_lasting settings isAttached ?_ ?_
  · rintro world before after act ⟨ends, booked⟩
    obtain ⟨more, later⟩ := act_booked act booked
    exact ⟨more ++ ends, later⟩
  · rintro keeper sleepers ⟨ends, booked⟩
    cases booked with
    | idle unset issued told => exact ⟨ends, .idle unset issued told⟩
    | set pending current number issued told => exact ⟨ends, .set pending current number issued told⟩

theorem wake_unheld (world : Surroundings C) (keeper : Keeper C) (generation : Nat)
    (stale : keeper.alarm.holds generation = false) :
    keeper.wake world generation = keeper ∨ keeper.wake world generation = keeper.note (.stale generation) := by
  unfold wake
  by_cases disposed : keeper.phase = .disposed
  · rw [if_pos disposed]
    exact .inl rfl
  · rw [if_neg disposed, stale, if_neg Bool.false_ne_true]
    exact .inr rfl

theorem wake_held (world : Surroundings C) (keeper : Keeper C) (generation : Nat)
    (alive : keeper.phase ≠ .disposed) (own : keeper.alarm.holds generation = true) :
    let outcome := cycle world ({ keeper with alarm.pending := none }.note (.fired generation))
    keeper.wake world generation = outcome.keeper.noteFault .wakeFailed outcome.fault := by
  intro outcome
  unfold wake
  rw [if_neg alive, if_pos own, keeper.alarm.claim_own generation own]

theorem cycle_booked (world : Surroundings C) (idle : keeper.alarm.pending = none) (booked : keeper.Booked ends) :
    (cycle world keeper).keeper.Booked ends ∧
      keeper.alarm.sleepers <+: (cycle world keeper).keeper.alarm.sleepers := by
  obtain ⟨issued, asleep⟩ := Standing.cycled_idle (cycle_standing world keeper) idle
  change (cycle world keeper).keeper.alarm.issued =
    keeper.alarm.issued + (cycle world keeper).keeper.alarm.pending.toList.length at issued
  obtain ⟨more, after⟩ := acts_booked (cycle_acts world keeper) booked
  have before := booked_issued booked
  have total := booked_issued after
  rw [idle] at before
  have nothing : more.length = 0 := by
    rw [List.length_append] at total
    simp only [Option.toList_none, List.length_nil] at before
    omega
  rw [List.length_eq_zero_iff.mp nothing] at after
  exact ⟨after, asleep⟩

-- The end of a sleeper whose wake-up is the one that is set: that wake-up ends first, and the cycle then
-- ends no other, and stops nobody who sleeps.
structure Fires (world : Surroundings C) (keeper : Keeper C) (generation : Nat) (ends : List WakeupEnd) : Prop where
  unended : ∀ how, .ended how generation ∉ keeper.journal.alarmSteps
  cycled : let outcome := cycle world ({ keeper with alarm.pending := none }.note (.fired generation))
    keeper.wake world generation = outcome.keeper.noteFault .wakeFailed outcome.fault
  booked : (keeper.wake world generation).Booked (.fired :: ends)
  asleep : keeper.alarm.sleepers <+: (keeper.wake world generation).alarm.sleepers

structure Stale (world : Surroundings C) (keeper : Keeper C) (generation : Nat) : Prop where
  standing : (keeper.wake world generation).standing = keeper.standing
  updates : (keeper.wake world generation).journal.updates = keeper.journal.updates
  cycles : (keeper.wake world generation).journal.cycles = keeper.journal.cycles
  steps : (keeper.wake world generation).journal.alarmSteps = keeper.journal.alarmSteps

theorem wake_fires (world : Surroundings C) {generation : Nat} (booked : keeper.Booked ends)
    (alive : keeper.phase ≠ .disposed) (own : keeper.alarm.holds generation = true) :
    keeper.Fires world generation ends := by
  have cycled := wake_held world keeper generation alive own
  obtain ⟨after, asleep⟩ := cycle_booked world rfl (claim_booked booked own)
  have alarm : (keeper.wake world generation).alarm =
      (cycle world ({ keeper with alarm.pending := none }.note (.fired generation))).keeper.alarm := by
    rw [cycled]
    exact congrArg Standing.alarm (standing_note_fault _ _ _ fun _ => rfl)
  refine ⟨?_, cycled, booked_same after alarm ?_, ?_⟩
  · obtain ⟨number, _, _⟩ := held_number booked own
    have unended : ¬(0 < generation ∧ generation ≤ ends.length) := by omega
    have never := booked_ends booked generation
    rw [if_neg unended, Nat.add_eq_zero_iff] at never
    intro how
    cases how with
    | cancelled => exact List.count_eq_zero.mp never.1
    | fired => exact List.count_eq_zero.mp never.2
  · rw [cycled]
    exact note_fault_read Effect.remark_alarm_step _ _ _ fun _ => rfl
  · rw [alarm]
    exact asleep

theorem wake_stays (world : Surroundings C) {generation : Nat} (other : keeper.alarm.holds generation = false) :
    keeper.Stale world generation := by
  constructor
  · exact wake_stale world keeper generation (.inr other)
  all_goals
    rcases wake_unheld world keeper generation other with same | told
    · rw [same]
    · rw [told]
      rfl

end Keeper

namespace Run

variable {C : Type} [Calendar C]

-- The surroundings that a wake-up ends in are arbitrary: it may be late, and its number need not even
-- have been given out.
theorem wakeups_end_once (settings : Settings) (publisher : Publisher) (feed : Option (Feed C))
    (incidents : List (Incident C)) :
    let keeper := (({ feed } : Run C).through settings publisher incidents).keeper
    ∃ ends, keeper.Booked ends ∧
      (∀ generation, keeper.journal.alarmSteps.count (.ended .cancelled generation) +
        keeper.journal.alarmSteps.count (.ended .fired generation) ≤ 1) ∧
      ∀ (world : Surroundings C) (generation : Nat),
        (keeper.alarm.holds generation = true → keeper.Fires world generation ends) ∧
        (keeper.alarm.holds generation = false → keeper.Stale world generation) := by
  intro keeper
  obtain ⟨_, ends, booked⟩ := Keeper.through_lasting (Keeper.booked_lasting settings feed.isSome) publisher
    { feed } rfl ⟨[], .idle rfl rfl rfl⟩ incidents
  refine ⟨ends, booked, ?_, ?_⟩
  · intro generation
    rw [Keeper.booked_ends booked]
    split <;> omega
  · intro world generation
    refine ⟨fun own => ?_, Keeper.wake_stays world⟩
    obtain ⟨_, consistent⟩ := through_consistent settings publisher feed incidents
    obtain ⟨ready, _⟩ := Standing.pending_consistent consistent (keeper.alarm.holds_set generation own)
    have alive : keeper.phase ≠ .disposed := by
      intro disposed
      cases ready.symm.trans disposed
    exact Keeper.wake_fires world booked alive own

theorem wakeups_end_once_at_vigil :
    let keeper := (vigil.through {} (fun _ => none) earlyWake).keeper
    let world : Surroundings FixedAnswers :=
      { settings := {}, publisher := fun _ => none, feed := vigil.feed, wall := .first, elapsed := 0 }
    ∃ ends, keeper.Booked ends ∧ keeper.Fires world 2 ends ∧ keeper.Stale world 1 := by
  intro keeper world
  obtain ⟨ends, booked, _, woken⟩ := wakeups_end_once {} (fun _ => none) vigil.feed earlyWake
  have own : keeper.alarm.holds 2 = true := by decide +kernel
  have other : keeper.alarm.holds 1 = false := by decide +kernel
  exact ⟨ends, booked, (woken world 2).1 own, (woken world 1).2 other⟩

end Run

end NowNext
