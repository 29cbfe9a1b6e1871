import Mathlib.Data.List.Induction
import Mathlib.Order.Bounds.Basic
import NowNext.Proofs.Board.Boundary
import NowNext.Proofs.Keeper.Sleepers
import NowNext.Proofs.Time.Reference

set_option autoImplicit false

namespace NowNext

inductive AlarmOp where
  | arm (reference target : Instant)
  | cancel
  | claim (generation : Nat)
  | pass (millis : Nat)
deriving DecidableEq

namespace AlarmOp

def isArm : AlarmOp → Bool
  | arm _ _ => true
  | _ => false

def drops : AlarmOp → Bool
  | arm _ _ | cancel => true
  | claim _ | pass _ => false

def isPlain : AlarmOp → Bool
  | arm reference target => !reference.isLeap && !target.isLeap
  | _ => true

end AlarmOp

structure Waking where
  generation : Nat
  moment : Nat
deriving DecidableEq

structure AlarmClock where
  alarm : Alarm
  elapsed : Nat := 0
  claimed : List Nat := []
  wakings : List Waking := []
deriving DecidableEq

namespace AlarmClock

def perform (clock : AlarmClock) : AlarmOp → AlarmClock
  | .arm reference target => { clock with alarm := clock.alarm.arm clock.elapsed reference target }
  | .cancel => { clock with alarm := clock.alarm.cancel }
  | .claim generation =>
      { clock with
        alarm := clock.alarm.claim generation
        claimed := if clock.alarm.holds generation then generation :: clock.claimed else clock.claimed }
  | .pass millis => { clock with elapsed := clock.elapsed + millis }

def ring (since : Nat) (clock : AlarmClock) : AlarmClock :=
  let rung := Alarm.wakeAll clock.elapsed clock.alarm.sleepers.length clock.alarm
  { clock with
    alarm := rung.2
    wakings := (rung.1.map fun sleeper => ⟨sleeper.generation, max since sleeper.due⟩).reverse ++ clock.wakings }

def step (clock : AlarmClock) (op : AlarmOp) : AlarmClock := (clock.perform op).ring clock.elapsed

def after (bound : Option Nat) (ops : List AlarmOp) : AlarmClock := ops.foldl step { alarm := { bound } }

def wakingsOf (clock : AlarmClock) (generation : Nat) : List Waking :=
  clock.wakings.filter fun waking => waking.generation = generation

def sleepersOf (clock : AlarmClock) (generation : Nat) : List Sleeper :=
  clock.alarm.sleepers.filter fun sleeper => sleeper.generation = generation

end AlarmClock

namespace Alarm

variable (alarm : Alarm)

theorem wake_all_due (limit fuel : Nat) (enough : alarm.sleepers.length ≤ fuel) :
    (wakeAll limit fuel alarm).2 = { alarm with sleepers := alarm.sleepers.filter fun sleeper => limit < sleeper.due } ∧
      (wakeAll limit fuel alarm).1.Perm (alarm.sleepers.filter fun sleeper => sleeper.due ≤ limit) := by
  induction fuel generalizing alarm with
  | zero =>
      have nobody : alarm.sleepers = [] := List.length_eq_zero_iff.mp (Nat.le_zero.mp enough)
      rw [wakeAll, nobody]
      refine ⟨?_, .refl _⟩
      cases alarm
      cases nobody
      rfl
  | succ fuel ih =>
      unfold wakeAll
      cases woken : alarm.wake? limit with
      | none =>
          have late := alarm.wake_none limit woken
          have all : (alarm.sleepers.filter fun sleeper => limit < sleeper.due) = alarm.sleepers :=
            List.filter_eq_self.mpr fun sleeper member => decide_eq_true (late sleeper member)
          have nobody : (alarm.sleepers.filter fun sleeper => sleeper.due ≤ limit) = [] :=
            List.filter_eq_nil_iff.mpr fun sleeper member => by simpa using late sleeper member
          rw [all, nobody]
          exact ⟨rfl, .refl _⟩
      | some first =>
          obtain ⟨sleeper, rest⟩ := first
          obtain ⟨member, due, rfl⟩ := alarm.wake_some limit sleeper rest woken
          have fewer : (alarm.sleepers.erase sleeper).length ≤ fuel := by
            rw [List.length_erase_of_mem member]
            omega
          obtain ⟨left, ended⟩ := ih { alarm with sleepers := alarm.sleepers.erase sleeper } fewer
          constructor
          · have kept : sleeper ∉ alarm.sleepers.filter fun sleeper => limit < sleeper.due := by
              simp [due]
            simp only [left, ← List.erase_filter, List.erase_of_not_mem kept]
          · have order := (List.perm_cons_erase member).filter fun sleeper => sleeper.due ≤ limit
            rw [List.filter_cons_of_pos (by simpa using due)] at order
            exact (ended.cons sleeper).trans order.symm

theorem cancel_sleepers (generation : Nat) :
    (alarm.cancel.sleepers.filter fun sleeper => sleeper.generation = generation) =
      if alarm.holds generation then []
      else alarm.sleepers.filter fun sleeper => sleeper.generation = generation := by
  unfold cancel holds
  cases alarm.pending with
  | none => rfl
  | some pending =>
      by_cases own : pending.generation = generation
      · simp [own, List.filter_filter]
      · simp only [Option.any_some, beq_iff_eq, own, if_false, List.filter_filter]
        congr 1
        funext sleeper
        by_cases other : sleeper.generation = generation
        · simp [other, Ne.symm own]
        · simp [other]

theorem claim_sleepers (generation : Nat) : (alarm.claim generation).sleepers = alarm.sleepers := by
  unfold claim
  cases alarm.holds generation <;> rfl

theorem claim_issued (generation : Nat) : (alarm.claim generation).issued = alarm.issued := by
  unfold claim
  cases alarm.holds generation <;> rfl

theorem claim_unheld (generation : Nat) (other : alarm.holds generation = false) : alarm.claim generation = alarm :=
  if_neg (by simp [other])

end Alarm

namespace AlarmClock

variable {clock : AlarmClock}

theorem ring_alarm (since : Nat) (clock : AlarmClock) : (clock.ring since).alarm =
    { clock.alarm with sleepers := clock.alarm.sleepers.filter fun sleeper => clock.elapsed < sleeper.due } :=
  (clock.alarm.wake_all_due clock.elapsed _ (Nat.le_refl _)).1

theorem ring_wakings (since : Nat) (clock : AlarmClock) : (clock.ring since).wakings.Perm
    ((clock.alarm.sleepers.filter fun sleeper => sleeper.due ≤ clock.elapsed).map
      (fun sleeper => ⟨sleeper.generation, max since sleeper.due⟩) ++ clock.wakings) :=
  ((List.reverse_perm _).trans ((clock.alarm.wake_all_due clock.elapsed _ (Nat.le_refl _)).2.map _)).append_right _

theorem ring_sleepers_of (since generation : Nat) (clock : AlarmClock) : (clock.ring since).sleepersOf generation =
    (clock.sleepersOf generation).filter fun sleeper => clock.elapsed < sleeper.due := by
  simp only [sleepersOf, ring_alarm, List.filter_filter, Bool.and_comm]

theorem ring_wakings_of (since generation : Nat) (clock : AlarmClock) : ((clock.ring since).wakingsOf generation).Perm
    (((clock.sleepersOf generation).filter fun sleeper => sleeper.due ≤ clock.elapsed).map
      (fun sleeper => ⟨sleeper.generation, max since sleeper.due⟩) ++ clock.wakingsOf generation) := by
  have order := (ring_wakings since clock).filter fun waking => waking.generation = generation
  rw [List.filter_append, List.filter_map, List.filter_filter] at order
  simpa only [wakingsOf, sleepersOf, List.filter_filter, Bool.and_comm, Function.comp_def] using order

theorem ring_asleep (since : Nat) (clock : AlarmClock) (sleeper : Sleeper)
    (member : sleeper ∈ (clock.ring since).alarm.sleepers) : clock.elapsed < sleeper.due := by
  rw [ring_alarm, List.mem_filter] at member
  exact of_decide_eq_true member.2

theorem ring_nobody (since : Nat) (clock : AlarmClock)
    (late : ∀ sleeper ∈ clock.alarm.sleepers, clock.elapsed < sleeper.due) : clock.ring since = clock := by
  obtain ⟨left, ended⟩ := clock.alarm.wake_all_due clock.elapsed _ (Nat.le_refl _)
  have all : (clock.alarm.sleepers.filter fun sleeper => clock.elapsed < sleeper.due) = clock.alarm.sleepers :=
    List.filter_eq_self.mpr fun sleeper member => decide_eq_true (late sleeper member)
  have nobody : (clock.alarm.sleepers.filter fun sleeper => sleeper.due ≤ clock.elapsed) = [] :=
    List.filter_eq_nil_iff.mpr fun sleeper member => by simpa using late sleeper member
  rw [nobody, List.perm_nil] at ended
  simp only [ring, left, ended, all, List.map_nil, List.reverse_nil, List.nil_append]

structure Counted (clock : AlarmClock) : Prop where
  latest : ∀ pending, clock.alarm.pending = some pending → pending.generation = clock.alarm.issued
  asleep : ∀ sleeper ∈ clock.alarm.sleepers, 0 < sleeper.generation ∧ sleeper.generation ≤ clock.alarm.issued
  once : clock.claimed.Nodup
  spent : ∀ generation ∈ clock.claimed, generation ≤ clock.alarm.issued ∧ clock.alarm.holds generation = false
  woken : ∀ waking ∈ clock.wakings, 0 < waking.generation ∧ waking.generation ≤ clock.alarm.issued

theorem held_latest (counted : clock.Counted) (generation : Nat) (own : clock.alarm.holds generation = true) :
    generation = clock.alarm.issued := by
  unfold Alarm.holds at own
  cases set : clock.alarm.pending with
  | none => simp [set] at own
  | some pending =>
      have same : pending.generation = generation := by simpa [set] using own
      rw [← same, counted.latest pending set]

theorem cancel_counted (counted : clock.Counted) : Counted { clock with alarm := clock.alarm.cancel } := by
  have issued := clock.alarm.cancel_issued
  have unset := clock.alarm.cancel_pending
  refine ⟨?_, ?_, counted.once, ?_, ?_⟩
  · intro pending set
    cases unset.symm.trans set
  · intro sleeper member
    rw [issued]
    refine counted.asleep sleeper ?_
    unfold Alarm.cancel at member
    cases set : clock.alarm.pending with
    | none => simpa [set] using member
    | some pending =>
        simp only [set, List.mem_filter] at member
        exact member.1
  · intro generation member
    rw [issued]
    exact ⟨(counted.spent generation member).1, by simp [Alarm.holds, unset]⟩
  · rw [issued]
    exact counted.woken

theorem arm_counted (counted : clock.Counted) (reference target : Instant) :
    Counted { clock with alarm := clock.alarm.arm clock.elapsed reference target } := by
  have cancelled := cancel_counted counted
  refine ⟨?_, ?_, counted.once, ?_, ?_⟩
  · intro pending set
    cases set
    rfl
  · intro sleeper member
    rcases List.mem_append.mp member with before | new
    · have known := cancelled.asleep sleeper before
      rw [clock.alarm.cancel_issued] at known
      exact ⟨known.1, Nat.le_succ_of_le known.2⟩
    · cases List.mem_singleton.mp new
      exact ⟨Nat.succ_pos _, Nat.le_refl _⟩
  · intro generation member
    have known := (counted.spent generation member).1
    refine ⟨Nat.le_succ_of_le known, ?_⟩
    change (clock.alarm.issued + 1 == generation) = false
    exact beq_false_of_ne (by omega)
  · intro waking member
    have known := counted.woken waking member
    exact ⟨known.1, Nat.le_succ_of_le known.2⟩

theorem claim_counted (counted : clock.Counted) (generation : Nat) :
    (clock.perform (.claim generation)).Counted := by
  cases own : clock.alarm.holds generation with
  | false =>
      rw [perform, clock.alarm.claim_unheld generation own, own]
      exact counted
  | true =>
      have claimed := clock.alarm.claim_own generation own
      rw [perform, claimed, own, if_pos rfl]
      have fresh : generation ∉ clock.claimed := by
        intro member
        have held := (counted.spent generation member).2
        rw [own] at held
        cases held
      have known : generation ≤ clock.alarm.issued := by
        exact Nat.le_of_eq (held_latest counted generation own)
      refine ⟨?_, counted.asleep, List.nodup_cons.mpr ⟨fresh, counted.once⟩, ?_, counted.woken⟩
      · intro pending set
        cases set
      · intro other member
        refine ⟨?_, rfl⟩
        rcases List.mem_cons.mp member with same | before
        · rw [same]
          exact known
        · exact (counted.spent other before).1

theorem perform_counted (counted : clock.Counted) (op : AlarmOp) : (clock.perform op).Counted := by
  cases op with
  | arm reference target => exact arm_counted counted reference target
  | cancel => exact cancel_counted counted
  | claim generation => exact claim_counted counted generation
  | pass millis => exact ⟨counted.latest, counted.asleep, counted.once, counted.spent, counted.woken⟩

theorem ring_counted (counted : clock.Counted) (since : Nat) : (clock.ring since).Counted := by
  refine ⟨?_, ?_, counted.once, ?_, ?_⟩
  · rw [ring_alarm]
    exact counted.latest
  · rw [ring_alarm]
    exact fun sleeper member => counted.asleep sleeper (List.mem_filter.mp member).1
  · rw [ring_alarm]
    exact counted.spent
  · intro waking member
    rw [ring_alarm]
    rcases List.mem_append.mp ((ring_wakings since clock).mem_iff.mp member) with new | before
    · obtain ⟨sleeper, ended, rfl⟩ := List.mem_map.mp new
      exact counted.asleep sleeper (List.mem_filter.mp ended).1
    · exact counted.woken waking before

theorem after_append (bound : Option Nat) (ops : List AlarmOp) (op : AlarmOp) :
    after bound (ops ++ [op]) = (after bound ops).step op := by
  simp only [after, List.foldl_append, List.foldl_cons, List.foldl_nil]

theorem after_counted (bound : Option Nat) (ops : List AlarmOp) : (after bound ops).Counted := by
  induction ops using List.reverseRecOn with
  | nil =>
      refine ⟨?_, ?_, .nil, ?_, ?_⟩
      · intro pending set
        cases set
      all_goals
        intro _ member
        cases member
  | append_singleton ops op ih =>
      rw [after_append]
      exact ring_counted (perform_counted ih op) _

theorem after_asleep (bound : Option Nat) (ops : List AlarmOp) (sleeper : Sleeper)
    (member : sleeper ∈ (after bound ops).alarm.sleepers) : (after bound ops).elapsed < sleeper.due := by
  induction ops using List.reverseRecOn with
  | nil => cases member
  | append_singleton ops op =>
      rw [after_append] at member ⊢
      exact ring_asleep (after bound ops).elapsed ((after bound ops).perform op) sleeper member

theorem perform_issued (clock : AlarmClock) (op : AlarmOp) :
    (clock.perform op).alarm.issued = clock.alarm.issued + if op.isArm then 1 else 0 := by
  cases op with
  | arm reference target => rfl
  | cancel => exact clock.alarm.cancel_issued
  | claim generation => exact clock.alarm.claim_issued generation
  | pass millis => rfl

theorem perform_bound (clock : AlarmClock) (op : AlarmOp) : (clock.perform op).alarm.bound = clock.alarm.bound := by
  cases op with
  | arm reference target => rfl
  | cancel => exact clock.alarm.cancel_bound
  | claim generation =>
      change (clock.alarm.claim generation).bound = _
      unfold Alarm.claim
      cases clock.alarm.holds generation <;> rfl
  | pass millis => rfl

theorem perform_later (clock : AlarmClock) (op : AlarmOp) : clock.elapsed ≤ (clock.perform op).elapsed := by
  cases op with
  | arm reference target | cancel | claim generation => exact Nat.le_refl _
  | pass millis => exact Nat.le_add_right _ _

theorem perform_wakings (clock : AlarmClock) (op : AlarmOp) : (clock.perform op).wakings = clock.wakings := by
  cases op <;> rfl

-- A wake-up that is given up takes its sleeper along; one that was claimed before leaves it.
theorem perform_sleepers_of (clock : AlarmClock) (op : AlarmOp) (generation : Nat)
    (known : generation ≤ clock.alarm.issued) : (clock.perform op).sleepersOf generation =
      if op.drops && clock.alarm.holds generation then [] else clock.sleepersOf generation := by
  cases op with
  | arm reference target =>
      have new : ¬clock.alarm.issued + 1 = generation := by omega
      change List.filter _ (clock.alarm.cancel.sleepers ++ [_]) = _
      rw [List.filter_append, clock.alarm.cancel_sleepers]
      simp [AlarmOp.drops, sleepersOf, new]
  | cancel =>
      change List.filter _ clock.alarm.cancel.sleepers = _
      rw [clock.alarm.cancel_sleepers]
      rfl
  | claim other =>
      change List.filter _ (clock.alarm.claim other).sleepers = _
      rw [clock.alarm.claim_sleepers]
      rfl
  | pass millis => rfl

inductive Fares (generation due : Nat) (clock : AlarmClock) : Bool → Prop where
  | asleep (sleeps : clock.sleepersOf generation = [⟨generation, due⟩]) (silent : clock.wakingsOf generation = [])
      (early : clock.elapsed < due) : Fares generation due clock false
  | ended (gone : clock.sleepersOf generation = []) (woken : clock.wakingsOf generation = [⟨generation, due⟩])
      (past : due ≤ clock.elapsed) : Fares generation due clock false
  | cut (gone : clock.sleepersOf generation = []) (silent : clock.wakingsOf generation = []) :
      Fares generation due clock true

variable {generation due : Nat} {isCut : Bool}

theorem ring_sleeping (since : Nat) (early : since ≤ due) (sleeps : clock.sleepersOf generation = [⟨generation, due⟩])
    (silent : clock.wakingsOf generation = []) : (clock.ring since).Fares generation due false := by
  have left := ring_sleepers_of since generation clock
  have rung := ring_wakings_of since generation clock
  rw [sleeps] at left rung
  rw [silent, List.append_nil] at rung
  by_cases past : due ≤ clock.elapsed
  · refine .ended ?_ ?_ past
    · simpa [past] using left
    · simpa [past, Nat.max_eq_right early] using rung
  · refine .asleep ?_ ?_ (Nat.lt_of_not_le past)
    · simpa [Nat.lt_of_not_le past] using left
    · simpa [past] using rung

theorem ring_gone (since : Nat) (gone : clock.sleepersOf generation = []) :
    (clock.ring since).sleepersOf generation = [] ∧
      ((clock.ring since).wakingsOf generation).Perm (clock.wakingsOf generation) := by
  have left := ring_sleepers_of since generation clock
  have rung := ring_wakings_of since generation clock
  rw [gone] at left rung
  exact ⟨left, rung⟩

theorem step_fares (known : generation ≤ clock.alarm.issued) (fares : clock.Fares generation due isCut)
    (op : AlarmOp) : (clock.step op).Fares generation due
      (isCut || (op.drops && clock.alarm.holds generation && decide (clock.elapsed < due))) := by
  have sleepers := clock.perform_sleepers_of op generation known
  have wakings : (clock.perform op).wakingsOf generation = clock.wakingsOf generation := by
    rw [wakingsOf, perform_wakings, wakingsOf]
  rw [step]
  cases fares with
  | asleep sleeps silent early =>
      rw [silent] at wakings
      rw [sleeps] at sleepers
      cases dropped : op.drops && clock.alarm.holds generation with
      | true =>
          rw [dropped, if_pos rfl] at sleepers
          obtain ⟨gone, rung⟩ := ring_gone clock.elapsed sleepers
          rw [wakings, List.perm_nil] at rung
          simpa [early] using Fares.cut gone rung
      | false =>
          rw [dropped, if_neg Bool.false_ne_true] at sleepers
          exact ring_sleeping clock.elapsed (Nat.le_of_lt early) sleepers wakings
  | ended gone woken past =>
      rw [gone, ite_self] at sleepers
      obtain ⟨gone, rung⟩ := ring_gone clock.elapsed sleepers
      rw [wakings, woken, List.perm_singleton] at rung
      simpa [Nat.not_lt_of_le past] using Fares.ended gone rung (Nat.le_trans past (clock.perform_later op))
  | cut gone silent =>
      rw [gone, ite_self] at sleepers
      obtain ⟨gone, rung⟩ := ring_gone clock.elapsed sleepers
      rw [wakings, silent, List.perm_nil] at rung
      exact .cut gone rung

theorem arm_fares (counted : clock.Counted) (reference target : Instant) :
    (clock.step (.arm reference target)).Fares (clock.alarm.issued + 1)
      (Alarm.dueAfter clock.elapsed (clock.alarm.delay (reference.wait target))) false := by
  have unused : clock.sleepersOf (clock.alarm.issued + 1) = [] := by
    rw [sleepersOf, List.filter_eq_nil_iff]
    intro sleeper member own
    have known := (counted.asleep sleeper member).2
    have same := of_decide_eq_true own
    omega
  have silent : clock.wakingsOf (clock.alarm.issued + 1) = [] := by
    rw [wakingsOf, List.filter_eq_nil_iff]
    intro waking member own
    have known := (counted.woken waking member).2
    have same := of_decide_eq_true own
    omega
  refine ring_sleeping clock.elapsed ?_ ?_ silent
  · exact Nat.le_add_right _ _
  · change List.filter _ (clock.alarm.cancel.sleepers ++ [_]) = _
    rw [List.filter_append, clock.alarm.cancel_sleepers]
    change (if _ then [] else clock.sleepersOf (clock.alarm.issued + 1)) ++ _ = _
    rw [unused, ite_self]
    simp

def CutShort (bound : Option Nat) (before : List AlarmOp) (generation due : Nat) (since : List AlarmOp) : Prop :=
  ∃ earlier op later, since = earlier ++ op :: later ∧ op.drops = true ∧
    (after bound (before ++ earlier)).alarm.holds generation = true ∧ (after bound (before ++ earlier)).elapsed < due

theorem cut_short_append (bound : Option Nat) (before since : List AlarmOp) (op : AlarmOp) :
    CutShort bound before generation due (since ++ [op]) ↔ CutShort bound before generation due since ∨
      op.drops = true ∧ (after bound (before ++ since)).alarm.holds generation = true ∧
        (after bound (before ++ since)).elapsed < due := by
  constructor
  · rintro ⟨earlier, cutter, later, split, dropped⟩
    cases later using List.reverseRecOn with
    | nil =>
        obtain ⟨rfl, rfl⟩ := List.append_singleton_inj.mp split
        exact .inr dropped
    | append_singleton later last =>
        rw [← List.cons_append, ← List.append_assoc] at split
        obtain ⟨rfl, rfl⟩ := List.append_singleton_inj.mp split
        exact .inl ⟨earlier, cutter, later, rfl, dropped⟩
  · rintro (⟨earlier, cutter, later, rfl, dropped⟩ | dropped)
    · exact ⟨earlier, cutter, later ++ [op], by simp, dropped⟩
    · exact ⟨since, op, [], rfl, dropped⟩

theorem after_issued (bound : Option Nat) (ops : List AlarmOp) :
    (after bound ops).alarm.issued = ops.countP AlarmOp.isArm := by
  induction ops using List.reverseRecOn with
  | nil => rfl
  | append_singleton ops op ih =>
      rw [after_append, step, ring_alarm, List.countP_append, List.countP_singleton]
      change ((after bound ops).perform op).alarm.issued = _
      rw [perform_issued, ih]

theorem after_bound (bound : Option Nat) (ops : List AlarmOp) : (after bound ops).alarm.bound = bound := by
  induction ops using List.reverseRecOn with
  | nil => rfl
  | append_singleton ops op ih =>
      rw [after_append, step, ring_alarm]
      change ((after bound ops).perform op).alarm.bound = _
      rw [perform_bound, ih]

theorem since_fares (bound : Option Nat) (before : List AlarmOp) (reference target : Instant) (since : List AlarmOp) :
    ∃ isCut, (after bound (before ++ [.arm reference target] ++ since)).Fares (before.countP AlarmOp.isArm + 1)
        (Alarm.dueAfter (after bound before).elapsed ((after bound before).alarm.delay (reference.wait target))) isCut ∧
      (isCut = true ↔ CutShort bound (before ++ [.arm reference target]) (before.countP AlarmOp.isArm + 1)
        (Alarm.dueAfter (after bound before).elapsed ((after bound before).alarm.delay (reference.wait target))) since) := by
  induction since using List.reverseRecOn with
  | nil =>
      have fares := arm_fares (after_counted bound before) reference target
      rw [after_issued] at fares
      refine ⟨false, ?_, ?_⟩
      · rw [List.append_nil, after_append]
        exact fares
      · simp [CutShort]
  | append_singleton since op ih =>
      obtain ⟨isCut, fares, cut⟩ := ih
      have known : before.countP AlarmOp.isArm + 1 ≤
          (after bound (before ++ [.arm reference target] ++ since)).alarm.issued := by
        rw [after_issued, List.countP_append, List.countP_append]
        exact Nat.le_add_right _ _
      have next := step_fares known fares op
      rw [← after_append, List.append_assoc] at next
      refine ⟨_, next, ?_⟩
      rw [cut_short_append, ← cut]
      simp [and_assoc]

theorem step_claimed (clock : AlarmClock) (op : AlarmOp) :
    clock.claimed.length ≤ (clock.step op).claimed.length := by
  cases op with
  | arm reference target | cancel | pass millis => exact Nat.le_refl _
  | claim generation =>
      change clock.claimed.length ≤ (if clock.alarm.holds generation then _ else _ : List Nat).length
      cases clock.alarm.holds generation with
      | false => exact Nat.le_refl _
      | true => exact Nat.le_succ _

theorem step_target (clock : AlarmClock) (op : AlarmOp) (unarmed : op.isArm = false) :
    (clock.step op).alarm.target? =
      if op = .cancel ∨ clock.claimed.length < (clock.step op).claimed.length then none else clock.alarm.target? := by
  rw [step, ring_alarm]
  cases op with
  | arm reference target => cases unarmed
  | cancel => exact clock.alarm.cancel_target
  | pass millis => simp [ring, perform, Alarm.target?]
  | claim generation =>
      cases own : clock.alarm.holds generation with
      | false => simp [ring, perform, own, clock.alarm.claim_unheld generation own, Alarm.target?]
      | true => simp [ring, perform, own, clock.alarm.claim_own generation own, Alarm.target?]

theorem unarmed_target (bound : Option Nat) (ops : List AlarmOp) (unarmed : ∀ op ∈ ops, op.isArm = false) :
    (after bound ops).alarm.target? = none := by
  induction ops using List.reverseRecOn with
  | nil => rfl
  | append_singleton ops op ih =>
      have earlier := ih fun other member => unarmed other (List.mem_append_left _ member)
      rw [after_append, step_target _ op (unarmed op (by simp)), earlier, ite_self]

theorem since_target (bound : Option Nat) (before : List AlarmOp) (reference target : Instant) (since : List AlarmOp)
    (unarmed : ∀ op ∈ since, op.isArm = false) :
    let armed := after bound (before ++ [.arm reference target])
    let clock := after bound (before ++ [.arm reference target] ++ since)
    armed.claimed.length ≤ clock.claimed.length ∧ clock.alarm.target? =
      if .cancel ∈ since ∨ armed.claimed.length < clock.claimed.length then none else some target := by
  intro armed clock
  induction since using List.reverseRecOn with
  | nil =>
      have same : clock = armed := by simp only [clock, armed, List.append_nil]
      have set : armed.alarm.target? = some target := by
        simp only [armed, after_append, step, ring_alarm]
        rfl
      simp [same, set]
  | append_singleton since op ih =>
      let former := after bound (before ++ [.arm reference target] ++ since)
      obtain ⟨grown, earlier⟩ : armed.claimed.length ≤ former.claimed.length ∧ former.alarm.target? =
          if .cancel ∈ since ∨ armed.claimed.length < former.claimed.length then none else some target :=
        ih fun other member => unarmed other (List.mem_append_left _ member)
      have latest : clock = former.step op := by
        simp only [clock, former, ← after_append, List.append_assoc]
      have grows : former.claimed.length ≤ clock.claimed.length := by
        rw [latest]
        exact step_claimed former op
      have moved := step_target former op (unarmed op (by simp))
      rw [← latest, earlier] at moved
      refine ⟨Nat.le_trans grown grows, moved.trans ?_⟩
      by_cases cleared : op = .cancel ∨ former.claimed.length < clock.claimed.length
      · have clears : .cancel ∈ since ++ [op] ∨ armed.claimed.length < clock.claimed.length := by
          rcases cleared with cancels | claims
          · exact .inl (by simp [cancels])
          · exact .inr (Nat.lt_of_le_of_lt grown claims)
        rw [if_pos cleared, if_pos clears]
      · have other : ¬op = .cancel := fun cancels => cleared (.inl cancels)
        have same : former.claimed.length = clock.claimed.length :=
          Nat.le_antisymm grows (Nat.le_of_not_lt fun claims => cleared (.inr claims))
        rw [if_neg cleared, ← same]
        simp only [List.mem_append, List.mem_singleton, Ne.symm other, or_false]

theorem due_least (moment nanos : Nat) :
    IsLeast {n : Nat | moment * nanosPerMilli + nanos ≤ n * nanosPerMilli} (Alarm.dueAfter moment nanos) := by
  simp only [IsLeast, lowerBounds, Set.mem_ofPred_eq, Alarm.dueAfter, nanosPerMilli]
  refine ⟨by omega, fun n reached => ?_⟩
  omega

theorem held_iff (counted : clock.Counted) (generation : Nat) : clock.alarm.holds generation = true ↔
    generation = clock.alarm.issued ∧ clock.alarm.target?.isSome = true := by
  constructor
  · intro own
    refine ⟨held_latest counted generation own, ?_⟩
    rw [Alarm.target?, Option.isSome_map]
    exact clock.alarm.holds_set generation own
  · rintro ⟨rfl, set⟩
    rw [Alarm.target?, Option.isSome_map] at set
    obtain ⟨pending, found⟩ := Option.isSome_iff_exists.mp set
    rw [Alarm.holds, found, Option.any_some, counted.latest pending found, beq_self_eq_true]

-- Sleepers end in any case once their wake-up was claimed, so a later cancellation has no effect on them.
theorem wakeups_keep_time (bound : Option Nat) (ops : List AlarmOp) (plain : ∀ op ∈ ops, op.isPlain = true) :
    let clock := after bound ops
    clock.alarm.issued = ops.countP AlarmOp.isArm ∧
    (∀ generation, clock.alarm.holds generation = true ↔
      generation = clock.alarm.issued ∧ clock.alarm.target?.isSome = true) ∧
    (∀ generation, (clock.step (.claim generation)).claimed =
      if clock.alarm.holds generation then generation :: clock.claimed else clock.claimed) ∧
    (∀ generation, clock.alarm.holds generation = false → clock.step (.claim generation) = clock) ∧
    clock.claimed.Nodup ∧
    ((∀ op ∈ ops, op.isArm = false) → clock.alarm.target? = none) ∧
    (∀ waking ∈ clock.wakings, 0 < waking.generation ∧ waking.generation ≤ clock.alarm.issued) ∧
    ∀ before reference target since, ops = before ++ .arm reference target :: since →
      let armed := after bound (before ++ [.arm reference target])
      let generation := before.countP AlarmOp.isArm + 1
      let span := (max 0 (target.count - reference.count)).toNat
      armed.alarm.pending = some ⟨generation, target⟩ ∧
      ((∀ op ∈ since, op.isArm = false) → clock.alarm.target? =
        if .cancel ∈ since ∨ armed.claimed.length < clock.claimed.length then none else some target) ∧
      ∃ due, IsLeast {n : Nat | (after bound before).elapsed * nanosPerMilli + bound.elim span (min span) ≤
          n * nanosPerMilli} due ∧
        (CutShort bound (before ++ [.arm reference target]) generation due since →
          clock.wakingsOf generation = []) ∧
        (¬CutShort bound (before ++ [.arm reference target]) generation due since →
          clock.wakingsOf generation = if due ≤ clock.elapsed then [⟨generation, due⟩] else []) := by
  intro clock
  have counted := after_counted bound ops
  refine ⟨after_issued bound ops, held_iff counted, fun generation => rfl, ?_, counted.once, unarmed_target bound ops,
    counted.woken, ?_⟩
  · intro generation other
    have same : clock.perform (.claim generation) = clock := by
      rw [perform, clock.alarm.claim_unheld generation other, other]
      rfl
    rw [step, same]
    exact ring_nobody _ clock (after_asleep bound ops)
  · intro before reference target since split armed generation span
    rw [List.append_cons] at split
    have whole : clock = after bound (before ++ [.arm reference target] ++ since) := by
      simp only [clock, split]
    have waits : (after bound before).alarm.delay (reference.wait target) = bound.elim span (min span) := by
      have arm := plain (.arm reference target) (by simp [split])
      simp only [AlarmOp.isPlain, Bool.and_eq_true, Bool.not_eq_true'] at arm
      have wait := Instant.wait_plain reference target arm.1 arm.2
      have nanos : reference.wait target = span := by
        simp only [span]
        omega
      rw [Alarm.delay, after_bound, nanos]
    refine ⟨?_, ?_, Alarm.dueAfter (after bound before).elapsed (bound.elim span (min span)), due_least _ _, ?_⟩
    · simp only [armed, after_append, step, ring_alarm, generation, ← after_issued bound before]
      rfl
    · intro unarmed
      rw [whole]
      exact (since_target bound before reference target since unarmed).2
    · obtain ⟨isCut, fares, cut⟩ := since_fares bound before reference target since
      rw [waits, ← whole] at fares
      rw [waits] at cut
      constructor
      · intro short
        rw [cut.mpr short] at fares
        cases fares with
        | cut gone silent => exact silent
      · intro whole
        have uncut : isCut = false := Bool.eq_false_iff.mpr fun short => whole (cut.mp short)
        rw [uncut] at fares
        cases fares with
        | asleep sleeps silent early => rw [silent, if_neg (Nat.not_le_of_lt early)]
        | ended gone woken past => rw [woken, if_pos past]

def restless : List AlarmOp :=
  [.arm (Board.minute 600) (Board.minute 601), .pass 30000, .claim 1, .arm (Board.minute 601) (Board.minute 602),
    .cancel, .pass 90000]

theorem wakeups_keep_time_when_restless :
    (∀ op ∈ restless, op.isPlain = true) ∧
      (∀ generation, (after none restless).alarm.holds generation = true ↔
        generation = 2 ∧ (after none restless).alarm.target?.isSome = true) ∧
      (after none restless).wakingsOf 1 = [⟨1, 60000⟩] ∧ (after none restless).wakingsOf 2 = [] := by
  have plain : ∀ op ∈ restless, op.isPlain = true := by decide +kernel
  obtain ⟨_, held, _, _, _, _, _, each⟩ := wakeups_keep_time none restless plain
  obtain ⟨_, _, due, least, cut, whole⟩ := each [] (Board.minute 600) (Board.minute 601)
    [.pass 30000, .claim 1, .arm (Board.minute 601) (Board.minute 602), .cancel, .pass 90000] rfl
  obtain ⟨_, _, later, reached, spare, _⟩ := each [.arm (Board.minute 600) (Board.minute 601), .pass 30000, .claim 1]
    (Board.minute 601) (Board.minute 602) [.cancel, .pass 90000] rfl
  refine ⟨plain, held, ?_, ?_⟩
  · have ended : (after none restless).wakingsOf 1 ≠ [] := by decide +kernel
    have same : due = 60000 := IsLeast.unique least (due_least 0 60000000000)
    rw [same] at cut whole
    exact whole fun short => ended (cut short)
  · have same : later = 90000 := IsLeast.unique reached (due_least 30000 60000000000)
    rw [same] at spare
    exact spare ⟨[], .cancel, [.pass 90000], rfl, rfl, by decide +kernel, by decide +kernel⟩

end AlarmClock

end NowNext
