import NowNext.Proofs.Board.Remaining
import NowNext.Proofs.Keeper.Afresh
import NowNext.Proofs.Keeper.Runs

set_option autoImplicit false

namespace NowNext

namespace Standing

variable {C : Type} [Calendar C] {world : Surroundings C} {before after : Standing C}

def Awaiting (standing : Standing C) : Prop := standing.alarm.pending.isSome = true →
  ∃ reference, Board.nextBoundary standing.calendar reference = .ok standing.alarm.target?

omit [Calendar C] in
theorem cancelled_unset {alarm : Alarm} (set : alarm.cancel.pending.isSome = true) : False := by
  rw [alarm.cancel_pending] at set
  cases set

theorem cycled_armed (cycled : Cycled world before after) (set : after.alarm.pending.isSome = true) :
    Board.nextBoundary after.calendar world.reference = .ok after.alarm.target? := by
  cases cycled with
  | missing | offline | broken | blank | contradicted => exact (cancelled_unset set).elim
  | shown feed filter board next connected online selected resolved boundary =>
      rw [Alarm.follow_target]
      exact boundary

theorem cycled_holds (cycled : Cycled world before after) {calendar : C} (held : before.calendar = some calendar) :
    after.calendar = some calendar := by
  cases cycled with
  | missing | offline | broken => exact held
  | blank | shown | contradicted =>
      change before.calendar.or _ = _
      rw [held, Option.some_or]

theorem handled_awaiting (handled : Handled world before after) (awaiting : before.Awaiting) : after.Awaiting := by
  cases handled with
  | ignored | unknown => exact awaiting
  | misconfigured | waiting | disposed => exact fun set => (cancelled_unset set).elim
  | cycled phase status calendar after source cycled => exact fun set => ⟨world.reference, cycled_armed cycled set⟩

theorem awaiting_lasting (settings : Settings) (isAttached : Bool) :
    Keeper.Lasting settings isAttached fun keeper : Keeper C => keeper.standing.Awaiting := by
  constructor
  · intro world keeper trigger _ _ awaiting
    rcases keeper.handle_either world trigger with handled | cycled
    · exact handled_awaiting handled awaiting
    · exact fun set => ⟨world.reference, cycled_armed cycled set⟩
  · intro keeper sleepers _ awaiting
    exact awaiting

end Standing

namespace Keeper

-- Wake-ups one after the other, with their targets, whoever sleeps besides. Each comes when the reference
-- instant has got there.
inductive Wakes : Keeper Agenda → List Instant → Prop where
  | rest (keeper : Keeper Agenda) : Wakes keeper []
  | wake (world : Surroundings Agenda) (keeper : Keeper Agenda) (sleepers : List Sleeper) (generation : Nat)
      (target : Instant) (targets : List Instant) : keeper.alarm.holds generation = true →
      keeper.alarm.target? = some target → target ≤ world.reference →
      Wakes (Keeper.wake world generation { keeper with alarm.sleepers := sleepers }) targets →
      Wakes keeper (target :: targets)

variable {keeper : Keeper Agenda} {agenda : Agenda} {targets : List Instant}

theorem wake_rearms (world : Surroundings Agenda) (sleepers : List Sleeper) (generation : Nat)
    (alive : keeper.phase ≠ .disposed) (own : keeper.alarm.holds generation = true)
    (held : keeper.calendar = some agenda) :
    let awake := Keeper.wake world generation { keeper with alarm.sleepers := sleepers }
    awake.phase ≠ .disposed ∧ awake.calendar = some agenda ∧ (awake.alarm.pending.isSome = true →
      Board.nextBoundary (some agenda) world.reference = .ok awake.alarm.target?) := by
  intro awake
  have cycled := wake_standing world { keeper with alarm.sleepers := sleepers } generation alive own
  have calendar : awake.calendar = some agenda := Standing.cycled_holds cycled held
  refine ⟨?_, calendar, fun set => ?_⟩
  · intro disposed
    have listens : awake.phase.listens = true := Standing.cycled_listens cycled
    rw [disposed] at listens
    cases listens
  · rw [← calendar]
    exact Standing.cycled_armed cycled set

-- What remains of the boundaries pays for the wake-ups.
theorem wakes_spend (wakes : keeper.Wakes targets) (reference : Instant) (alive : keeper.phase ≠ .disposed)
    (held : keeper.calendar = some agenda) (armed : keeper.alarm.pending.isSome = true →
      Board.nextBoundary (some agenda) reference = .ok keeper.alarm.target?) :
    (∀ w ∈ targets, reference < w ∧ w ∈ Board.bounds agenda.events) ∧ targets.Pairwise (· < ·) ∧
      targets.length ≤ Board.remaining agenda reference := by
  induction wakes generalizing reference with
  | rest keeper => simp
  | wake world keeper sleepers generation target targets own set reached _ ih =>
      have boundary := armed (keeper.alarm.holds_set generation own)
      rw [set] at boundary
      obtain ⟨living, calendar, rearmed⟩ := wake_rearms world sleepers generation alive own held
      obtain ⟨listed, increasing, short⟩ := ih world.reference living calendar rearmed
      have later := Board.boundary_later target boundary
      have fewer := Board.remaining_lt target boundary reached
      refine ⟨?_, List.pairwise_cons.mpr ⟨fun w member => reached.trans_lt (listed w member).1, increasing⟩, ?_⟩
      · intro w member
        rcases List.mem_cons.mp member with same | after
        · rw [same]
          exact ⟨later, Board.boundary_is_bound target boundary⟩
        · exact ⟨(later.trans_le reached).trans (listed w after).1, (listed w after).2⟩
      · rw [List.length_cons]
        omega

theorem wakes_few (wakes : keeper.Wakes targets) (held : keeper.calendar = some agenda)
    (armed : keeper.alarm.pending.isSome = true → keeper.phase ≠ .disposed ∧
      ∃ reference, Board.nextBoundary keeper.calendar reference = .ok keeper.alarm.target?) :
    targets.Pairwise (· < ·) ∧ (∀ w ∈ targets, w ∈ Board.bounds agenda.events) ∧
      targets.length ≤ 2 * agenda.events.length := by
  have all := wakes
  cases wakes with
  | rest => simp
  | wake world _ sleepers generation target targets own =>
      obtain ⟨alive, reference, boundary⟩ := armed (keeper.alarm.holds_set generation own)
      rw [held] at boundary
      obtain ⟨bounded, increasing, short⟩ := wakes_spend all reference alive held fun _ => boundary
      exact ⟨increasing, fun w member => (bounded w member).2, short.trans (Board.remaining_le agenda reference)⟩

theorem reachable_awaiting (reachable : keeper.Reachable) (set : keeper.alarm.pending.isSome = true) :
    keeper.phase ≠ .disposed ∧
      ∃ reference, Board.nextBoundary keeper.calendar reference = .ok keeper.alarm.target? := by
  obtain ⟨settings, publisher, feed, incidents, rfl⟩ := reachable
  refine ⟨?_, ?_⟩
  · intro disposed
    obtain ⟨_, consistent⟩ := Run.through_consistent settings publisher feed incidents
    obtain ⟨ready, _⟩ := Standing.pending_consistent consistent set
    cases ready.symm.trans disposed
  · exact (through_lasting (Standing.awaiting_lasting settings feed.isSome) publisher { feed } rfl
      (fun unset => nomatch unset) incidents).2 set

end Keeper

namespace Run

def Regular (stage : Stage) (bound : Option Nat) (run : Run Agenda) : Prop :=
  ∃ (feed : Option (Feed Agenda)) (ops : List (RunOp Agenda)),
    (∀ agenda, feed.bind (·.calendar) = some agenda → agenda.Plain) ∧ (∀ op ∈ ops, op.Regular) ∧
    run = ({ keeper := { alarm := { bound } }, feed } : Run Agenda).after stage ops

variable {stage : Stage} {filter : Option Filter} {bound : Option Nat}

theorem wakings_wake (plainOpening : stage.opening.isLeap = false) (selected : stage.filter = .ok filter)
    (limit fuel : Nat) (exactly : ∀ moment, moment ≤ limit → stage.isExact moment = true) (run : Run Agenda)
    (kept : run.Kept stage filter bound)
    (through : bound = none ∨ ∀ wake ∈ run.wakings stage limit fuel, wake.before.keeper.SleepsThrough) :
    ∃ targets, (run.wakings stage limit fuel).map (·.before.keeper.alarm.target?) = targets.map some ∧
      run.keeper.Wakes targets := by
  induction fuel generalizing run with
  | zero => exact ⟨[], rfl, .rest _⟩
  | succ fuel ih =>
      cases woken : run.wakeNext? stage limit with
      | none =>
          rw [wakings_rest woken]
          exact ⟨[], rfl, .rest _⟩
      | some awake =>
          rw [wakings_woken woken] at through ⊢
          simp only [List.forall_mem_cons] at through
          obtain ⟨_, _, _, early, _⟩ := wake_next kept limit awake woken
          obtain ⟨_, _, target, _, _, set, _, reached⟩ := wake_reaches plainOpening kept limit awake woken
            (fun moment past => exactly moment (past.trans early)) (through.imp_right And.left)
          obtain ⟨targets, listed, wakes⟩ := ih awake (wake_kept plainOpening selected kept limit awake woken)
            (through.imp_right And.right)
          refine ⟨target :: targets, by simp [set, listed], ?_⟩
          obtain ⟨_, pending, due, found, _, _, _, _, _, _, rfl⟩ := wake_roused kept limit awake woken
          have own : run.keeper.alarm.holds pending.generation = true := by simp [Alarm.holds, found]
          let world : Surroundings Agenda := { run with elapsed := due }.surroundings stage
          have arrived : target ≤ world.reference := reached
          exact .wake world run.keeper [] pending.generation target targets own set arrived wakes

theorem regular_kept (plainOpening : stage.opening.isLeap = false) (selected : stage.filter = .ok filter)
    (possible : bound ≠ some 0) {run : Run Agenda} (regular : run.Regular stage bound) :
    run.Kept stage filter bound := by
  obtain ⟨feed, ops, served, each, rfl⟩ := regular
  exact after_kept plainOpening selected (initial_kept bound possible feed served) ops each

theorem kept_armed {run : Run Agenda} (kept : run.Kept stage filter bound)
    (set : run.keeper.alarm.pending.isSome = true) : run.keeper.phase ≠ .disposed ∧
      ∃ reference, Board.nextBoundary run.keeper.calendar reference = .ok run.keeper.alarm.target? := by
  obtain ⟨ready, moment, _, settled, _⟩ := kept.standing.aligned.live (.inl set)
  refine ⟨fun disposed => ?_, stage.referenceAt moment, settled.armed⟩
  cases ready.symm.trans disposed

end Run

namespace Keeper

-- The boundaries by themselves, and those that a keeper wakes up at whatever happened to it before. It may
-- wake up late, and then it passes some of them over.
theorem wakeups_run_out (events : List Event) (valid : ∀ event ∈ events, event.check = .ok ()) :
    ∃ agenda, Agenda.of? events = .ok agenda ∧
      (∀ t u, t ≤ u → ∃ v w : WithTop Instant, Board.nextBoundary (some agenda) t = .ok v ∧
        Board.nextBoundary (some agenda) u = .ok w ∧ v ≤ w) ∧
      (∀ t, ∃ chain : List Instant,
        (t :: chain).IsChain (fun a b => Board.nextBoundary (some agenda) a = .ok (some b)) ∧
        Board.nextBoundary (some agenda) (chain.getLastD t) = .ok none ∧
        (t :: chain).Pairwise (· < ·) ∧
        (∀ w ∈ chain, ∃ event ∈ events, w = event.start ∨ w = event.finish) ∧
        chain.length ≤ 2 * events.length) ∧
      (∀ (keeper : Keeper Agenda) (targets : List Instant), keeper.Reachable → keeper.calendar = some agenda →
        keeper.Wakes targets → targets.Pairwise (· < ·) ∧
          (∀ w ∈ targets, ∃ event ∈ events, w = event.start ∨ w = event.finish) ∧
          targets.length ≤ 2 * events.length) ∧
      ∀ (stage : Stage) (filter : Option Filter) (bound : Option Nat) (run : Run Agenda) (millis : Nat),
        stage.opening.isLeap = false → stage.filter = .ok filter → bound ≠ some 0 → run.Regular stage bound →
        run.keeper.calendar = some agenda →
        (∀ moment, moment ≤ run.elapsed + millis → stage.isExact moment = true) →
        (bound = none ∨ ∀ wake ∈ run.wakingsIn stage (.advance millis), wake.before.keeper.SleepsThrough) →
        ∃ targets, (run.wakingsIn stage (.advance millis)).map (·.before.keeper.alarm.target?) = targets.map some ∧
          run.keeper.Wakes targets ∧ targets.Pairwise (· < ·) ∧
          (∀ w ∈ targets, ∃ event ∈ events, w = event.start ∨ w = event.finish) ∧
          targets.length ≤ 2 * events.length := by
  obtain ⟨agenda, built⟩ := Agenda.valid_agenda events valid
  have listed := Agenda.agenda_events events agenda built
  have known (w : Instant) (bound : w ∈ Board.bounds agenda.events) :
      ∃ event ∈ events, w = event.start ∨ w = event.finish := by
    obtain ⟨event, member, same⟩ := (Board.bounds_iff agenda.events w).mp bound
    rw [listed, List.mem_mergeSort] at member
    exact ⟨event, member, same⟩
  have size : agenda.events.length = events.length := by rw [listed, List.length_mergeSort]
  refine ⟨agenda, built, fun t u => Board.boundary_monotone, fun t => ?_, ?_, ?_⟩
  · obtain ⟨chain, linked, last, short⟩ := Board.boundaries_end agenda t
    exact ⟨chain, linked, last, Board.chain_increases chain linked,
      fun w member => known w (Board.chain_bounds chain linked w member),
      size ▸ short.trans (Board.remaining_le agenda t)⟩
  · intro keeper targets reachable held wakes
    obtain ⟨increasing, bounded, short⟩ := wakes_few wakes held (reachable_awaiting reachable)
    exact ⟨increasing, fun w member => known w (bounded w member), size ▸ short⟩
  · intro stage filter bound run millis plainOpening selected possible regular held exactly through
    have kept := Run.regular_kept plainOpening selected possible regular
    obtain ⟨targets, same, wakes⟩ := Run.wakings_wake plainOpening selected _ _ exactly run kept through
    obtain ⟨increasing, bounded, short⟩ := wakes_few wakes held (Run.kept_armed kept)
    exact ⟨targets, same, wakes, increasing, fun w member => known w (bounded w member), size ▸ short⟩

def workFeed : Feed Agenda := ⟨.online, some Run.workday⟩

def boundariesOfDay : List Instant := [Board.minute 540, Board.minute 720, Board.minute 900, Board.minute 1020]

def late (n : Nat) : Surroundings Agenda :=
  { settings := {}, publisher := fun _ => none, feed := some workFeed, wall := Board.minute n, elapsed := 0 }

theorem wakeups_run_out_at_work :
    (∀ event ∈ [Board.work, Board.gym, Board.bell], event.check = .ok ()) ∧
      (∃ keeper : Keeper Agenda, keeper.Reachable ∧ keeper.Wakes [Board.minute 540, Board.minute 720] ∧
        ((keeper.wake (late 545) 1).wake (late 1030) 2).alarm.pending = none ∧
        [Board.minute 540, Board.minute 720].Pairwise (· < ·) ∧
        [Board.minute 540, Board.minute 720].length ≤ 2 * 3) ∧
      (Run.office.after Run.morning [.trigger .start]).keeper.Wakes boundariesOfDay ∧
        boundariesOfDay.Pairwise (· < ·) ∧ boundariesOfDay.length ≤ 2 * 3 := by
  refine ⟨by decide, ?_⟩
  obtain ⟨agenda, built, _, _, wakeups, daily⟩ := wakeups_run_out [Board.work, Board.gym, Board.bell] (by decide)
  let opened : List (Incident Agenda) := [⟨Board.minute 530, 0, .trigger .start⟩]
  let keeper := (({ feed := some workFeed } : Run Agenda).through {} (fun _ => none) opened).keeper
  have reachable : keeper.Reachable := ⟨{}, fun _ => none, some workFeed, opened, rfl⟩
  have wakes : keeper.Wakes [Board.minute 540, Board.minute 720] :=
    .wake (late 545) keeper keeper.alarm.sleepers 1 _ _ (by decide +kernel) (by decide +kernel) (by decide +kernel)
      (.wake (late 1030) _ [] 2 _ _ (by decide +kernel) (by decide +kernel) (by decide +kernel) (.rest _))
  have same : Run.workday = agenda := by
    have listed := Agenda.agenda_events _ agenda built
    rw [List.mergeSort_of_pairwise (by decide)] at listed
    cases agenda
    cases listed
    rfl
  have held : keeper.calendar = some agenda := by
    rw [← same]
    rfl
  obtain ⟨increasing, _, short⟩ := wakeups keeper _ reachable held wakes
  refine ⟨⟨keeper, reachable, wakes, by decide +kernel, increasing, short⟩, ?_⟩
  have plain : Run.workday.Plain := by
    unfold Agenda.Plain
    decide
  have regular : (Run.office.after Run.morning [.trigger .start]).Regular Run.morning none := by
    refine ⟨some workFeed, [.trigger .start], ?_, by simp [RunOp.Regular], rfl⟩
    intro served found
    cases found
    exact plain
  have serves : (Run.office.after Run.morning [.trigger .start]).keeper.calendar = some agenda := by
    rw [← same]
    rfl
  have exactly : ∀ moment, moment ≤ 43200000 → Run.morning.isExact moment = true :=
    Stage.exact_between (by decide) 43200000 (by decide) (by decide)
  obtain ⟨targets, listed, wakesThen, increasingThen, _, shortThen⟩ := daily Run.morning none none
    (Run.office.after Run.morning [.trigger .start]) 43200000 (by decide) rfl (by decide) regular serves exactly (.inl rfl)
  have told : ((Run.office.after Run.morning [.trigger .start]).wakingsIn Run.morning (.advance 43200000)).map
      (·.before.keeper.alarm.target?) = boundariesOfDay.map some := by decide +kernel
  cases List.map_injective_iff.mpr (Option.some_injective _) (told.symm.trans listed)
  exact ⟨wakesThen, increasingThen, shortThen⟩

end Keeper

end NowNext
