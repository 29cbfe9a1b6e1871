import NowNext.Proofs.Keeper.Fresh
import NowNext.Proofs.Keeper.Histories

set_option autoImplicit false

namespace NowNext

def RunOp.Regular : RunOp Agenda → Prop
  | .trigger (.wake _) | .drop => False
  | .setCalendar calendar => ∀ agenda, calendar = some agenda → agenda.Plain
  | _ => True

def Keeper.SleepsThrough (keeper : Keeper Agenda) : Prop :=
  ∀ reference ∈ keeper.journal.reference?, ∀ target ∈ keeper.alarm.target?,
    keeper.alarm.delay (reference.wait target) = reference.wait target

namespace Run

structure Kept (stage : Stage) (filter : Option Filter) (bound : Option Nat) (run : Run Agenda) : Prop where
  held : run.isDropped = false
  standing : run.keeper.standing.Kept stage filter bound run.elapsed
  served : ∀ agenda, run.feed.bind (·.calendar) = some agenda → agenda.Plain

variable {stage : Stage} {filter : Option Filter} {bound : Option Nat} {run : Run Agenda}

theorem surroundings_same (stage : Stage) (a b : Run Agenda) (feed : a.feed = b.feed)
    (elapsed : a.elapsed = b.elapsed) : a.surroundings stage = b.surroundings stage := by
  simp only [surroundings, wall, feed, elapsed]

theorem wake_roused (kept : run.Kept stage filter bound) (limit : Nat) (awake : Run Agenda)
    (woken : run.wakeNext? stage limit = some awake) :
    ∃ moment pending due, run.keeper.alarm.pending = some pending ∧ moment ≤ run.elapsed ∧
      run.keeper.phase = .ready ∧ run.keeper.standing.Settled filter (stage.referenceAt moment) ∧
      due = Alarm.dueAfter moment (run.keeper.alarm.delay ((stage.referenceAt moment).wait pending.target)) ∧
      run.elapsed < due ∧ due ≤ limit ∧
      awake = { run with
        keeper := Keeper.wake ({ run with elapsed := due }.surroundings stage) pending.generation
          { run.keeper with alarm.sleepers := [] }
        elapsed := due } := by
  obtain ⟨⟨sleeper, rest⟩, ended, rfl⟩ := Option.map_eq_some_iff.mp woken
  have set := run.keeper.alarm.wake_set kept.standing.aligned.tidy limit sleeper rest ended
  obtain ⟨ready, moment, past, settled, timed⟩ := kept.standing.aligned.live (.inl set)
  obtain ⟨pending, found, rfl, asleep, early, generation, length⟩ :=
    run.keeper.alarm.wake_timed limit moment _ timed sleeper rest ended
  have later := kept.standing.rested sleeper asleep
  have reached : max run.elapsed sleeper.due = sleeper.due := by omega
  refine ⟨moment, pending, sleeper.due, found, past, ready, settled, length, later, early, ?_⟩
  simp only [reached]
  let asleep : Run Agenda := { run with keeper := { run.keeper with alarm.sleepers := [] }, elapsed := sleeper.due }
  have held : asleep.isDropped = false := kept.held
  have same : { run with elapsed := sleeper.due }.surroundings stage = asleep.surroundings stage :=
    surroundings_same stage _ asleep rfl rfl
  rw [same, ← generation]
  exact handle_held held _

theorem wake_next (kept : run.Kept stage filter bound) (limit : Nat) (awake : Run Agenda)
    (woken : run.wakeNext? stage limit = some awake) :
    awake.isDropped = false ∧ awake.feed = run.feed ∧ run.elapsed < awake.elapsed ∧ awake.elapsed ≤ limit ∧
      Cycled (awake.surroundings stage)
        { run.keeper.standing with alarm := { run.keeper.alarm with pending := none, sleepers := [] } }
        awake.keeper.standing := by
  obtain ⟨moment, pending, due, found, _, ready, _, _, later, early, rfl⟩ := wake_roused kept limit awake woken
  have alive : run.keeper.phase ≠ .disposed := by
    intro disposed
    cases ready.symm.trans disposed
  have own : ({ run.keeper.alarm with sleepers := [] } : Alarm).holds pending.generation = true := by
    simp [Alarm.holds, found]
  have claimed : ({ run.keeper.alarm with sleepers := [] } : Alarm).claim pending.generation =
      { run.keeper.alarm with pending := none, sleepers := [] } := if_pos own
  have cycled := Keeper.wake_standing ({ run with elapsed := due }.surroundings stage)
    { run.keeper with alarm.sleepers := [] } pending.generation alive own
  change Cycled _ { run.keeper.standing with
    alarm := ({ run.keeper.alarm with sleepers := [] } : Alarm).claim pending.generation } _ at cycled
  rw [claimed] at cycled
  exact ⟨kept.held, rfl, later, early, cycled⟩

theorem set_link_served (link : Link) (run : Run Agenda) :
    (run.setLink link).feed.bind (·.calendar) = run.feed.bind (·.calendar) := by
  cases run with
  | mk keeper feed elapsed isDropped =>
      cases feed with
      | none => rfl
      | some feed =>
          change (feed.setLink link).1.calendar = feed.calendar
          rw [Feed.set_link_feed]

theorem cycled_boards {world : Surroundings Agenda} {before after : Standing Agenda}
    (cycled : Cycled world before after) : after.boards = before.boards ∨ ∃ feed filter board,
      world.feed = some feed ∧ world.filter = .ok filter ∧
      Board.resolve (before.calendar.or feed.calendar) world.reference filter = .ok board ∧
      after.boards = board :: before.boards := by
  cases cycled with
  | missing | offline | broken | blank => exact .inl rfl
  | shown feed filter board next connected online selected resolved =>
      exact .inr ⟨feed, filter, board, connected, selected, resolved, rfl⟩
  | contradicted feed filter board cause connected online selected resolved =>
      exact .inr ⟨feed, filter, board, connected, selected, resolved, rfl⟩

section Selected

variable (plainOpening : stage.opening.isLeap = false) (selected : stage.filter = .ok filter)
include plainOpening selected

theorem handle_kept (kept : run.Kept stage filter bound) (trigger : Trigger)
    (owners : ∀ generation, trigger ≠ .wake generation) :
    (run.handle stage trigger).1.Kept stage filter bound := by
  rw [handle_held kept.held]
  have handled := run.keeper.handle_standing (run.surroundings stage) trigger owners
  exact ⟨kept.held, Standing.handled_kept handled plainOpening selected rfl kept.served kept.standing, kept.served⟩

theorem wake_kept (kept : run.Kept stage filter bound) (limit : Nat) (awake : Run Agenda)
    (woken : run.wakeNext? stage limit = some awake) : awake.Kept stage filter bound := by
  obtain ⟨held, feed, _, _, cycled⟩ := wake_next kept limit awake woken
  have served : ∀ agenda, awake.feed.bind (·.calendar) = some agenda → agenda.Plain := by
    rw [feed]
    exact kept.served
  exact ⟨held, Standing.cycled_kept cycled plainOpening selected rfl served kept.standing.cached rfl
    kept.standing.possible kept.standing.bounded, served⟩

-- Each wake-up moves the time on, so the fuel lasts until nobody is left who ends by the limit.
theorem wake_until_kept (limit fuel : Nat) (run : Run Agenda) (kept : run.Kept stage filter bound)
    (within : run.elapsed ≤ limit) (enough : limit < run.elapsed + fuel) :
    (run.wakeUntil stage limit fuel).Kept stage filter bound ∧ (run.wakeUntil stage limit fuel).elapsed ≤ limit ∧
      ∀ sleeper ∈ (run.wakeUntil stage limit fuel).keeper.alarm.sleepers, limit < sleeper.due := by
  induction fuel generalizing run with
  | zero => omega
  | succ fuel ih =>
      unfold wakeUntil
      cases woken : run.wakeNext? stage limit with
      | none => exact ⟨kept, within, Alarm.wake_none _ limit (Option.map_eq_none_iff.mp woken)⟩
      | some awake =>
          obtain ⟨_, _, later, early, _⟩ := wake_next kept limit awake woken
          exact ih awake (wake_kept plainOpening selected kept limit awake woken) early (by omega)

theorem advance_kept (kept : run.Kept stage filter bound) (millis : Nat) : (run.advance stage millis).Kept stage filter bound := by
  obtain ⟨last, early, quiet⟩ := wake_until_kept plainOpening selected (run.elapsed + millis) (millis + 1) run
    kept (by omega) (by omega)
  have aligned := Standing.aligned_later _ early last.standing.aligned
  exact ⟨last.held, ⟨last.standing.possible, last.standing.bounded, aligned, quiet, last.standing.cached⟩,
    last.served⟩

theorem perform_kept (kept : run.Kept stage filter bound) (op : RunOp Agenda) (regular : op.Regular) :
    (run.perform stage op).1.Kept stage filter bound := by
  cases op with
  | trigger trigger =>
      refine handle_kept plainOpening selected kept trigger ?_
      rintro generation rfl
      exact regular
  | setLink link =>
      refine ⟨kept.held, kept.standing, fun agenda found => kept.served agenda ?_⟩
      rw [← found]
      exact (set_link_served link run).symm
  | setCalendar calendar =>
      refine ⟨kept.held, kept.standing, fun agenda found => regular agenda ?_⟩
      obtain ⟨feed, connected, serves⟩ := Option.bind_eq_some_iff.mp found
      obtain ⟨former, _, rfl⟩ := Option.map_eq_some_iff.mp connected
      exact serves
  | advance millis => exact advance_kept plainOpening selected kept millis
  | drop => exact regular.elim

theorem step_kept (kept : run.Kept stage filter bound) (op : RunOp Agenda) (regular : op.Regular) :
    (run.step stage op).1.Kept stage filter bound :=
  advance_kept plainOpening selected (perform_kept plainOpening selected kept op regular) 0

theorem after_kept (kept : run.Kept stage filter bound) (ops : List (RunOp Agenda)) (regular : ∀ op ∈ ops, op.Regular) :
    (run.after stage ops).Kept stage filter bound := by
  induction ops generalizing run with
  | nil => exact kept
  | cons op rest ih =>
      exact ih (step_kept plainOpening selected kept op (regular op (by simp)))
        fun other member => regular other (by simp [member])

theorem wakings_kept (limit fuel : Nat) (run : Run Agenda) (kept : run.Kept stage filter bound) (wake : Move Agenda)
    (member : wake ∈ run.wakings stage limit fuel) :
    wake.before.Kept stage filter bound ∧ wake.before.wakeNext? stage limit = some wake.after := by
  induction fuel generalizing run with
  | zero => cases member
  | succ fuel ih =>
      cases woken : run.wakeNext? stage limit with
      | none =>
          rw [wakings_rest woken] at member
          cases member
      | some awake =>
          rw [wakings_woken woken] at member
          rcases List.mem_cons.mp member with rfl | later
          · exact ⟨kept, woken⟩
          · exact ih awake (wake_kept plainOpening selected kept limit awake woken) later

theorem wakings_in_kept (op : RunOp Agenda) (run : Run Agenda) (kept : run.Kept stage filter bound)
    (wake : Move Agenda) (member : wake ∈ run.wakingsIn stage op) :
    wake.before.Kept stage filter bound ∧ ∃ limit, wake.before.wakeNext? stage limit = some wake.after := by
  cases op with
  | advance millis =>
      obtain ⟨keptThen, woken⟩ := wakings_kept plainOpening selected _ _ run kept wake member
      exact ⟨keptThen, _, woken⟩
  | trigger | setLink | setCalendar | drop => cases member

theorem wakes_kept (ops : List (RunOp Agenda)) (regular : ∀ op ∈ ops, op.Regular) (run : Run Agenda)
    (kept : run.Kept stage filter bound) (wake : Move Agenda) (member : wake ∈ run.wakes stage ops) :
    wake.before.Kept stage filter bound ∧ ∃ limit, wake.before.wakeNext? stage limit = some wake.after := by
  induction ops generalizing run with
  | nil => cases member
  | cons op rest ih =>
      have performed := perform_kept plainOpening selected kept op (regular op (by simp))
      rcases List.mem_append.mp member with here | later
      · rcases List.mem_append.mp here with during | finishing
        · exact wakings_in_kept plainOpening selected op run kept wake during
        · exact wakings_in_kept plainOpening selected (.advance 0) _ performed wake finishing
      · exact ih (fun other inside => regular other (by simp [inside])) (run.step stage op).1
          (step_kept plainOpening selected kept op (regular op (by simp))) later

end Selected

theorem wake_reaches (plainOpening : stage.opening.isLeap = false) (kept : run.Kept stage filter bound) (limit : Nat)
    (awake : Run Agenda) (woken : run.wakeNext? stage limit = some awake)
    (exactly : ∀ moment, moment ≤ awake.elapsed → stage.isExact moment = true)
    (through : bound = none ∨ run.keeper.SleepsThrough) :
    ∃ moment agenda target, run.keeper.standing.Settled filter (stage.referenceAt moment) ∧
      run.keeper.calendar = some agenda ∧ run.keeper.alarm.target? = some target ∧
      Board.nextBoundary (some agenda) (stage.referenceAt moment) = .ok (some target) ∧
      target ≤ stage.referenceAt awake.elapsed := by
  obtain ⟨moment, pending, due, found, past, _, settled, slept, later, _, rfl⟩ := wake_roused kept limit awake woken
  obtain ⟨agenda, calendar⟩ := Standing.settled_agenda settled
  have boundary := settled.armed
  have target : run.keeper.standing.alarm.target? = some pending.target := by
    change run.keeper.alarm.pending.map _ = _
    rw [found]
    rfl
  rw [calendar, target] at boundary
  have whole : run.keeper.alarm.delay ((stage.referenceAt moment).wait pending.target) =
      (stage.referenceAt moment).wait pending.target := by
    rcases through with endless | through
    · exact run.keeper.alarm.delay_endless (kept.standing.bounded.trans endless) _
    · exact through _ settled.read _ target
  rw [whole] at slept
  have plainTarget := agenda.boundary_plain (kept.standing.cached agenda calendar) _ _ boundary
  have reached := Standing.slept_reaches plainOpening moment due pending.target plainTarget
    (exactly moment (past.trans later.le)) (exactly due le_rfl) slept
  exact ⟨moment, agenda, pending.target, settled, calendar, target, boundary, reached⟩

theorem wake_changes (plainOpening : stage.opening.isLeap = false) (selected : stage.filter = .ok none)
    (kept : run.Kept stage none bound) (limit : Nat) (awake : Run Agenda)
    (woken : run.wakeNext? stage limit = some awake)
    (exactly : ∀ moment, moment ≤ awake.elapsed → stage.isExact moment = true)
    (through : bound = none ∨ run.keeper.SleepsThrough) :
    awake.keeper.journal.boards = run.keeper.journal.boards ∨ ∃ board previous rest,
      run.keeper.journal.boards = previous :: rest ∧
      awake.keeper.journal.boards = board :: previous :: rest ∧ board ≠ previous := by
  obtain ⟨moment, agenda, target, settled, calendar, _, boundary, reached⟩ :=
    wake_reaches plainOpening kept limit awake woken exactly through
  obtain ⟨_, _, _, _, cycled⟩ := wake_next kept limit awake woken
  obtain ⟨previous, resolved, last⟩ := settled.shown
  have held : run.keeper.standing.calendar = some agenda := calendar
  rw [held] at resolved
  have changed := Board.boundary_changes target boundary reached
  rcases cycled_boards cycled with same | ⟨feed, filter, board, connected, unfiltered, current, pushed⟩
  · exact .inl same
  · cases Except.ok.inj (unfiltered.symm.trans selected)
    obtain ⟨rest, listed⟩ := List.head?_eq_some_iff.mp last
    refine .inr ⟨board, previous, rest, listed, ?_, ?_⟩
    · rw [← listed]
      exact pushed
    · rintro rfl
      change Board.resolve (run.keeper.standing.calendar.or feed.calendar) _ none = _ at current
      rw [held, Option.some_or] at current
      exact changed (current.trans resolved.symm)

theorem initial_kept (bound : Option Nat) (possible : bound ≠ some 0) (feed : Option (Feed Agenda))
    (served : ∀ agenda, feed.bind (·.calendar) = some agenda → agenda.Plain) :
    ({ keeper := { alarm := { bound } }, feed } : Run Agenda).Kept stage filter bound := by
  refine ⟨rfl, ⟨possible, rfl, ⟨rfl, ?_⟩, by simp [Keeper.standing], by simp [Keeper.standing]⟩, served⟩
  rintro (set | ⟨ready, _⟩)
  · cases set
  · cases ready

-- However long the sleepers can sleep, the board is the right one after every operation. A wake-up whose
-- sleeper slept until its target hands over another board than the one before, or none.
theorem runs_stay_fresh (settings : Settings) (unfiltered : settings.value = none) (publisher : Publisher)
    (opening : Instant) (plainOpening : opening.isLeap = false) (bound : Option Nat) (possible : bound ≠ some 0)
    (feed : Option (Feed Agenda)) (served : ∀ agenda, feed.bind (·.calendar) = some agenda → agenda.Plain)
    (ops : List (RunOp Agenda)) (regular : ∀ op ∈ ops, op.Regular) :
    let stage : Stage := { settings, publisher, opening }
    let start : Run Agenda := { keeper := { alarm := { bound } }, feed }
    let last := start.after stage ops
    (last.keeper.phase = .ready → last.keeper.status = .online →
      (∃ board, Board.resolve last.keeper.calendar (last.surroundings stage).reference none = .ok board ∧
        last.keeper.journal.boards.head? = some board) ∧
      Board.nextBoundary last.keeper.calendar (last.surroundings stage).reference =
        .ok last.keeper.alarm.target?) ∧
    ∀ wake ∈ start.wakes stage ops, (∀ moment, moment ≤ wake.after.elapsed → stage.isExact moment = true) →
      bound = none ∨ wake.before.keeper.SleepsThrough →
      wake.after.keeper.journal.boards = wake.before.keeper.journal.boards ∨ ∃ board previous rest,
        wake.before.keeper.journal.boards = previous :: rest ∧
        wake.after.keeper.journal.boards = board :: previous :: rest ∧ board ≠ previous := by
  intro stage start last
  have selected : stage.filter = .ok none := by
    change settings.filter = _
    rw [Settings.filter, unfiltered]
  have kept : start.Kept stage none bound := initial_kept bound possible feed served
  constructor
  · intro ready online
    exact Standing.kept_fresh plainOpening (after_kept plainOpening selected kept ops regular).standing
      (.inr ⟨ready, online⟩)
  · intro wake member exactly through
    obtain ⟨keptThen, limit, woken⟩ := wakes_kept plainOpening selected ops regular start kept wake member
    exact wake_changes plainOpening selected keptThen limit wake.after woken exactly through

def workday : Agenda := ⟨[Board.work, Board.gym, Board.bell], by decide, by decide⟩

def morning : Stage := { settings := {}, publisher := fun _ => none, opening := Board.minute 530 }

def office : Run Agenda := { keeper := { alarm := { bound := none } }, feed := some ⟨.online, some workday⟩ }

def firstHour : List (RunOp Agenda) := [.trigger .start, .advance 3600000]

theorem runs_stay_fresh_at_work :
    (∃ board, Board.resolve (office.after morning firstHour).keeper.calendar
        ((office.after morning firstHour).surroundings morning).reference none = .ok board ∧
      (office.after morning firstHour).keeper.journal.boards.head? = some board) ∧
    ∃ wake ∈ office.wakes morning firstHour, wake.after.elapsed = 600000 ∧
      ∃ board previous rest, wake.before.keeper.journal.boards = previous :: rest ∧
        wake.after.keeper.journal.boards = board :: previous :: rest ∧ board ≠ previous := by
  have plain : workday.Plain := by
    unfold Agenda.Plain
    decide
  have served : ∀ agenda, (some ⟨.online, some workday⟩ : Option (Feed Agenda)).bind (·.calendar) = some agenda →
      agenda.Plain := by
    intro agenda found
    cases found
    exact plain
  have regular : ∀ op ∈ firstHour, op.Regular := by simp [firstHour, RunOp.Regular]
  obtain ⟨fresh, changes⟩ := runs_stay_fresh {} rfl (fun _ => none) (Board.minute 530) (by decide) none
    (by decide) (some ⟨.online, some workday⟩) served firstHour regular
  constructor
  · exact (fresh (by decide +kernel) (by decide +kernel)).1
  · have told : (office.wakes morning firstHour).map (fun wake => (wake.before.keeper.journal.boards.length,
        wake.after.keeper.journal.boards.length, wake.after.elapsed)) = [(1, 2, 600000)] := by decide +kernel
    cases woken : office.wakes morning firstHour with
    | nil => simp [woken] at told
    | cons wake rest =>
        simp only [woken, List.map_cons, List.cons.injEq, Prod.mk.injEq] at told
        have member : wake ∈ office.wakes morning firstHour := by simp [woken]
        have exactly : ∀ moment, moment ≤ wake.after.elapsed → morning.isExact moment = true :=
          Stage.exact_between (by decide) wake.after.elapsed (by decide) (by rw [told.1.2.2]; decide)
        refine ⟨wake, by simp, told.1.2.2, ?_⟩
        rcases changes wake member exactly (.inl rfl) with same | changed
        · rw [same, told.1.1] at told
          cases told.1.2.1
        · exact changed

end Run

end NowNext
