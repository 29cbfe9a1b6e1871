import NowNext.Proofs.Keeper.Certified
import NowNext.Proofs.Keeper.Queries

set_option autoImplicit false

namespace NowNext

def Settings.fault? (settings : Settings) (isAttached : Bool) : Option SetupFault :=
  if isAttached then
    match settings.filter with
    | .error cause => some cause
    | .ok _ => none
  else some .missingFeed

def Effect.isWork : Effect → Bool
  | .publish _ | .report .online => true
  | .note notice =>
      match notice with
      | .resolved .. | .armed .. | .statusChanged .online => true
      | _ => false
  | _ => false

inductive Surroundings.Broken {C : Type} (world : Surroundings C) : SetupFault → Prop where
  | missing : world.feed = none → world.Broken .missingFeed
  | filter (feed : Feed C) (cause : SetupFault) : world.feed = some feed → world.filter = .error cause →
      world.Broken cause

structure Outcome.Refuses {C : Type} (outcome : Outcome C) (cause : SetupFault) : Prop where
  fault : outcome.fault = some (.setup cause)
  phase : outcome.keeper.phase = .misconfigured
  status : outcome.keeper.status = .ofFault (.setup cause)

namespace Surroundings

variable {C : Type} {world : Surroundings C} {cause : SetupFault}

theorem broken_settings {settings : Settings} {isAttached : Bool} (broken : settings.fault? isAttached = some cause)
    (selected : world.filter = settings.filter) (attached : world.feed.isSome = isAttached) : world.Broken cause := by
  unfold Settings.fault? at broken
  cases connected : world.feed with
  | none =>
      rw [connected] at attached
      rw [← attached] at broken
      cases broken
      exact .missing connected
  | some feed =>
      rw [connected] at attached
      rw [← attached, ← selected] at broken
      cases filter : world.filter with
      | ok filter =>
          rw [filter] at broken
          cases broken
      | error reason =>
          rw [filter] at broken
          cases broken
          exact .filter feed cause connected filter

variable [Calendar C] (broken : world.Broken cause)
include broken

theorem broken_outlook (calendar : Option C) :
    world.outlook calendar = .error (.misconfigured, .setup cause) ∨
      world.outlook calendar = .error (.waiting, .feed .offline) ∧
        ∃ feed, world.feed = some feed ∧ feed.link ≠ .online := by
  unfold outlook
  cases broken with
  | missing unfed =>
      rw [unfed]
      exact .inl rfl
  | filter feed _ connected failed =>
      rw [connected, failed]
      by_cases online : feed.link = .online
      · exact .inl (if_neg (not_not_intro online))
      · exact .inr ⟨if_pos online, feed, rfl, online⟩

theorem broken_queries (calendar : Option C) : world.queries calendar = [] := by
  unfold queries
  cases broken with
  | missing unfed => rw [unfed]
  | filter feed _ connected failed =>
      rw [connected, failed]
      exact ite_self []

end Surroundings

namespace Keeper

variable {C : Type} {world : Surroundings C} {keeper : Keeper C} {cause : SetupFault}

-- No wake-up was ever set: the alarm is as it was made. All that was done is in the journal.
structure Barren (keeper : Keeper C) : Prop where
  phase : keeper.phase ≠ .ready
  status : keeper.status ≠ .online
  alarm : keeper.alarm = {}
  journal : ∀ effect ∈ keeper.journal, effect.isWork = false

theorem add_idle {journal : Journal} {effect : Effect} (idle : effect.isWork = false)
    (before : ∀ effect ∈ journal, effect.isWork = false) : ∀ earlier ∈ effect :: journal, earlier.isWork = false :=
  List.forall_mem_cons.mpr ⟨idle, before⟩

section Doings

variable (barren : keeper.Barren)
include barren

theorem turn_barren {phase : Phase} (idle : phase ≠ .ready) : { keeper with phase }.Barren :=
  ⟨idle, barren.status, barren.alarm, barren.journal⟩

theorem fetch_barren (calendar : Option C) : { keeper with calendar }.Barren :=
  ⟨barren.phase, barren.status, barren.alarm, barren.journal⟩

theorem note_barren {notice : Notice} (idle : (Effect.note notice).isWork = false) : (keeper.note notice).Barren :=
  ⟨barren.phase, barren.status, barren.alarm, add_idle idle barren.journal⟩

theorem note_fault_barren {notice : Fault → Notice} (fault : Option Fault)
    (idle : ∀ fault, (Effect.note (notice fault)).isWork = false) : (keeper.noteFault notice fault).Barren := by
  cases fault with
  | none => exact barren
  | some fault => exact note_barren barren (idle fault)

theorem note_dangling_barren (world : Surroundings C) : (keeper.noteDangling world).Barren := by
  rcases note_dangling_either world keeper with same | ⟨field, told⟩
  · rw [same]
    exact barren
  · rw [told]
    exact note_barren barren rfl

theorem again_barren : keeper.again.Barren := by
  unfold again
  rcases again_either keeper with same | told
  · rw [same]
    exact barren
  · rw [told]
    exact note_barren barren rfl

theorem set_status_barren (world : Surroundings C) {status : Status} (offline : status ≠ .online) :
    (setStatus world status keeper).Barren := by
  unfold setStatus
  by_cases same : keeper.status = status
  · rw [if_pos same]
    exact barren
  · rw [if_neg same]
    have idle : (Effect.note (.statusChanged status)).isWork = false ∧ (Effect.report status).isWork = false := by
      cases status with
      | online => exact absurd rfl offline
      | unknown | offline => exact ⟨rfl, rfl⟩
    have reported : (({ keeper with status }.note (.statusChanged status)).add (.report status)).Barren :=
      ⟨barren.phase, offline, barren.alarm, add_idle idle.2 (add_idle idle.1 barren.journal)⟩
    exact note_fault_barren reported _ fun _ => rfl

theorem cancel_barren : keeper.cancel = keeper := by
  obtain ⟨phase, status, calendar, alarm, journal⟩ := keeper
  cases barren.alarm
  rfl

theorem abort_barren (world : Surroundings C) {phase : Phase} (idle : phase ≠ .ready) (fault : Fault) :
    (keeper.abort world phase fault).keeper.Barren := by
  unfold abort
  rw [cancel_barren barren]
  exact note_barren (set_status_barren (turn_barren barren idle) world (Status.of_fault_offline fault)) rfl

theorem wait_barren (world : Surroundings C) : (keeper.wait world).Barren := by
  unfold wait
  rw [cancel_barren barren]
  exact set_status_barren (turn_barren barren (by simp)) world (by simp)

theorem dispose_barren : keeper.dispose.Barren := by
  unfold dispose
  by_cases disposed : keeper.phase = .disposed
  · rw [if_pos disposed]
    exact barren
  · rw [if_neg disposed, cancel_barren barren]
    exact note_barren (turn_barren (fetch_barren barren none) (by simp)) rfl

variable [Calendar C] (broken : world.Broken cause)
include broken

theorem cycle_barren : (cycle world keeper).keeper.Barren := by
  rcases Surroundings.broken_outlook broken (world.effective keeper.calendar) with refused | ⟨refused, _⟩
  · rw [cycle_refused refused]
    exact abort_barren barren world (by simp) _
  · rw [cycle_refused refused]
    exact abort_barren barren world (by simp) _

theorem start_barren : (keeper.start world).keeper.Barren := by
  by_cases disposed : keeper.phase = .disposed
  · rw [disposed_start world disposed]
    exact barren
  · rw [start_alive world disposed]
    have again := again_barren barren
    cases broken with
    | missing unfed =>
        rw [unfed]
        exact abort_barren again world (by simp) _
    | filter feed _ connected failed =>
        rw [connected, failed]
        exact abort_barren (note_dangling_barren again world) world (by simp) _

theorem link_barren (link : Link) : (keeper.linkChanged world link).keeper.Barren := by
  unfold linkChanged
  by_cases listens : keeper.phase.listens = true
  · rw [if_pos listens]
    cases link with
    | online => exact cycle_barren barren broken
    | offline => exact wait_barren barren world
    | unknown => exact set_status_barren barren world (by simp)
  · rw [if_neg listens]
    exact note_barren barren rfl

theorem handle_barren (trigger : Trigger) : (keeper.handle world trigger).keeper.Barren := by
  cases trigger with
  | start => exact start_barren barren broken
  | refresh =>
      unfold handle refresh
      by_cases listens : keeper.phase.listens = true
      · simp only [if_pos listens]
        exact cycle_barren barren broken
      · simp only [if_neg listens]
        exact note_barren barren rfl
  | calendarUpdated =>
      unfold handle calendarUpdated
      by_cases listens : keeper.phase.listens = true
      · simp only [if_pos listens]
        exact cycle_barren (fetch_barren barren _) broken
      · simp only [if_neg listens]
        exact note_barren barren rfl
  | linkChanged link => exact link_barren barren broken link
  | dispose => exact dispose_barren barren
  | wake generation =>
      have unheld : keeper.alarm.holds generation = false := by
        rw [barren.alarm]
        rfl
      change (keeper.wake world generation).Barren
      rcases wake_unheld world keeper generation unheld with same | told
      · rw [same]
        exact barren
      · rw [told]
        exact note_barren barren rfl

end Doings

theorem abort_refuses (world : Surroundings C) (keeper : Keeper C) (cause : SetupFault) :
    (keeper.abort world .misconfigured (.setup cause)).Refuses cause := by
  have standing := standing_abort world keeper .misconfigured (.setup cause)
  exact ⟨rfl, congrArg Standing.phase standing, congrArg Standing.status standing⟩

variable [Calendar C] (broken : world.Broken cause)
include broken

theorem broken_asks_nothing (trigger : Trigger) : keeper.queries world trigger = [] := by
  unfold queries
  cases keeper.begun? world trigger with
  | none => rfl
  | some begun => exact Surroundings.broken_queries broken _

theorem start_refuses (alive : keeper.phase ≠ .disposed) : (keeper.start world).Refuses cause := by
  rw [start_alive world alive]
  cases broken with
  | missing unfed =>
      rw [unfed]
      exact abort_refuses world _ _
  | filter feed _ connected failed =>
      rw [connected, failed]
      exact abort_refuses world _ _

theorem cycle_refuses (online : ∀ feed, world.feed = some feed → feed.link = .online) :
    (cycle world keeper).Refuses cause := by
  rcases Surroundings.broken_outlook broken (world.effective keeper.calendar) with
    refused | ⟨_, feed, connected, offline⟩
  · rw [cycle_refused refused]
    exact abort_refuses world keeper cause
  · exact absurd (online feed connected) offline

theorem broken_refuses (trigger : Trigger)
    (asked : trigger = .refresh ∨ trigger = .calendarUpdated ∨ trigger = .linkChanged .online)
    (listens : keeper.phase.listens = true) (online : ∀ feed, world.feed = some feed → feed.link = .online) :
    (keeper.handle world trigger).Refuses cause := by
  rcases asked with rfl | rfl | rfl
  · rw [handle, refresh, if_pos listens]
    exact cycle_refuses broken online
  · rw [handle, calendarUpdated, if_pos listens]
    exact cycle_refuses broken online
  · rw [handle, linkChanged, if_pos listens]
    exact cycle_refuses broken online

end Keeper

namespace Run

variable {C : Type} [answers : Calendar C]

-- Whatever happens, and in whatever order. Of the calendar nothing is asked, so that its answers count for
-- nothing.
theorem broken_never_works (settings : Settings) (publisher : Publisher) (feed : Option (Feed C))
    (cause : SetupFault) (broken : settings.fault? feed.isSome = some cause) :
    (∀ incidents : List (Incident C), (({ feed } : Run C).through settings publisher incidents).keeper.Barren) ∧
    ∀ (world : Surroundings C) (keeper : Keeper C), world.filter = settings.filter →
      world.feed.isSome = feed.isSome →
      (∀ trigger, keeper.queries world trigger = [] ∧
        ∀ other : Calendar C,
          @Keeper.handle C answers world keeper trigger = @Keeper.handle C other world keeper trigger) ∧
      (keeper.phase ≠ .disposed → (keeper.handle world .start).Refuses cause) ∧
      ∀ trigger, trigger = .refresh ∨ trigger = .calendarUpdated ∨ trigger = .linkChanged .online →
        keeper.phase.listens = true → (∀ feed, world.feed = some feed → feed.link = .online) →
        (keeper.handle world trigger).Refuses cause := by
  constructor
  · intro incidents
    have lasting : Keeper.Lasting settings feed.isSome fun keeper : Keeper C => keeper.Barren := by
      constructor
      · intro world keeper trigger selected attached barren
        exact Keeper.handle_barren barren (Surroundings.broken_settings broken selected attached) trigger
      · intro keeper sleepers fewer barren
        rw [barren.alarm] at fewer
        have same : { keeper with alarm.sleepers := sleepers } = keeper := by
          obtain ⟨phase, status, calendar, alarm, journal⟩ := keeper
          cases barren.alarm
          rw [List.subset_nil.mp fewer]
        rw [same]
        exact barren
    have fresh : ({} : Keeper C).Barren := ⟨by simp, by simp, rfl, by simp⟩
    exact (Keeper.through_lasting lasting publisher { feed } rfl fresh incidents).2
  · intro world keeper selected attached
    have stuck := Surroundings.broken_settings broken selected attached
    refine ⟨fun trigger => ?_, Keeper.start_refuses stuck, fun trigger => Keeper.broken_refuses stuck trigger⟩
    have nothing : keeper.queries world trigger = [] := Keeper.broken_asks_nothing stuck trigger
    refine ⟨nothing, fun other => Keeper.handle_local answers other world keeper trigger fun query asked => ?_⟩
    rw [nothing] at asked
    cases asked

theorem broken_never_works_at_vigil :
    let settings : Settings := { value := some "Gym" }
    let feed : Option (Feed FixedAnswers) := vigil.feed
    let history : List (Incident FixedAnswers) :=
      [⟨.first, 0, .trigger .start⟩, ⟨.first, 0, .trigger (.linkChanged .unknown)⟩, ⟨.first, 0, .advance 60000⟩]
    let keeper := (({ feed } : Run FixedAnswers).through settings (fun _ => none) history).keeper
    let world : Surroundings FixedAnswers :=
      { settings, publisher := fun _ => none, feed, wall := .first, elapsed := 60000 }
    settings.fault? feed.isSome = some .incompleteFilter ∧ keeper.Barren ∧ keeper.status = .unknown ∧
      keeper.queries world .refresh = [] ∧ (keeper.handle world .refresh).Refuses .incompleteFilter ∧
      (keeper.handle world .start).Refuses .incompleteFilter := by
  intro settings feed history keeper world
  have broken : settings.fault? feed.isSome = some .incompleteFilter := rfl
  have unknown : keeper.status = .unknown ∧ keeper.phase = .misconfigured := by decide +kernel
  obtain ⟨barren, stuck⟩ := broken_never_works settings (fun _ => none) feed .incompleteFilter broken
  obtain ⟨asked, started, refuses⟩ := stuck world keeper rfl rfl
  have listens : keeper.phase.listens = true := by
    rw [unknown.2]
    rfl
  have online : ∀ found, world.feed = some found → found.link = .online := by
    rintro found ⟨⟩
    rfl
  have alive : keeper.phase ≠ .disposed := by
    rw [unknown.2]
    simp
  have again := refuses .refresh (.inl rfl) listens online
  exact ⟨broken, barren history, unknown.1, (asked .refresh).1, again, started alive⟩

end Run

end NowNext
