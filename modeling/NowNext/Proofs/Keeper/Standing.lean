import NowNext.Keeper.Basic
import NowNext.Proofs.Keeper.Sleepers

/-!
Where a keeper stands: all of it but the notices that it told. What a cycle and a trigger do to the
standing is said here once, and later proofs do not open the keeper again.
-/

set_option autoImplicit false

namespace NowNext

namespace Effect

def board? : Effect → Option Board
  | .publish board => some board
  | _ => none

def reference? : Effect → Option Instant
  | .note (.resolved reference _) => some reference
  | _ => none

end Effect

namespace Journal

def boards (journal : Journal) : List Board := journal.filterMap Effect.board?

def reference? (journal : Journal) : Option Instant := journal.findSome? Effect.reference?

end Journal

structure Standing (C : Type) where
  phase : Phase
  status : Status
  calendar : Option C
  alarm : Alarm
  boards : List Board
  reference : Option Instant

def Standing.refused {C : Type} (phase : Phase) (fault : Fault) (before : Standing C) : Standing C :=
  { before with phase, status := .ofFault fault, alarm := before.alarm.cancel }

namespace Keeper

variable {C : Type} (world : Surroundings C) (keeper : Keeper C)

def standing : Standing C where
  phase := keeper.phase
  status := keeper.status
  calendar := keeper.calendar
  alarm := keeper.alarm
  boards := keeper.journal.boards
  reference := keeper.journal.reference?

theorem standing_note (notice : Notice) (quiet : (Effect.note notice).reference? = none) :
    (keeper.note notice).standing = keeper.standing := by
  have reference : (keeper.note notice).journal.reference? = keeper.journal.reference? := by
    change List.findSome? Effect.reference? (.note notice :: keeper.journal) = _
    rw [List.findSome?_cons, quiet]
    rfl
  rw [standing, reference]
  rfl

theorem standing_note_fault (notice : Fault → Notice) (fault : Option Fault)
    (quiet : ∀ fault, (Effect.note (notice fault)).reference? = none) :
    (keeper.noteFault notice fault).standing = keeper.standing := by
  cases fault with
  | none => rfl
  | some fault => exact standing_note keeper (notice fault) (quiet fault)

theorem standing_cancel : keeper.cancel.standing = { keeper.standing with alarm := keeper.alarm.cancel } := by
  cases keeper with
  | mk phase status calendar alarm journal =>
      cases alarm with
      | mk pending issued sleepers bound => cases pending <;> rfl

theorem standing_arm (elapsed : Nat) (reference target : Instant) :
    (keeper.arm elapsed reference target).standing =
      { keeper.standing with alarm := keeper.alarm.arm elapsed reference target } := by
  rw [arm, standing_note _ _ rfl]
  change { keeper.cancel.standing with alarm := keeper.alarm.arm elapsed reference target } = _
  rw [standing_cancel]

theorem standing_set_status (status : Status) :
    (setStatus world status keeper).standing = { keeper.standing with status } := by
  unfold setStatus
  by_cases same : keeper.status = status
  · rw [if_pos same, ← same]
    rfl
  · rw [if_neg same]
    exact standing_note_fault _ _ _ fun _ => rfl

theorem standing_abort (phase : Phase) (fault : Fault) :
    (keeper.abort world phase fault).keeper.standing = keeper.standing.refused phase fault := by
  change ((setStatus world (.ofFault fault) { keeper.cancel with phase }).note _).standing = _
  rw [standing_note _ _ rfl, standing_set_status]
  change { keeper.cancel.standing with phase, status := .ofFault fault } = _
  rw [standing_cancel]
  rfl

theorem standing_wait : (keeper.wait world).standing = keeper.standing.refused .waiting (.feed .offline) := by
  rw [wait, standing_set_status]
  change { keeper.cancel.standing with phase := .waiting, status := .ofFault (.feed .offline) } = _
  rw [standing_cancel]
  rfl

theorem standing_publish (board : Board) :
    (publish world board keeper).keeper.standing =
      { keeper.standing with boards := board :: keeper.standing.boards } :=
  standing_note_fault _ _ _ fun _ => rfl

theorem standing_published (reference : Instant) (board : Board) :
    (publish world board ((setStatus world .online keeper).note (.resolved reference board))).keeper.standing =
      { keeper.standing with
        status := .online
        boards := board :: keeper.standing.boards
        reference := some reference } := by
  rw [standing_publish]
  change { (setStatus world .online keeper).standing with
    boards := board :: (setStatus world .online keeper).standing.boards
    reference := some reference } = _
  rw [standing_set_status]

theorem note_dangling_either :
    keeper.noteDangling world = keeper ∨ ∃ field, keeper.noteDangling world = keeper.note (.dangling field) := by
  unfold noteDangling
  cases world.settings.field with
  | none => exact .inl rfl
  | some field =>
      by_cases dangling : world.settings.isDangling = true
      · exact .inr ⟨field, if_pos dangling⟩
      · exact .inl (if_neg dangling)

theorem again_either : (if keeper.phase = .uninitialized then keeper
    else keeper.note (.initializedAgain keeper.phase)) = keeper ∨ (if keeper.phase = .uninitialized then keeper
      else keeper.note (.initializedAgain keeper.phase)) = keeper.note (.initializedAgain keeper.phase) := by
  by_cases untouched : keeper.phase = .uninitialized
  · exact .inl (if_pos untouched)
  · exact .inr (if_neg untouched)

theorem standing_note_dangling : (keeper.noteDangling world).standing = keeper.standing := by
  rcases note_dangling_either world keeper with same | ⟨field, told⟩
  · rw [same]
  · rw [told]
    exact standing_note _ _ rfl

theorem standing_again : (if keeper.phase = .uninitialized then keeper
    else keeper.note (.initializedAgain keeper.phase)).standing = keeper.standing := by
  rcases again_either keeper with same | told
  · rw [same]
  · rw [told]
    exact standing_note _ _ rfl

theorem dispose_standing : keeper.dispose.standing = keeper.standing ∨ keeper.dispose.standing =
    { keeper.standing with phase := .disposed, calendar := none, alarm := keeper.alarm.cancel } := by
  unfold dispose
  by_cases disposed : keeper.phase = .disposed
  · rw [if_pos disposed]
    exact .inl rfl
  · rw [if_neg disposed, standing_note _ _ rfl]
    change _ ∨ { keeper.cancel.standing with phase := .disposed, calendar := none } = _
    rw [standing_cancel]
    exact .inr rfl

variable [Calendar C]

theorem standing_reschedule (reference : Instant) (next : Option Instant)
    (boundary : Board.nextBoundary keeper.standing.calendar reference = .ok next) :
    (reschedule world reference keeper).keeper.standing =
      { keeper.standing with alarm := keeper.standing.alarm.follow world.elapsed reference next } := by
  change Board.nextBoundary keeper.calendar reference = .ok next at boundary
  rw [reschedule, boundary]
  cases next with
  | none =>
      change (keeper.cancel.note .noBoundary).standing = _
      rw [standing_note _ _ rfl, standing_cancel]
      rfl
  | some target => exact standing_arm keeper world.elapsed reference target

theorem standing_unscheduled (reference : Instant) (cause : FeedFault)
    (boundary : Board.nextBoundary keeper.standing.calendar reference = .error cause) :
    (reschedule world reference keeper).keeper.standing =
      { keeper.standing with status := .ofFeedFault cause, alarm := keeper.standing.alarm.cancel } := by
  change Board.nextBoundary keeper.calendar reference = .error cause at boundary
  rw [reschedule, boundary]
  change (setStatus world (.ofFeedFault cause) (keeper.cancel.note (.unscheduled cause))).standing = _
  rw [standing_set_status, standing_note _ _ rfl, standing_cancel]
  rfl

end Keeper

-- What a cycle makes of a standing. What the phase and the status were before plays no part.
inductive Cycled {C : Type} [Calendar C] (world : Surroundings C) (before : Standing C) : Standing C → Prop where
  | missing : world.feed = none → Cycled world before (before.refused .misconfigured (.setup .missingFeed))
  | offline (feed : Feed C) : world.feed = some feed → feed.link ≠ .online →
      Cycled world before (before.refused .waiting (.feed .offline))
  | broken (feed : Feed C) (cause : SetupFault) : world.feed = some feed → feed.link = .online →
      world.filter = .error cause → Cycled world before (before.refused .misconfigured (.setup cause))
  | blank (feed : Feed C) (filter : Option Filter) (cause : FeedFault) : world.feed = some feed →
      feed.link = .online → world.filter = .ok filter →
      Board.resolve (before.calendar.or feed.calendar) world.reference filter = .error cause →
      Cycled world before
        ({ before with calendar := before.calendar.or feed.calendar }.refused .ready (.feed cause))
  | shown (feed : Feed C) (filter : Option Filter) (board : Board) (next : Option Instant) :
      world.feed = some feed → feed.link = .online → world.filter = .ok filter →
      Board.resolve (before.calendar.or feed.calendar) world.reference filter = .ok board →
      Board.nextBoundary (before.calendar.or feed.calendar) world.reference = .ok next →
      Cycled world before {
        phase := .ready
        status := .online
        calendar := before.calendar.or feed.calendar
        alarm := before.alarm.follow world.elapsed world.reference next
        boards := board :: before.boards
        reference := some world.reference }
  | contradicted (feed : Feed C) (filter : Option Filter) (board : Board) (cause : FeedFault) :
      world.feed = some feed → feed.link = .online → world.filter = .ok filter →
      Board.resolve (before.calendar.or feed.calendar) world.reference filter = .ok board →
      Board.nextBoundary (before.calendar.or feed.calendar) world.reference = .error cause →
      Cycled world before {
        phase := .ready
        status := .ofFeedFault cause
        calendar := before.calendar.or feed.calendar
        alarm := before.alarm.cancel
        boards := board :: before.boards
        reference := some world.reference }

inductive Handled {C : Type} [Calendar C] (world : Surroundings C) (before : Standing C) : Standing C → Prop where
  | ignored : Handled world before before
  | unknown : Handled world before { before with status := .unknown }
  | misconfigured (cause : SetupFault) : Handled world before (before.refused .misconfigured (.setup cause))
  | waiting : Handled world before (before.refused .waiting (.feed .offline))
  | disposed :
      Handled world before { before with phase := .disposed, calendar := none, alarm := before.alarm.cancel }
  | cycled (phase : Phase) (status : Status) (calendar : Option C) (after : Standing C) :
      calendar = before.calendar ∨ calendar = world.feed.bind (·.calendar) →
      Cycled world { before with phase, status, calendar } after → Handled world before after

theorem Standing.cycled_listens {C : Type} [Calendar C] {world : Surroundings C} {before after : Standing C}
    (cycled : Cycled world before after) : after.phase.listens = true := by
  cases cycled <;> rfl

namespace Keeper

variable {C : Type} [Calendar C] (world : Surroundings C) (keeper : Keeper C)

theorem standing_display (reference : Instant) (board : Board) (next : Option Instant)
    (boundary : Board.nextBoundary keeper.calendar reference = .ok next) :
    (display world reference board keeper).keeper.standing =
      { keeper.standing with
        status := .online
        alarm := keeper.alarm.follow world.elapsed reference next
        boards := board :: keeper.standing.boards
        reference := some reference } := by
  change (reschedule world reference _).keeper.standing = _
  rw [standing_reschedule world _ reference next, standing_published]
  · rfl
  · rw [standing_published]
    exact boundary

theorem standing_contradicted (reference : Instant) (board : Board) (cause : FeedFault)
    (boundary : Board.nextBoundary keeper.calendar reference = .error cause) :
    (display world reference board keeper).keeper.standing =
      { keeper.standing with
        status := .ofFeedFault cause
        alarm := keeper.alarm.cancel
        boards := board :: keeper.standing.boards
        reference := some reference } := by
  change (reschedule world reference _).keeper.standing = _
  rw [standing_unscheduled world _ reference cause, standing_published]
  · rfl
  · rw [standing_published]
    exact boundary

theorem cycle_standing : Cycled world keeper.standing (cycle world keeper).keeper.standing := by
  unfold cycle
  cases connected : world.feed with
  | none =>
      rw [standing_abort]
      exact .missing connected
  | some feed =>
      by_cases online : feed.link = .online
      · simp only [online, ne_eq, not_true_eq_false, if_false]
        cases selected : world.filter with
        | error cause =>
            rw [standing_abort]
            exact .broken feed cause connected online selected
        | ok filter =>
            cases resolved : Board.resolve (keeper.fetchMissing feed).calendar world.reference filter with
            | error cause =>
                simp only [resolved, standing_abort]
                exact .blank feed filter cause connected online selected resolved
            | ok board =>
                simp only [resolved]
                cases boundary : Board.nextBoundary (keeper.fetchMissing feed).calendar world.reference with
                | error cause =>
                    rw [standing_contradicted world { keeper.fetchMissing feed with phase := .ready } _ board cause boundary]
                    exact .contradicted feed filter board cause connected online selected resolved boundary
                | ok next =>
                    rw [standing_display world { keeper.fetchMissing feed with phase := .ready } _ board next boundary]
                    exact .shown feed filter board next connected online selected resolved boundary
      · simp only [online, ne_eq, not_false_eq_true, if_true, standing_abort]
        exact .offline feed connected online

theorem refresh_standing (listens : keeper.phase.listens = true) :
    Cycled world keeper.standing (keeper.refresh world).keeper.standing := by
  rw [refresh, if_pos listens]
  exact cycle_standing world keeper

theorem calendar_updated_standing (listens : keeper.phase.listens = true) :
    Cycled world { keeper.standing with calendar := world.feed.bind (·.calendar) }
      (keeper.calendarUpdated world).keeper.standing := by
  rw [calendarUpdated, if_pos listens]
  exact cycle_standing world { keeper with calendar := world.feed.bind (·.calendar) }

theorem link_online_standing (listens : keeper.phase.listens = true) :
    Cycled world keeper.standing (keeper.linkChanged world .online).keeper.standing := by
  rw [linkChanged, if_pos listens]
  exact cycle_standing world keeper

theorem link_offline_standing (listens : keeper.phase.listens = true) :
    (keeper.linkChanged world .offline).keeper.standing = keeper.standing.refused .waiting (.feed .offline) := by
  rw [linkChanged, if_pos listens]
  exact standing_wait world keeper

theorem wake_stale (generation : Nat) (stale : keeper.phase = .disposed ∨ keeper.alarm.holds generation = false) :
    (keeper.wake world generation).standing = keeper.standing := by
  unfold wake
  by_cases disposed : keeper.phase = .disposed
  · rw [if_pos disposed]
  · rw [if_neg disposed, if_neg (by simpa using stale.resolve_left disposed)]
    exact standing_note _ _ rfl

theorem wake_standing (generation : Nat) (alive : keeper.phase ≠ .disposed)
    (held : keeper.alarm.holds generation = true) :
    Cycled world { keeper.standing with alarm := keeper.alarm.claim generation }
      (keeper.wake world generation).standing := by
  unfold wake
  rw [if_neg alive, if_pos held, standing_note_fault _ _ _ fun _ => rfl]
  have cycled := cycle_standing world
    ({ keeper with alarm := keeper.alarm.claim generation }.note (.fired generation))
  rw [standing_note _ _ rfl] at cycled
  exact cycled

theorem start_offline_standing (feed : Feed C) (filter : Option Filter) (alive : keeper.phase ≠ .disposed)
    (connected : world.feed = some feed) (selected : world.filter = .ok filter) (offline : feed.link ≠ .online) :
    (keeper.start world).keeper.standing = keeper.standing.refused .waiting (.feed .offline) := by
  simp only [start, if_neg alive, connected, selected, if_pos offline]
  rw [standing_wait, standing_note_dangling, standing_again]

theorem start_online_standing (feed : Feed C) (filter : Option Filter) (alive : keeper.phase ≠ .disposed)
    (connected : world.feed = some feed) (selected : world.filter = .ok filter) (online : feed.link = .online) :
    Cycled world { keeper.standing with phase := .ready, status := .unknown, calendar := feed.calendar }
      (keeper.start world).keeper.standing := by
  have opening := (standing_note_dangling world _).trans (standing_again keeper)
  simp only [start, if_neg alive, connected, selected, online, ne_eq, not_true_eq_false, if_false]
  generalize noteDangling world _ = told at opening ⊢
  have ready : ({ setStatus world .unknown { told with phase := .ready } with
      calendar := feed.calendar } : Keeper C).standing =
        { keeper.standing with phase := .ready, status := .unknown, calendar := feed.calendar } := by
    change { (setStatus world .unknown { told with phase := .ready }).standing with
      calendar := feed.calendar } = _
    rw [standing_set_status]
    change { told.standing with phase := .ready, status := .unknown, calendar := feed.calendar } = _
    rw [opening]
  rw [← ready]
  exact cycle_standing world _

theorem start_standing : Handled world keeper.standing (keeper.start world).keeper.standing := by
  by_cases disposed : keeper.phase = .disposed
  · rw [start, if_pos disposed]
    exact .ignored
  · cases connected : world.feed with
    | none =>
        simp only [start, if_neg disposed, connected]
        rw [standing_abort, standing_again]
        exact .misconfigured _
    | some feed =>
        cases selected : world.filter with
        | error cause =>
            simp only [start, if_neg disposed, connected, selected]
            rw [standing_abort, standing_note_dangling, standing_again]
            exact .misconfigured _
        | ok filter =>
            by_cases online : feed.link = .online
            · refine .cycled .ready .unknown feed.calendar _ (.inr ?_)
                (start_online_standing world keeper feed filter disposed connected selected online)
              rw [connected]
              rfl
            · rw [start_offline_standing world keeper feed filter disposed connected selected online]
              exact .waiting

theorem link_standing (link : Link) :
    Handled world keeper.standing (keeper.linkChanged world link).keeper.standing := by
  by_cases listens : keeper.phase.listens = true
  · cases link with
    | online =>
        exact .cycled _ _ _ _ (.inl rfl) (link_online_standing world keeper listens)
    | offline =>
        rw [link_offline_standing world keeper listens]
        exact .waiting
    | unknown =>
        simp only [linkChanged, if_pos listens, standing_set_status]
        exact .unknown
  · unfold linkChanged
    rw [if_neg listens, standing_note _ _ rfl]
    exact .ignored

theorem handle_standing (trigger : Trigger) (owners : ∀ generation, trigger ≠ .wake generation) :
    Handled world keeper.standing (keeper.handle world trigger).keeper.standing := by
  cases trigger with
  | start => exact start_standing world keeper
  | refresh =>
      by_cases listens : keeper.phase.listens = true
      · exact .cycled _ _ _ _ (.inl rfl) (refresh_standing world keeper listens)
      · rw [handle, refresh, if_neg listens, standing_note _ _ rfl]
        exact .ignored
  | calendarUpdated =>
      by_cases listens : keeper.phase.listens = true
      · exact .cycled _ _ _ _ (.inr rfl) (calendar_updated_standing world keeper listens)
      · rw [handle, calendarUpdated, if_neg listens, standing_note _ _ rfl]
        exact .ignored
  | linkChanged link => exact link_standing world keeper link
  | dispose =>
      rcases dispose_standing keeper with same | disposed
      · rw [handle, same]
        exact .ignored
      · rw [handle, disposed]
        exact .disposed
  | wake generation => exact absurd rfl (owners generation)

theorem wake_either (generation : Nat) :
    (keeper.wake world generation).standing = keeper.standing ∨ keeper.alarm.pending.isSome = true ∧
      Cycled world { keeper.standing with alarm := { keeper.alarm with pending := none } }
        (keeper.wake world generation).standing := by
  by_cases disposed : keeper.phase = .disposed
  · exact .inl (wake_stale world keeper generation (.inl disposed))
  · cases own : keeper.alarm.holds generation with
    | false => exact .inl (wake_stale world keeper generation (.inr own))
    | true =>
        have cycled := wake_standing world keeper generation disposed own
        rw [keeper.alarm.claim_own generation own] at cycled
        exact .inr ⟨keeper.alarm.holds_set generation own, cycled⟩

theorem handle_either (trigger : Trigger) :
    Handled world keeper.standing (keeper.handle world trigger).keeper.standing ∨
      Cycled world { keeper.standing with alarm := { keeper.alarm with pending := none } }
        (keeper.handle world trigger).keeper.standing := by
  cases trigger with
  | wake generation =>
      rcases wake_either world keeper generation with same | ⟨_, cycled⟩
      · rw [handle, same]
        exact .inl .ignored
      · exact .inr cycled
  | start | refresh | calendarUpdated | linkChanged | dispose =>
      exact .inl (handle_standing world keeper _ fun generation same => by cases same)

end Keeper

end NowNext
