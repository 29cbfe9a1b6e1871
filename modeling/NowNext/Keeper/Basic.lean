import NowNext.Board.Resolve
import NowNext.Feed.Basic
import NowNext.Filter.Settings
import NowNext.Keeper.Alarm

/-!
The keeper of a board. Each cycle reads the clock once, resolves the board at that instant, hands it to
the publisher, and sets the wake-up for the next bound of an event.
-/

set_option autoImplicit false

namespace NowNext

inductive Effect where
  | note (notice : Notice)
  | publish (board : Board)
  | report (status : Status)

abbrev Journal := List Effect

abbrev Publisher := Journal → Option Fault

structure Surroundings (C : Type) where
  settings : Settings
  filter : Except SetupFault (Option Filter) := settings.filter
  publisher : Publisher
  feed : Option (Feed C)
  wall : Instant
  elapsed : Nat

def Surroundings.reference {C : Type} (world : Surroundings C) : Instant :=
  world.settings.lead.apply world.wall

structure Keeper (C : Type) where
  phase : Phase := .uninitialized
  status : Status := .unknown
  calendar : Option C := none
  alarm : Alarm := {}
  journal : Journal := []

inductive Trigger where
  | start
  | refresh
  | calendarUpdated
  | linkChanged (link : Link)
  | dispose
  | wake (generation : Nat)

structure Outcome (C : Type) where
  keeper : Keeper C
  fault : Option Fault := none

namespace Keeper

variable {C : Type}

def add (keeper : Keeper C) (effect : Effect) : Keeper C :=
  { keeper with journal := effect :: keeper.journal }

def note (keeper : Keeper C) (notice : Notice) : Keeper C := keeper.add (.note notice)

def noteFault (keeper : Keeper C) (notice : Fault → Notice) : Option Fault → Keeper C
  | some fault => keeper.note (notice fault)
  | none => keeper

def cancel (keeper : Keeper C) : Keeper C :=
  let cleared := { keeper with alarm := keeper.alarm.cancel }
  match keeper.alarm.cancelNotice? with
  | some notice => cleared.note notice
  | none => cleared

def arm (keeper : Keeper C) (elapsed : Nat) (reference target : Instant) : Keeper C :=
  let cleared := keeper.cancel
  { cleared with alarm := keeper.alarm.arm elapsed reference target }.note
    (keeper.alarm.armNotice reference target)

def setStatus (world : Surroundings C) (status : Status) (keeper : Keeper C) : Keeper C :=
  if keeper.status = status then keeper
  else
    let reported := ({ keeper with status }.note (.statusChanged status)).add (.report status)
    reported.noteFault .statusUnreported (world.publisher reported.journal)

def abort (world : Surroundings C) (phase : Phase) (fault : Fault) (keeper : Keeper C) : Outcome C :=
  let idle := setStatus world (.ofFault fault) { keeper.cancel with phase }
  ⟨idle.note (.aborted phase fault), some fault⟩

def wait (world : Surroundings C) (keeper : Keeper C) : Keeper C :=
  setStatus world (.offline .feedOffline none) { keeper.cancel with phase := .waiting }

def publish (world : Surroundings C) (board : Board) (keeper : Keeper C) : Outcome C :=
  let published := keeper.add (.publish board)
  let fault := world.publisher published.journal
  ⟨published.noteFault .unpublished fault, fault⟩

variable [Calendar C]

def reschedule (world : Surroundings C) (reference : Instant) (keeper : Keeper C) : Outcome C :=
  match Board.nextBoundary keeper.calendar reference with
  | .ok (some target) => ⟨keeper.arm world.elapsed reference target, none⟩
  | .ok none => ⟨keeper.cancel.note .noBoundary, none⟩
  | .error cause =>
      let told := keeper.cancel.note (.unscheduled cause)
      ⟨setStatus world (.ofFeedFault cause) told, some (.feed cause)⟩

-- Publishes the board of the reference instant and sets the wake-up. A fault of the publisher does
-- not keep the wake-up from being set; one of the calendar is the graver one.
def display (world : Surroundings C) (reference : Instant) (board : Board) (keeper : Keeper C) :
    Outcome C :=
  let online := (setStatus world .online keeper).note (.resolved reference board)
  let published := publish world board online
  let scheduled := reschedule world reference published.keeper
  ⟨scheduled.keeper, scheduled.fault.or published.fault⟩

def fetchMissing (feed : Feed C) (keeper : Keeper C) : Keeper C :=
  { keeper with calendar := keeper.calendar.or feed.calendar }

def cycle (world : Surroundings C) (keeper : Keeper C) : Outcome C :=
  match world.feed with
  | none => keeper.abort world .misconfigured (.setup .missingFeed)
  | some feed =>
      if feed.link ≠ .online then keeper.abort world .waiting (.feed .offline)
      else
        match world.filter with
        | .error cause => keeper.abort world .misconfigured (.setup cause)
        | .ok filter =>
            let ready := { keeper.fetchMissing feed with phase := .ready }
            match Board.resolve ready.calendar world.reference filter with
            | .error cause => ready.abort world .ready (.feed cause)
            | .ok board => ready.display world world.reference board

def noteDangling (world : Surroundings C) (keeper : Keeper C) : Keeper C :=
  match world.settings.field with
  | some field =>
      if world.settings.isDangling then keeper.note (.dangling field) else keeper
  | none => keeper

def start (world : Surroundings C) (keeper : Keeper C) : Outcome C :=
  if keeper.phase = .disposed then ⟨keeper, some .disposed⟩
  else
    let again := if keeper.phase = .uninitialized then keeper
      else keeper.note (.initializedAgain keeper.phase)
    match world.feed with
    | none => again.abort world .misconfigured (.setup .missingFeed)
    | some feed =>
        let told := again.noteDangling world
        match world.filter with
        | .error cause => told.abort world .misconfigured (.setup cause)
        | .ok _ =>
            if feed.link ≠ .online then ⟨told.wait world, none⟩
            else
              let ready := setStatus world .unknown { told with phase := .ready }
              cycle world { ready with calendar := feed.calendar }

def refresh (world : Surroundings C) (keeper : Keeper C) : Outcome C :=
  if keeper.phase.listens then keeper.cycle world
  else ⟨keeper.note (.ignoredRefresh keeper.phase), none⟩

def calendarUpdated (world : Surroundings C) (keeper : Keeper C) : Outcome C :=
  if keeper.phase.listens then
    cycle world { keeper with calendar := world.feed.bind (·.calendar) }
  else ⟨keeper.note (.ignoredCalendar keeper.phase), none⟩

def linkChanged (world : Surroundings C) (link : Link) (keeper : Keeper C) : Outcome C :=
  if keeper.phase.listens then
    match link with
    | .online => keeper.cycle world
    | .offline => ⟨keeper.wait world, none⟩
    | .unknown => ⟨setStatus world .unknown keeper, none⟩
  else ⟨keeper.note (.ignoredLink keeper.phase link), none⟩

def dispose (keeper : Keeper C) : Keeper C :=
  if keeper.phase = .disposed then keeper
  else { keeper.cancel with calendar := none, phase := .disposed }.note .disposed

-- A sleeper ended. Its cycle has nobody to fail to.
def wake (world : Surroundings C) (generation : Nat) (keeper : Keeper C) : Keeper C :=
  if keeper.phase = .disposed then keeper
  else if keeper.alarm.holds generation then
    let claimed := { keeper with alarm := keeper.alarm.claim generation }
    let outcome := cycle world (claimed.note (.fired generation))
    outcome.keeper.noteFault .wakeFailed outcome.fault
  else keeper.note (.stale generation)

def handle (world : Surroundings C) (keeper : Keeper C) : Trigger → Outcome C
  | .start => keeper.start world
  | .refresh => keeper.refresh world
  | .calendarUpdated => keeper.calendarUpdated world
  | .linkChanged link => keeper.linkChanged world link
  | .dispose => ⟨keeper.dispose, none⟩
  | .wake generation => ⟨keeper.wake world generation, none⟩

end Keeper

end NowNext
