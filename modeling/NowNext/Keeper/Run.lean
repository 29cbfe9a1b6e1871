import NowNext.Keeper.Basic

/-!
A keeper, its feed and its clock over a run of operations. Time stands still except when it is moved
on; a wake-up that falls due on the way happens at its own time.
-/

set_option autoImplicit false

namespace NowNext

structure Stage where
  settings : Settings
  filter : Except SetupFault (Option Filter) := settings.filter
  publisher : Publisher
  opening : Instant

structure Run (C : Type) where
  keeper : Keeper C := {}
  feed : Option (Feed C)
  elapsed : Nat := 0
  -- Nobody holds the keeper any more: it listens no longer, and its sleepers find nothing.
  isDropped : Bool := false

inductive RunOp (C : Type) where
  | trigger (trigger : Trigger)
  | setLink (link : Link)
  | setCalendar (calendar : Option C)
  | advance (millis : Nat)
  | drop

namespace Run

variable {C : Type} [Calendar C]

def wall (stage : Stage) (run : Run C) : Instant := stage.opening.plusMillis run.elapsed

def surroundings (stage : Stage) (run : Run C) : Surroundings C where
  settings := stage.settings
  filter := stage.filter
  publisher := stage.publisher
  feed := run.feed
  wall := run.wall stage
  elapsed := run.elapsed

def handle (stage : Stage) (run : Run C) (trigger : Trigger) : Run C × Option Fault :=
  if run.isDropped then (run, none)
  else
    let outcome := run.keeper.handle (run.surroundings stage) trigger
    ({ run with keeper := outcome.keeper }, outcome.fault)

def wakeNext? (stage : Stage) (limit : Nat) (run : Run C) : Option (Run C) :=
  (run.keeper.alarm.wake? limit).map fun (sleeper, alarm) =>
    let awake := { run with
      keeper := { run.keeper with alarm }
      elapsed := max run.elapsed sleeper.due }
    (awake.handle stage (.wake sleeper.generation)).1

def wakeUntil (stage : Stage) (limit : Nat) : Nat → Run C → Run C
  | 0, run => run
  | fuel + 1, run =>
      match run.wakeNext? stage limit with
      | some awake => wakeUntil stage limit fuel awake
      | none => run

-- Moves time on. A wake-up that a cycle sets falls due later than the cycle, so there is at most one
-- for each millisecond.
def advance (stage : Stage) (millis : Nat) (run : Run C) : Run C :=
  let limit := run.elapsed + millis
  { wakeUntil stage limit (millis + 1) run with elapsed := limit }

def setLink (link : Link) (run : Run C) : Run C :=
  { run with feed := run.feed.map fun feed => (feed.setLink link).1 }

def setCalendar (calendar : Option C) (run : Run C) : Run C :=
  { run with feed := run.feed.map fun feed => { feed with calendar } }

def perform (stage : Stage) (run : Run C) : RunOp C → Run C × Option Fault
  | .trigger trigger => run.handle stage trigger
  | .setLink link => (run.setLink link, none)
  | .setCalendar calendar => (run.setCalendar calendar, none)
  | .advance millis => (run.advance stage millis, none)
  | .drop => ({ run with isDropped := true }, none)

def step (stage : Stage) (run : Run C) (op : RunOp C) : Run C × Option Fault :=
  let (after, fault) := run.perform stage op
  (after.advance stage 0, fault)

def after (stage : Stage) (run : Run C) (ops : List (RunOp C)) : Run C :=
  ops.foldl (fun run op => (run.step stage op).1) run

end Run

end NowNext
