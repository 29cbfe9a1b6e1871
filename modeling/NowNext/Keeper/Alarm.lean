import NowNext.Log.Notice

/-!
A single wake-up and the sleepers behind it, on a clock of milliseconds. Each wake-up that is set gets
the next number; a sleeper that ends has to claim its number, so that one whose wake-up was replaced
has no effect.
-/

set_option autoImplicit false

namespace NowNext

structure Pending where
  generation : Nat
  target : Instant
deriving DecidableEq

structure Sleeper where
  generation : Nat
  due : Nat
deriving DecidableEq

-- Stands for the runtime's last resort where a timer is set for too long: it then ends after thirty years
-- of 365 days, as observed. Nothing promises that, so what is proved leaves the bound open.
def longestDelay : Nat := 30 * 365 * 86400 * nanosPerSecond

structure Alarm where
  pending : Option Pending := none
  issued : Nat := 0
  sleepers : List Sleeper := []
  bound : Option Nat := some longestDelay
deriving DecidableEq

namespace Alarm

def target? (alarm : Alarm) : Option Instant := alarm.pending.map (·.target)

def cancel (alarm : Alarm) : Alarm :=
  match alarm.pending with
  | some pending =>
      { alarm with
        pending := none
        sleepers := alarm.sleepers.filter fun sleeper => sleeper.generation ≠ pending.generation }
  | none => alarm

def cancelNotice? (alarm : Alarm) : Option Notice :=
  alarm.pending.map fun pending => .cancelled pending.generation pending.target

def dueAfter (elapsed nanos : Nat) : Nat := elapsed + (nanos + nanosPerMilli - 1) / nanosPerMilli

def delay (alarm : Alarm) (nanos : Nat) : Nat := alarm.bound.elim nanos (min nanos)

-- Replaces the wake-up. It takes as long as from the reference instant to the target, and no time
-- when the target has passed. A target too far away is not waited for to the end.
def arm (alarm : Alarm) (elapsed : Nat) (reference target : Instant) : Alarm :=
  let generation := alarm.issued + 1
  { alarm with
    pending := some ⟨generation, target⟩
    issued := generation
    sleepers := alarm.cancel.sleepers ++
      [⟨generation, dueAfter elapsed (alarm.delay (reference.wait target))⟩] }

def armNotice (alarm : Alarm) (reference target : Instant) : Notice :=
  .armed (alarm.issued + 1) target (reference.wait target / nanosPerSecond)

def holds (alarm : Alarm) (generation : Nat) : Bool :=
  alarm.pending.any fun pending => pending.generation == generation

-- Clears the wake-up if it has the given number, but leaves its sleeper.
def claim (alarm : Alarm) (generation : Nat) : Alarm :=
  if alarm.holds generation then { alarm with pending := none } else alarm

def firstDue? (limit : Nat) : List Sleeper → Option Sleeper
  | [] => none
  | sleeper :: rest =>
      match firstDue? limit rest with
      | some other => some (if sleeper.due ≤ other.due then sleeper else other)
      | none => if sleeper.due ≤ limit then some sleeper else none

def wake? (alarm : Alarm) (limit : Nat) : Option (Sleeper × Alarm) :=
  (firstDue? limit alarm.sleepers).map fun sleeper =>
    (sleeper, { alarm with sleepers := alarm.sleepers.erase sleeper })

def wakeAll (limit : Nat) : Nat → Alarm → List Sleeper × Alarm
  | 0, alarm => ([], alarm)
  | fuel + 1, alarm =>
      match alarm.wake? limit with
      | some (sleeper, rest) =>
          let (others, last) := wakeAll limit fuel rest
          (sleeper :: others, last)
      | none => ([], alarm)

end Alarm

end NowNext
