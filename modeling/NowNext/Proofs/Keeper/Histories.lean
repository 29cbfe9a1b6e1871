import NowNext.Keeper.Run

set_option autoImplicit false

namespace NowNext

-- An operation, and what the clocks are at by then. They may jump either way, so that a sleeper can end
-- late, and any wake can come at any point, however often.
structure Incident (C : Type) where
  opening : Instant
  elapsed : Nat
  op : RunOp C

def Incident.Within {C : Type} (allowed : Trigger → Prop) (incident : Incident C) : Prop :=
  ∀ trigger, incident.op = .trigger trigger → allowed trigger

structure Move (C : Type) where
  before : Run C
  after : Run C
  fault : Option Fault := none

namespace Run

variable {C : Type} [Calendar C]

def wakings (stage : Stage) (limit : Nat) : Nat → Run C → List (Move C)
  | 0, _ => []
  | fuel + 1, run =>
      match run.wakeNext? stage limit with
      | some awake => { before := run, after := awake } :: wakings stage limit fuel awake
      | none => []

theorem wakings_rest {stage : Stage} {limit : Nat} {run : Run C} (rest : run.wakeNext? stage limit = none) (fuel : Nat) :
    run.wakings stage limit fuel = [] := by
  cases fuel with
  | zero => rfl
  | succ fuel => rw [wakings, rest]

theorem wakings_woken {stage : Stage} {limit : Nat} {run awake : Run C}
    (woken : run.wakeNext? stage limit = some awake) (fuel : Nat) :
    run.wakings stage limit (fuel + 1) = { before := run, after := awake } :: awake.wakings stage limit fuel := by
  rw [wakings, woken]

def wakingsIn (stage : Stage) (run : Run C) : RunOp C → List (Move C)
  | .advance millis => run.wakings stage (run.elapsed + millis) (millis + 1)
  | _ => []

def wakes (stage : Stage) : Run C → List (RunOp C) → List (Move C)
  | _, [] => []
  | run, op :: ops =>
      run.wakingsIn stage op ++ (run.perform stage op).1.wakingsIn stage (.advance 0) ++
        wakes stage (run.step stage op).1 ops

def meet (settings : Settings) (publisher : Publisher) (run : Run C) (incident : Incident C) :
    Run C × Option Fault :=
  { run with elapsed := incident.elapsed }.perform { settings, publisher, opening := incident.opening }
    incident.op

def through (settings : Settings) (publisher : Publisher) (run : Run C) (incidents : List (Incident C)) : Run C :=
  incidents.foldl (fun run incident => (run.meet settings publisher incident).1) run

def movesOf (settings : Settings) (publisher : Publisher) (run : Run C) (incident : Incident C) : List (Move C) :=
  let begun := { run with elapsed := incident.elapsed }
  let (after, fault) := run.meet settings publisher incident
  begun.wakingsIn { settings, publisher, opening := incident.opening } incident.op ++ [{ before := begun, after, fault }]

def moves (settings : Settings) (publisher : Publisher) : Run C → List (Incident C) → List (Move C)
  | _, [] => []
  | run, incident :: rest =>
      run.movesOf settings publisher incident ++
        moves settings publisher (run.meet settings publisher incident).1 rest

theorem wake_until_preserves {stage : Stage} {holds : Run C → Prop}
    (woken : ∀ (run : Run C) (generation : Nat), holds run → holds (run.handle stage (.wake generation)).1)
    (passed : ∀ (run : Run C) (sleepers : List Sleeper) (elapsed : Nat),
      sleepers ⊆ run.keeper.alarm.sleepers → holds run → holds { run with keeper.alarm.sleepers := sleepers, elapsed })
    (limit fuel : Nat) (run : Run C) (held : holds run) : holds (run.wakeUntil stage limit fuel) := by
  induction fuel generalizing run with
  | zero => exact held
  | succ fuel ih =>
      unfold wakeUntil
      cases next : run.wakeNext? stage limit with
      | none => exact held
      | some awake =>
          obtain ⟨⟨sleeper, rest⟩, ended, rfl⟩ := Option.map_eq_some_iff.mp next
          obtain ⟨first, _, same⟩ := Option.map_eq_some_iff.mp ended
          obtain ⟨rfl, rfl⟩ := Prod.mk.inj same
          have asleep := passed run (run.keeper.alarm.sleepers.erase first) (max run.elapsed first.due)
            List.erase_subset held
          exact ih _ (woken _ first.generation asleep)

-- What the owner preserves with any of the triggers that are allowed, and what the feed and the time
-- preserve by themselves. With time, sleepers end.
structure Lasting (settings : Settings) (publisher : Publisher) (allowed : Trigger → Prop)
    (holds : Run C → Prop) : Prop where
  wakes : ∀ generation, allowed (.wake generation)
  handled : ∀ (run : Run C) (opening : Instant) (trigger : Trigger), allowed trigger → holds run →
    holds (run.handle { settings, publisher, opening } trigger).1
  passed : ∀ (run : Run C) (sleepers : List Sleeper) (elapsed : Nat), sleepers ⊆ run.keeper.alarm.sleepers →
    holds run → holds { run with keeper.alarm.sleepers := sleepers, elapsed }
  linked : ∀ (run : Run C) (link : Link), holds run → holds (run.setLink link)
  replaced : ∀ (run : Run C) (calendar : Option C), holds run → holds (run.setCalendar calendar)
  dropped : ∀ run : Run C, holds run → holds { run with isDropped := true }

variable {settings : Settings} {publisher : Publisher} {allowed : Trigger → Prop} {holds : Run C → Prop}
  {run : Run C} (lasting : Lasting settings publisher allowed holds)
include lasting

theorem advance_lasting (opening : Instant) (millis : Nat) (held : holds run) :
    holds (run.advance { settings, publisher, opening } millis) :=
  lasting.passed _ _ _ (List.Subset.refl _) (wake_until_preserves
    (fun run generation => lasting.handled run opening _ (lasting.wakes generation)) lasting.passed
    (run.elapsed + millis) (millis + 1) run held)

theorem meet_lasting (incident : Incident C) (within : incident.Within allowed) (held : holds run) :
    holds (run.meet settings publisher incident).1 := by
  obtain ⟨opening, elapsed, op⟩ := incident
  have later : holds { run with elapsed } :=
    lasting.passed run run.keeper.alarm.sleepers elapsed (List.Subset.refl _) held
  cases op with
  | trigger trigger => exact lasting.handled _ opening trigger (within trigger rfl) later
  | setLink link => exact lasting.linked _ link later
  | setCalendar calendar => exact lasting.replaced _ calendar later
  | advance millis => exact advance_lasting lasting opening millis later
  | drop => exact lasting.dropped _ later

theorem through_lasting (incidents : List (Incident C)) (within : ∀ incident ∈ incidents, incident.Within allowed)
    (held : holds run) : holds (run.through settings publisher incidents) := by
  induction incidents generalizing run with
  | nil => exact held
  | cons incident rest ih =>
      exact ih (fun other member => within other (by simp [member]))
        (meet_lasting lasting incident (within incident (by simp)) held)

end Run

namespace Keeper

variable {C : Type} [Calendar C]

structure Lasting (settings : Settings) (isAttached : Bool) (holds : Keeper C → Prop) : Prop where
  handled : ∀ (world : Surroundings C) (keeper : Keeper C) (trigger : Trigger),
    world.filter = settings.filter → world.feed.isSome = isAttached → holds keeper →
    holds (keeper.handle world trigger).keeper
  asleep : ∀ (keeper : Keeper C) (sleepers : List Sleeper), sleepers ⊆ keeper.alarm.sleepers → holds keeper →
    holds { keeper with alarm.sleepers := sleepers }

theorem lasting_run {settings : Settings} {isAttached : Bool} {holds : Keeper C → Prop}
    (lasting : Lasting settings isAttached holds) (publisher : Publisher) :
    Run.Lasting settings publisher (fun _ => True)
      fun run : Run C => run.feed.isSome = isAttached ∧ holds run.keeper := by
  refine ⟨fun _ => trivial, ?_, ?_, ?_, ?_, fun _ held => held⟩
  · rintro run opening trigger - ⟨attached, held⟩
    unfold Run.handle
    by_cases dropped : run.isDropped = true
    · rw [if_pos dropped]
      exact ⟨attached, held⟩
    · rw [if_neg dropped]
      exact ⟨attached, lasting.handled _ run.keeper trigger rfl attached held⟩
  · rintro run sleepers elapsed fewer ⟨attached, held⟩
    exact ⟨attached, lasting.asleep run.keeper sleepers fewer held⟩
  · rintro run link ⟨attached, held⟩
    exact ⟨by rw [Run.setLink, Option.isSome_map, attached], held⟩
  · rintro run calendar ⟨attached, held⟩
    exact ⟨by rw [Run.setCalendar, Option.isSome_map, attached], held⟩

theorem through_lasting {settings : Settings} {isAttached : Bool} {holds : Keeper C → Prop}
    (lasting : Lasting settings isAttached holds) (publisher : Publisher) (run : Run C)
    (attached : run.feed.isSome = isAttached) (held : holds run.keeper) (incidents : List (Incident C)) :
    (run.through settings publisher incidents).feed.isSome = isAttached ∧
      holds (run.through settings publisher incidents).keeper :=
  Run.through_lasting (lasting_run lasting publisher) incidents (fun _ _ _ _ => trivial) ⟨attached, held⟩

end Keeper

end NowNext
