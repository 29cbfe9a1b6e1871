import NowNext.Proofs.Board.Boundary
import NowNext.Proofs.Keeper.Aligned
import NowNext.Proofs.Keeper.Histories

set_option autoImplicit false

namespace NowNext

inductive Happening where
  | pass (clock : Instant) (millis : Nat)
  | wake (clock : Instant) (generation : Nat)

def Run.happen (stage : Stage) (run : Run Agenda) : Happening → Run Agenda
  | .pass clock millis => run.advance { stage with opening := clock } millis
  | .wake clock generation => (run.handle { stage with opening := clock } (.wake generation)).1

def Run.meanwhile (stage : Stage) (run : Run Agenda) (happenings : List Happening) : Run Agenda :=
  happenings.foldl (fun run happening => run.happen stage happening) run

namespace Standing

structure Steady (filter : Option Filter) (feed : Feed Agenda) (holds : Standing Agenda → Prop) : Prop where
  asleep : ∀ standing sleepers, holds standing →
    holds { standing with alarm := { standing.alarm with sleepers } }
  woken : ∀ (world : Surroundings Agenda) (before after : Standing Agenda), world.feed = some feed →
    world.filter = .ok filter → holds before → before.alarm.pending.isSome = true →
    Cycled world { before with alarm := { before.alarm with pending := none } } after → holds after

end Standing

namespace Run

structure Stands (feed : Feed Agenda) (holds : Standing Agenda → Prop) (run : Run Agenda) : Prop where
  held : run.isDropped = false
  feed : run.feed = some feed
  standing : holds run.keeper.standing

variable {stage : Stage} {filter : Option Filter} {feed : Feed Agenda} {holds : Standing Agenda → Prop}
  {run : Run Agenda}

theorem wake_stands (stage : Stage) (run : Run Agenda) (selected : stage.filter = .ok filter)
    (steady : Standing.Steady filter feed holds) (stands : run.Stands feed holds) (generation : Nat) :
    (run.handle stage (.wake generation)).1.Stands feed holds := by
  rw [handle_held stands.held]
  refine ⟨stands.held, stands.feed, ?_⟩
  change holds (run.keeper.wake (run.surroundings stage) generation).standing
  rcases run.keeper.wake_either (run.surroundings stage) generation with same | ⟨set, cycled⟩
  · rw [same]
    exact stands.standing
  · exact steady.woken _ _ _ stands.feed selected stands.standing set cycled

theorem happen_stands (selected : stage.filter = .ok filter) (steady : Standing.Steady filter feed holds)
    (stands : run.Stands feed holds) (happening : Happening) : (run.happen stage happening).Stands feed holds := by
  cases happening with
  | pass clock millis =>
      obtain ⟨held, same, standing⟩ := wake_until_preserves
        (fun run generation stands => wake_stands { stage with opening := clock } run selected steady stands generation)
        (fun _ sleepers _ _ stands => ⟨stands.held, stands.feed, steady.asleep _ sleepers stands.standing⟩)
        (run.elapsed + millis) (millis + 1) run stands
      exact ⟨held, same, standing⟩
  | wake clock generation =>
      exact wake_stands { stage with opening := clock } run selected steady stands generation

theorem meanwhile_stands (selected : stage.filter = .ok filter) (steady : Standing.Steady filter feed holds)
    (happenings : List Happening) (stands : run.Stands feed holds) :
    (run.meanwhile stage happenings).Stands feed holds := by
  induction happenings generalizing run with
  | nil => exact stands
  | cons happening rest ih => exact ih (happen_stands selected steady stands happening)

end Run

end NowNext
