import NowNext.Proofs.Keeper.Acts
import NowNext.Proofs.Keeper.Aligned
import NowNext.Proofs.Keeper.Consistent

set_option autoImplicit false

namespace NowNext

def Effect.cycle? : Effect → Option (Option Instant)
  | .note (.resolved reference _) => some (some reference)
  | .note (.aborted ..) => some none
  | _ => none

def Journal.cycles (journal : Journal) : List (Option Instant) := journal.filterMap Effect.cycle?

namespace Effect

end Effect

namespace Keeper

variable {C : Type} {world : Surroundings C} {before after : Keeper C}

theorem cancel_status (keeper : Keeper C) : keeper.cancel.status = keeper.status :=
  congrArg Standing.status (standing_cancel keeper)

def Follows (world : Surroundings C) (latest : Option (Option Instant)) (keeper : Keeper C) : Prop :=
  keeper.journal.cycles.head? ∈ [latest, some none, some (some world.reference)]

end Keeper

namespace Standing

variable {C : Type} [Calendar C] {filter : Except SetupFault (Option Filter)} {world : Surroundings C}
  {before after : Standing C}

end Standing

namespace Run

variable {C : Type} [Calendar C]

end Run

end NowNext
