import Mathlib.Data.List.Chain
import NowNext.Proofs.Keeper.Certified

set_option autoImplicit false

namespace NowNext

def Effect.status? : Effect → Option Status
  | .report status => some status
  | _ => none

def Journal.statuses (journal : Journal) : List Status := journal.filterMap Effect.status?

theorem Effect.remark_status (notice : Notice) (_ : notice.isRemark = true) : (Effect.note notice).status? = none := rfl

namespace Keeper

variable {C : Type} {world : Surroundings C} {before after : Keeper C}

-- Before anything is reported, the status is taken to be unknown.
structure Faithful (keeper : Keeper C) : Prop where
  latest : (keeper.journal.statuses ++ [Status.unknown]).head? = some keeper.status
  changes : (keeper.journal.statuses ++ [Status.unknown]).IsChain (· ≠ ·)

theorem faithful_same (faithful : before.Faithful) (status : after.status = before.status)
    (statuses : after.journal.statuses = before.journal.statuses) : after.Faithful := by
  constructor
  · rw [statuses, status]
    exact faithful.latest
  · rw [statuses]
    exact faithful.changes

theorem set_status_faithful (world : Surroundings C) (status : Status) (faithful : before.Faithful) :
    (setStatus world status before).Faithful := by
  unfold setStatus
  by_cases same : before.status = status
  · rw [if_pos same]
    exact faithful
  · rw [if_neg same]
    let reported := ({ before with status }.note (.statusChanged status)).add (.report status)
    have told : reported.Faithful := by
      refine ⟨rfl, List.isChain_cons.mpr ⟨?_, faithful.changes⟩⟩
      intro former latest
      rw [Option.mem_def] at latest
      rintro rfl
      exact same (Option.some.inj (faithful.latest.symm.trans latest))
    have silent := note_fault_read Effect.remark_status reported .statusUnreported
      (world.publisher reported.journal) fun _ => rfl
    refine faithful_same told ?_ silent
    exact congrArg Standing.status (standing_note_fault reported .statusUnreported _ fun _ => rfl)

theorem cancel_statuses (keeper : Keeper C) : keeper.cancel.journal.statuses = keeper.journal.statuses := by
  rw [cancel_journal, Journal.statuses, List.filterMap_append]
  cases keeper.alarm.cancelNotice? <;> rfl

theorem act_faithful (act : Act world before after) (faithful : before.Faithful) : after.Faithful := by
  cases act with
  | remark | hand | turn | fetch | claim => exact faithful_same faithful rfl rfl
  | report status => exact set_status_faithful world status faithful
  | resolve | abort => exact faithful_same (set_status_faithful world _ faithful) rfl rfl
  | cancel => exact faithful_same faithful (cancel_status before) (cancel_statuses before)
  | arm => exact faithful_same faithful (cancel_status before) (cancel_statuses before)

end Keeper

namespace Run

variable {C : Type} [Calendar C]

theorem reports_are_faithful (settings : Settings) (publisher : Publisher) (feed : Option (Feed C))
    (incidents : List (Incident C)) :
    let keeper := (({ feed } : Run C).through settings publisher incidents).keeper
    let reported := Status.unknown :: keeper.journal.statuses.reverse
    reported.IsChain (· ≠ ·) ∧ reported.getLast? = some keeper.status := by
  intro keeper reported
  have faithful : keeper.Faithful := (Keeper.through_lasting
    (Keeper.acts_lasting settings feed.isSome (fun _ _ _ => Keeper.act_faithful)
      fun _ _ faithful => ⟨faithful.latest, faithful.changes⟩)
    publisher { feed } rfl ⟨rfl, .singleton _⟩ incidents).2
  have turned : reported = (keeper.journal.statuses ++ [Status.unknown]).reverse := by
    rw [List.reverse_append]
    rfl
  constructor
  · rw [turned, List.isChain_reverse]
    exact faithful.changes.imp fun _ _ differs => differs.symm
  · rw [turned, List.getLast?_reverse]
    exact faithful.latest

example :
    let keeper := (vigil.through {} (fun _ => some (.publishing "full"))
      [⟨.first, 0, .trigger .start⟩, ⟨.first, 0, .trigger (.linkChanged .offline)⟩,
        ⟨.first, 0, .trigger (.linkChanged .offline)⟩, ⟨.first, 0, .trigger (.linkChanged .unknown)⟩,
        ⟨.first, 0, .trigger (.linkChanged .offline)⟩]).keeper
    keeper.journal.statuses.reverse =
      [.online, .offline .feedOffline none, .unknown, .offline .feedOffline none] := by
  decide +kernel

end Run

end NowNext
