import Mathlib.Logic.Relation
import NowNext.Proofs.Keeper.Histories
import NowNext.Proofs.Keeper.Standing

set_option autoImplicit false

namespace NowNext

def Notice.isRemark : Notice → Bool
  | armed .. | cancelled .. | fired _ | resolved .. | aborted .. => false
  | _ => true

namespace Keeper

variable {C : Type}

-- The board is resolved only at the reference instant, and only then is the keeper online. A number is
-- told as fired when its wake-up is claimed.
inductive Act (world : Surroundings C) : Keeper C → Keeper C → Prop where
  | remark (keeper : Keeper C) (notice : Notice) : notice.isRemark = true → Act world keeper (keeper.note notice)
  | hand (keeper : Keeper C) (board : Board) : Act world keeper (keeper.add (.publish board))
  | turn (keeper : Keeper C) (phase : Phase) : Act world keeper { keeper with phase }
  | fetch (keeper : Keeper C) (calendar : Option C) : Act world keeper { keeper with calendar }
  | report (keeper : Keeper C) (status : Status) : status ≠ .online → Act world keeper (setStatus world status keeper)
  | resolve (keeper : Keeper C) (board : Board) :
      Act world keeper ((setStatus world .online keeper).note (.resolved world.reference board))
  | abort (keeper : Keeper C) (phase : Phase) (fault : Fault) :
      Act world keeper ((setStatus world (.ofFault fault) keeper).note (.aborted phase fault))
  | cancel (keeper : Keeper C) : Act world keeper keeper.cancel
  | arm (keeper : Keeper C) (target : Instant) :
      Act world keeper (keeper.arm world.elapsed world.reference target)
  | claim (keeper : Keeper C) (generation : Nat) : keeper.alarm.holds generation = true →
      Act world keeper ({ keeper with alarm := keeper.alarm.claim generation }.note (.fired generation))

abbrev Acts (world : Surroundings C) : Keeper C → Keeper C → Prop := Relation.ReflTransGen (Act world)

section Doings

variable (world : Surroundings C) (keeper : Keeper C)

theorem note_fault_acts (notice : Fault → Notice) (fault : Option Fault)
    (remark : ∀ fault, (notice fault).isRemark = true) : Acts world keeper (keeper.noteFault notice fault) := by
  cases fault with
  | none => exact .refl
  | some fault => exact .single (.remark keeper _ (remark fault))

theorem abort_acts (phase : Phase) (fault : Fault) : Acts world keeper (keeper.abort world phase fault).keeper := by
  have cancelled : Acts world keeper keeper.cancel := .single (.cancel keeper)
  have turned := cancelled.tail (.turn keeper.cancel phase)
  exact turned.tail (.abort _ phase fault)

theorem wait_acts : Acts world keeper (keeper.wait world) := by
  have cancelled : Acts world keeper keeper.cancel := .single (.cancel keeper)
  have turned := cancelled.tail (.turn keeper.cancel .waiting)
  exact turned.tail (.report _ _ (by simp))

theorem publish_acts (board : Board) : Acts world keeper (publish world board keeper).keeper := by
  have handed : Acts world keeper (keeper.add (.publish board)) := .single (.hand keeper board)
  exact handed.trans (note_fault_acts world _ _ _ fun _ => rfl)

theorem note_dangling_acts : Acts world keeper (keeper.noteDangling world) := by
  rcases note_dangling_either world keeper with same | ⟨field, told⟩
  · rw [same]
  · rw [told]
    exact .single (.remark keeper _ rfl)

theorem note_again_acts : Acts world keeper (if keeper.phase = .uninitialized then keeper
    else keeper.note (.initializedAgain keeper.phase)) := by
  rcases again_either keeper with same | told
  · rw [same]
  · rw [told]
    exact .single (.remark keeper _ rfl)

theorem dispose_acts : Acts world keeper keeper.dispose := by
  unfold dispose
  by_cases disposed : keeper.phase = .disposed
  · rw [if_pos disposed]
  · rw [if_neg disposed]
    have cancelled : Acts world keeper keeper.cancel := .single (.cancel keeper)
    have released := cancelled.tail (.fetch keeper.cancel none)
    exact (released.tail (.turn _ .disposed)).tail (.remark _ _ rfl)

variable [Calendar C]

theorem reschedule_acts : Acts world keeper (reschedule world world.reference keeper).keeper := by
  have cancelled : Acts world keeper keeper.cancel := .single (.cancel keeper)
  unfold reschedule
  cases boundary : Board.nextBoundary keeper.calendar world.reference with
  | ok next =>
      cases next with
      | some target => exact .single (.arm keeper target)
      | none => exact cancelled.tail (.remark _ _ rfl)
  | error cause =>
      have told := cancelled.tail (.remark keeper.cancel (.unscheduled cause) rfl)
      refine told.tail (.report _ _ ?_)
      cases cause <;> simp [Status.ofFeedFault]

theorem display_acts (board : Board) : Acts world keeper (display world world.reference board keeper).keeper := by
  have resolved : Acts world keeper ((setStatus world .online keeper).note (.resolved world.reference board)) :=
    .single (.resolve keeper board)
  exact (resolved.trans (publish_acts world _ board)).trans (reschedule_acts world _)

theorem cycle_acts : Acts world keeper (cycle world keeper).keeper := by
  unfold cycle
  cases world.feed with
  | none => exact abort_acts world keeper _ _
  | some feed =>
      by_cases online : feed.link = .online
      · simp only [online, ne_eq, not_true_eq_false, if_false]
        cases world.filter with
        | error cause => exact abort_acts world keeper _ _
        | ok filter =>
            have fetched : Acts world keeper (keeper.fetchMissing feed) := .single (.fetch keeper _)
            have ready := fetched.tail (.turn _ .ready)
            cases resolved : Board.resolve (keeper.fetchMissing feed).calendar world.reference filter with
            | error cause =>
                simp only [resolved]
                exact ready.trans (abort_acts world _ _ _)
            | ok board =>
                simp only [resolved]
                exact ready.trans (display_acts world _ board)
      · simp only [online, ne_eq, not_false_eq_true, if_true]
        exact abort_acts world keeper _ _

theorem start_acts : Acts world keeper (keeper.start world).keeper := by
  unfold start
  by_cases disposed : keeper.phase = .disposed
  · rw [if_pos disposed]
  · rw [if_neg disposed]
    have again := note_again_acts world keeper
    cases world.feed with
    | none => exact again.trans (abort_acts world _ _ _)
    | some feed =>
        have told := again.trans (note_dangling_acts world _)
        cases world.filter with
        | error cause => exact told.trans (abort_acts world _ _ _)
        | ok filter =>
            by_cases online : feed.link = .online
            · simp only [online, ne_eq, not_true_eq_false, if_false]
              have ready := told.tail (.turn _ .ready)
              have unknown := ready.tail (.report _ .unknown (by simp))
              have fetched := unknown.tail (.fetch _ feed.calendar)
              exact fetched.trans (cycle_acts world _)
            · simp only [online, ne_eq, not_false_eq_true, if_true]
              exact told.trans (wait_acts world _)

theorem link_acts (link : Link) : Acts world keeper (keeper.linkChanged world link).keeper := by
  unfold linkChanged
  by_cases listens : keeper.phase.listens = true
  · rw [if_pos listens]
    cases link with
    | online => exact cycle_acts world keeper
    | offline => exact wait_acts world keeper
    | unknown => exact .single (.report keeper .unknown (by simp))
  · rw [if_neg listens]
    exact .single (.remark keeper _ rfl)

theorem wake_acts (generation : Nat) : Acts world keeper (keeper.wake world generation) := by
  unfold wake
  by_cases disposed : keeper.phase = .disposed
  · rw [if_pos disposed]
  · rw [if_neg disposed]
    by_cases own : keeper.alarm.holds generation = true
    · rw [if_pos own]
      have claimed : Acts world keeper ({ keeper with alarm := keeper.alarm.claim generation }.note
          (.fired generation)) := .single (.claim keeper generation own)
      exact (claimed.trans (cycle_acts world _)).trans (note_fault_acts world _ _ _ fun _ => rfl)
    · rw [if_neg own]
      exact .single (.remark keeper _ rfl)

theorem handle_acts (trigger : Trigger) : Acts world keeper (keeper.handle world trigger).keeper := by
  cases trigger with
  | start => exact start_acts world keeper
  | refresh =>
      unfold handle refresh
      by_cases listens : keeper.phase.listens = true
      · rw [if_pos listens]
        exact cycle_acts world keeper
      · rw [if_neg listens]
        exact .single (.remark keeper _ rfl)
  | calendarUpdated =>
      unfold handle calendarUpdated
      by_cases listens : keeper.phase.listens = true
      · rw [if_pos listens]
        have fetched : Acts world keeper { keeper with calendar := world.feed.bind (·.calendar) } :=
          .single (.fetch keeper _)
        exact fetched.trans (cycle_acts world _)
      · rw [if_neg listens]
        exact .single (.remark keeper _ rfl)
  | linkChanged link => exact link_acts world keeper link
  | dispose => exact dispose_acts world keeper
  | wake generation => exact wake_acts world keeper generation

end Doings

section Reading

variable {α : Type} {read : Effect → Option α}
  (remarks : ∀ notice : Notice, notice.isRemark = true → read (.note notice) = none)
include remarks

theorem remark_read (keeper : Keeper C) (notice : Notice) (remark : notice.isRemark = true) :
    (keeper.note notice).journal.filterMap read = keeper.journal.filterMap read :=
  List.filterMap_cons_none (remarks notice remark)

theorem note_fault_read (keeper : Keeper C) (notice : Fault → Notice) (fault : Option Fault)
    (remark : ∀ fault, (notice fault).isRemark = true) :
    (keeper.noteFault notice fault).journal.filterMap read = keeper.journal.filterMap read := by
  cases fault with
  | none => rfl
  | some fault => exact remark_read remarks keeper _ (remark fault)

theorem set_status_read (reports : ∀ status, read (.report status) = none) (world : Surroundings C)
    (keeper : Keeper C) (status : Status) :
    (setStatus world status keeper).journal.filterMap read = keeper.journal.filterMap read := by
  unfold setStatus
  by_cases same : keeper.status = status
  · rw [if_pos same]
  · rw [if_neg same]
    have told := remark_read remarks { keeper with status } (.statusChanged status) rfl
    have reported := (List.filterMap_cons_none (reports status)).trans told
    exact (note_fault_read remarks _ _ _ fun _ => rfl).trans reported

end Reading

theorem cancel_journal (keeper : Keeper C) :
    keeper.cancel.journal = (keeper.alarm.cancelNotice?.map Effect.note).toList ++ keeper.journal := by
  unfold cancel
  cases keeper.alarm.cancelNotice? <;> rfl

theorem acts_preserve {world : Surroundings C} {holds : Keeper C → Prop}
    (kept : ∀ before after, Act world before after → holds before → holds after) {before after : Keeper C}
    (acts : Acts world before after) (held : holds before) : holds after := by
  induction acts with
  | refl => exact held
  | tail _ act ih => exact kept _ _ act ih

theorem acts_lasting [Calendar C] {holds : Keeper C → Prop} (settings : Settings) (isAttached : Bool)
    (kept : ∀ (world : Surroundings C) (before after : Keeper C), Act world before after → holds before → holds after)
    (asleep : ∀ (keeper : Keeper C) (sleepers : List Sleeper), holds keeper →
      holds { keeper with alarm.sleepers := sleepers }) : Lasting settings isAttached holds :=
  ⟨fun world keeper trigger _ _ held => acts_preserve (kept world) (handle_acts world keeper trigger) held,
    fun keeper sleepers _ => asleep keeper sleepers⟩

end Keeper

end NowNext
