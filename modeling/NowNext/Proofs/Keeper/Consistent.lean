import NowNext.Proofs.Keeper.Histories
import NowNext.Proofs.Keeper.Standing

set_option autoImplicit false

namespace NowNext

section Faults

variable {C : Type} [Calendar C]

theorem Board.resolve_fault {calendar : Option C} {t : Instant} {filter : Option Filter} {cause : FeedFault}
    (failed : Board.resolve calendar t filter = .error cause) : cause = .noCalendar := by
  cases calendar with
  | none => exact (Except.error.inj failed).symm
  | some calendar => cases failed

theorem Board.present_end_fault {calendar : C} {t : Instant} {cause : FeedFault}
    (failed : Board.presentEnd calendar t = .error cause) : cause = .inconsistent t := by
  unfold Board.presentEnd at failed
  by_cases present : Calendar.isPresent calendar t = true
  · rw [if_pos present] at failed
    cases current : Calendar.current calendar t none with
    | none =>
        rw [current] at failed
        exact (Except.error.inj failed).symm
    | some event =>
        rw [current] at failed
        cases failed
  · rw [if_neg present] at failed
    cases failed

theorem Board.boundary_contradiction {calendar : C} {t : Instant} {cause : FeedFault}
    (failed : Board.nextBoundary (some calendar) t = .error cause) : cause = .inconsistent t := by
  unfold Board.nextBoundary at failed
  cases finish : Board.presentEnd calendar t with
  | error found =>
      simp only [finish] at failed
      cases failed
      exact Board.present_end_fault finish
  | ok finish =>
      simp only [finish] at failed
      cases failed

theorem Board.boundary_fault {calendar : Option C} {t : Instant} {cause : FeedFault}
    (failed : Board.nextBoundary calendar t = .error cause) : cause ≠ .offline := by
  cases calendar with
  | none =>
      cases failed
      simp
  | some calendar => simp [Board.boundary_contradiction failed]

theorem Status.of_calendar_fault {cause : FeedFault} (known : cause ≠ .offline) :
    ∃ reason, Status.ofFeedFault cause = .offline .communication (some reason) := by
  cases cause with
  | offline => exact absurd rfl known
  | noCalendar | inconsistent => exact ⟨_, rfl⟩

end Faults

namespace Standing

variable {C : Type}

-- A status that is offline tells why. Unknown is what the owner may make of any status meanwhile.
def Consistent (filter : Except SetupFault (Option Filter)) (isAttached : Bool) (standing : Standing C) : Prop :=
  match standing.phase with
  | .uninitialized => standing.status = .unknown ∧ standing.calendar = none ∧ standing.alarm.pending = none
  | .waiting => standing.alarm.pending = none ∧
      (standing.status = .unknown ∨ standing.status = .offline .feedOffline none)
  | .misconfigured => standing.alarm.pending = none ∧
      (standing.status = .unknown ∨ ∃ reason, standing.status = .offline .setup (some reason))
  | .ready => isAttached = true ∧ (∃ selected, filter = .ok selected) ∧
      (standing.status = .online ∨ standing.status = .unknown ∨
        (∃ reason, standing.status = .offline .communication (some reason)) ∧ standing.alarm.pending = none)
  | .disposed => standing.calendar = none ∧ standing.alarm.pending = none

variable {filter : Except SetupFault (Option Filter)} {isAttached : Bool} {before after : Standing C}

theorem misconfigured_consistent (cause : SetupFault) :
    (before.refused .misconfigured (.setup cause)).Consistent filter isAttached :=
  ⟨before.alarm.cancel_pending, .inr ⟨cause.message, rfl⟩⟩

theorem waiting_consistent : (before.refused .waiting (.feed .offline)).Consistent filter isAttached :=
  ⟨before.alarm.cancel_pending, .inr rfl⟩

theorem unknown_consistent (consistent : before.Consistent filter isAttached) :
    { before with status := .unknown }.Consistent filter isAttached := by
  obtain ⟨phase, status, calendar, alarm, boards, reference⟩ := before
  cases phase with
  | uninitialized => exact ⟨rfl, consistent.2⟩
  | waiting | misconfigured => exact ⟨consistent.1, .inl rfl⟩
  | ready => exact ⟨consistent.1, consistent.2.1, .inr (.inl rfl)⟩
  | disposed => exact consistent

theorem pending_consistent (consistent : before.Consistent filter isAttached)
    (set : before.alarm.pending.isSome = true) :
    before.phase = .ready ∧ (before.status = .online ∨ before.status = .unknown) := by
  obtain ⟨phase, status, calendar, alarm, boards, reference⟩ := before
  change alarm.pending.isSome = true at set
  have idle : alarm.pending ≠ none := by
    intro idle
    rw [idle] at set
    cases set
  cases phase with
  | ready =>
      refine ⟨rfl, ?_⟩
      rcases consistent.2.2 with online | unknown | ⟨_, cancelled⟩
      · exact .inl online
      · exact .inr unknown
      · exact absurd cancelled idle
  | uninitialized => exact absurd consistent.2.2 idle
  | waiting | misconfigured => exact absurd consistent.1 idle
  | disposed => exact absurd consistent.2 idle

theorem disposed_consistent (disposed : before.phase = .disposed) (consistent : before.Consistent filter isAttached) :
    before.calendar = none ∧ before.alarm.pending = none := by
  unfold Consistent at consistent
  rw [disposed] at consistent
  exact consistent

variable [Calendar C] {world : Surroundings C}

theorem cycled_consistent (cycled : Cycled world before after) :
    after.Consistent world.filter world.feed.isSome := by
  cases cycled with
  | missing | broken => exact misconfigured_consistent _
  | offline => exact waiting_consistent
  | blank feed filter cause connected _ selected failed =>
      rw [connected, selected]
      have known : cause ≠ .offline := by simp [Board.resolve_fault failed]
      exact ⟨rfl, ⟨filter, rfl⟩, .inr (.inr ⟨Status.of_calendar_fault known, before.alarm.cancel_pending⟩)⟩
  | shown feed filter board next connected _ selected =>
      rw [connected, selected]
      exact ⟨rfl, ⟨filter, rfl⟩, .inl rfl⟩
  | contradicted feed filter board cause connected _ selected _ failed =>
      rw [connected, selected]
      have explained := Status.of_calendar_fault (Board.boundary_fault failed)
      exact ⟨rfl, ⟨filter, rfl⟩, .inr (.inr ⟨explained, before.alarm.cancel_pending⟩)⟩

theorem handled_consistent (handled : Handled world before after)
    (consistent : before.Consistent world.filter world.feed.isSome) :
    after.Consistent world.filter world.feed.isSome := by
  cases handled with
  | ignored => exact consistent
  | unknown => exact unknown_consistent consistent
  | misconfigured cause => exact misconfigured_consistent cause
  | waiting => exact waiting_consistent
  | disposed => exact ⟨rfl, before.alarm.cancel_pending⟩
  | cycled phase status calendar after source cycled => exact cycled_consistent cycled

theorem consistent_lasting (settings : Settings) (isAttached : Bool) :
    Keeper.Lasting settings isAttached fun keeper : Keeper C =>
      keeper.standing.Consistent settings.filter isAttached := by
  constructor
  · intro world keeper trigger selected attached consistent
    rw [← selected, ← attached] at consistent ⊢
    rcases keeper.handle_either world trigger with handled | cycled
    · exact handled_consistent handled consistent
    · exact cycled_consistent cycled
  · intro keeper sleepers _ consistent
    exact consistent

end Standing

namespace Run

variable {C : Type} [Calendar C]

theorem through_consistent (settings : Settings) (publisher : Publisher) (feed : Option (Feed C))
    (incidents : List (Incident C)) :
    (({ feed } : Run C).through settings publisher incidents).feed.isSome = feed.isSome ∧
      (({ feed } : Run C).through settings publisher incidents).keeper.standing.Consistent settings.filter
        feed.isSome :=
  Keeper.through_lasting (Standing.consistent_lasting settings feed.isSome) publisher { feed } rfl
    ⟨rfl, rfl, rfl⟩ incidents

theorem fields_agree (settings : Settings) (publisher : Publisher) (feed : Option (Feed C))
    (incidents : List (Incident C)) :
    let run := ({ feed } : Run C).through settings publisher incidents
    run.keeper.standing.Consistent settings.filter run.feed.isSome ∧
      (run.keeper.alarm.pending.isSome = true →
        run.keeper.phase = .ready ∧ (run.keeper.status = .online ∨ run.keeper.status = .unknown)) := by
  intro run
  obtain ⟨attached, consistent⟩ := through_consistent settings publisher feed incidents
  constructor
  · rw [attached]
    exact consistent
  · exact Standing.pending_consistent consistent

def vigil : Run FixedAnswers :=
  { feed := some ⟨.online, some { next := some { title := "Last Post", start := .last, finish := .last } }⟩ }

def earlyWake : List (Incident FixedAnswers) :=
  [⟨.first, 0, .trigger .start⟩, ⟨.first, 5, .trigger (.wake 1)⟩, ⟨.first, 2, .trigger (.linkChanged .unknown)⟩]

theorem fields_agree_at_vigil :
    (vigil.through {} (fun _ => none) earlyWake).keeper.alarm.pending.isSome = true ∧
      (vigil.through {} (fun _ => none) earlyWake).keeper.phase = .ready := by
  have set : (vigil.through {} (fun _ => none) earlyWake).keeper.alarm.pending.isSome = true := by decide +kernel
  exact ⟨set, ((fields_agree {} (fun _ => none) vigil.feed earlyWake).2 set).1⟩

end Run

end NowNext
