import NowNext.Proofs.Keeper.Disposal
import NowNext.Proofs.Keeper.Outlook

set_option autoImplicit false

namespace NowNext

def LooksAlike (C : Type) [Calendar C] {β : Type} (view : Update → β) :
    Except SetupFault (Option Filter) → Except SetupFault (Option Filter) → Prop
  | .ok one, .ok other => ∀ (calendar : Option C) (t : Instant),
      (Board.resolve calendar t one).map (view ∘ .board) = (Board.resolve calendar t other).map (view ∘ .board)
  | .error cause, .error reason => cause = reason
  | _, _ => False

theorem looks_alike_cases {C β : Type} [Calendar C] {view : Update → β}
    {left right : Except SetupFault (Option Filter)} (alike : LooksAlike C view left right) :
    (∃ cause, left = .error cause ∧ right = .error cause) ∨
      ∃ one other, left = .ok one ∧ right = .ok other ∧ ∀ (calendar : Option C) (t : Instant),
        (Board.resolve calendar t one).map (view ∘ .board) =
          (Board.resolve calendar t other).map (view ∘ .board) := by
  cases left with
  | error cause =>
      cases right with
      | error reason =>
          cases alike
          exact .inl ⟨cause, rfl, rfl⟩
      | ok other => exact alike.elim
  | ok one =>
      cases right with
      | error reason => exact alike.elim
      | ok other => exact .inr ⟨one, other, rfl, rfl, alike⟩

namespace Publisher

def answers (publisher : Publisher) : Journal → List (Option Fault)
  | [] => []
  | effect :: earlier =>
      match effect.update? with
      | some _ => publisher (effect :: earlier) :: publisher.answers earlier
      | none => publisher.answers earlier

theorem answers_length (publisher : Publisher) (journal : Journal) :
    (publisher.answers journal).length = journal.updates.length := by
  induction journal with
  | nil => rfl
  | cons effect earlier ih =>
      cases effect with
      | note => exact ih
      | publish | report => exact congrArg (· + 1) ih

theorem answers_grow (publisher : Publisher) {before after : Journal} (grown : before <:+ after) :
    publisher.answers before <:+ publisher.answers after := by
  obtain ⟨later, rfl⟩ := grown
  induction later with
  | nil => exact List.suffix_rfl
  | cons effect later ih =>
      cases effect with
      | note => exact ih
      | publish | report => exact ih.trans (List.suffix_cons _ _)

-- Two boards that are handed over after as many updates get the same answer, if all that the publishers
-- ever say is the same.
theorem same_answer {left right : Publisher} {board shown : Board} {earlier before last final : Journal}
    (told : .publish board :: earlier <:+ last) (handed : .publish shown :: before <:+ final)
    (many : earlier.updates.length = before.updates.length) (same : left.answers last = right.answers final) :
    left (.publish board :: earlier) = right (.publish shown :: before) := by
  have first := answers_grow left told
  have second := answers_grow right handed
  have length : (left.answers (.publish board :: earlier)).length =
      (right.answers (.publish shown :: before)).length := by
    rw [answers_length, answers_length]
    exact congrArg (· + 1) many
  rw [same] at first
  have equal := (List.suffix_of_suffix_length_le first second (Nat.le_of_eq length)).eq_of_length length
  exact (List.cons.inj equal).1

end Publisher

namespace Surroundings

variable {C β : Type} [Calendar C] {view : Update → β} {left right : Surroundings C}

structure Abreast (view : Update → β) (left right : Surroundings C) : Prop where
  feed : left.feed = right.feed
  reference : left.reference = right.reference
  elapsed : left.elapsed = right.elapsed
  filter : LooksAlike C view left.filter right.filter

theorem abreast_outlook (worlds : left.Abreast view right) (calendar : Option C) :
    (left.outlook calendar).map (view ∘ .board) = (right.outlook calendar).map (view ∘ .board) := by
  have swap (found : Except FeedFault Board) (told : FeedFault → Phase × Fault) :
      (found.mapError told).map (view ∘ .board) = (found.map (view ∘ .board)).mapError told := by
    cases found <;> rfl
  unfold outlook
  rw [worlds.feed, worlds.reference]
  cases right.feed with
  | none => rfl
  | some feed =>
      by_cases online : feed.link = .online
      · simp only [online, ne_eq, not_true_eq_false, if_false]
        rcases looks_alike_cases worlds.filter with
          ⟨cause, selected, chosen⟩ | ⟨one, other, selected, chosen, looks⟩
        · rw [selected, chosen]
        · simp only [selected, chosen, swap, looks]
      · simp only [online, ne_eq, not_false_eq_true, if_true]

end Surroundings

namespace Keeper

variable {C β : Type} {view : Update → β} {left right : Surroundings C} {one other : Keeper C}

structure Abreast (view : Update → β) (one other : Keeper C) : Prop where
  phase : one.phase = other.phase
  status : one.status = other.status
  calendar : one.calendar = other.calendar
  alarm : one.alarm = other.alarm
  seen : one.journal.updates.map view = other.journal.updates.map view

structure Paired (view : Update → β) (left right : Publisher) (one other : Keeper C) (first second : Outcome C) :
    Prop where
  abreast : first.keeper.Abreast view second.keeper
  answered : Answered left right one other first second
  agreed : ∀ last final, first.keeper.journal <:+ last → second.keeper.journal <:+ final →
    left.answers last = right.answers final → first.fault = second.fault

theorem paired_within {left right : Publisher} {here there : Keeper C} {first second : Outcome C}
    (paired : Paired view left right here there first second) (begins : one.journal <:+ here.journal)
    (begun : other.journal <:+ there.journal) : Paired view left right one other first second :=
  ⟨paired.abreast, answered_within begins begun paired.answered, paired.agreed⟩

theorem paired_same {left right : Publisher} {first second : Outcome C}
    (abreast : first.keeper.Abreast view second.keeper) (same : first.fault = second.fault) :
    Paired view left right one other first second :=
  ⟨abreast, .inl same, fun _ _ _ _ _ => same⟩

theorem abreast_refl (keeper : Keeper C) : keeper.Abreast view keeper := ⟨rfl, rfl, rfl, rfl, rfl⟩

theorem abreast_beside {here there : Keeper C} (abreast : one.Abreast view other) (near : one.Abreast view here)
    (far : other.Abreast view there) : here.Abreast view there where
  phase := near.phase.symm.trans (abreast.phase.trans far.phase)
  status := near.status.symm.trans (abreast.status.trans far.status)
  calendar := near.calendar.symm.trans (abreast.calendar.trans far.calendar)
  alarm := near.alarm.symm.trans (abreast.alarm.trans far.alarm)
  seen := near.seen.symm.trans (abreast.seen.trans far.seen)

theorem note_abreast (keeper : Keeper C) (notice : Notice) : keeper.Abreast view (keeper.note notice) :=
  ⟨rfl, rfl, rfl, rfl, rfl⟩

theorem note_fault_abreast (keeper : Keeper C) (notice : Fault → Notice) (fault : Option Fault) :
    keeper.Abreast view (keeper.noteFault notice fault) := by
  cases fault with
  | none => exact abreast_refl keeper
  | some fault => exact note_abreast keeper (notice fault)

theorem note_dangling_abreast (world : Surroundings C) (keeper : Keeper C) :
    keeper.Abreast view (keeper.noteDangling world) := by
  rcases note_dangling_either world keeper with same | ⟨field, told⟩
  · rw [same]
    exact abreast_refl keeper
  · rw [told]
    exact note_abreast keeper _

theorem again_abreast (keeper : Keeper C) : keeper.Abreast view keeper.again := by
  unfold again
  rcases again_either keeper with same | told
  · rw [same]
    exact abreast_refl keeper
  · rw [told]
    exact note_abreast keeper _

theorem cancel_beside (keeper : Keeper C) :
    { keeper with alarm := keeper.alarm.cancel }.Abreast view keeper.cancel := by
  obtain ⟨phase, status, calendar, ⟨pending, issued, sleepers, bound⟩, journal⟩ := keeper
  cases pending <;> exact ⟨rfl, rfl, rfl, rfl, rfl⟩

theorem arm_beside (keeper : Keeper C) (elapsed : Nat) (reference target : Instant) :
    { keeper with alarm := keeper.alarm.arm elapsed reference target }.Abreast view
      (keeper.arm elapsed reference target) := by
  obtain ⟨phase, status, calendar, ⟨pending, issued, sleepers, bound⟩, journal⟩ := keeper
  cases pending <;> exact ⟨rfl, rfl, rfl, rfl, rfl⟩

section Doings

variable (abreast : one.Abreast view other)
include abreast

theorem turn_abreast (phase : Phase) : { one with phase }.Abreast view { other with phase } :=
  ⟨rfl, abreast.status, abreast.calendar, abreast.alarm, abreast.seen⟩

theorem fetch_abreast (calendar : Option C) : { one with calendar }.Abreast view { other with calendar } :=
  ⟨abreast.phase, abreast.status, rfl, abreast.alarm, abreast.seen⟩

theorem cancel_abreast : one.cancel.Abreast view other.cancel := by
  have cleared : { one with alarm := one.alarm.cancel }.Abreast view { other with alarm := other.alarm.cancel } :=
    ⟨abreast.phase, abreast.status, abreast.calendar, congrArg Alarm.cancel abreast.alarm, abreast.seen⟩
  exact abreast_beside cleared (cancel_beside one) (cancel_beside other)

theorem arm_abreast (elapsed : Nat) (reference target : Instant) :
    (one.arm elapsed reference target).Abreast view (other.arm elapsed reference target) := by
  have armed : { one with alarm := one.alarm.arm elapsed reference target }.Abreast view
      { other with alarm := other.alarm.arm elapsed reference target } :=
    ⟨abreast.phase, abreast.status, abreast.calendar,
      congrArg (Alarm.arm · elapsed reference target) abreast.alarm, abreast.seen⟩
  exact abreast_beside armed (arm_beside one _ _ _) (arm_beside other _ _ _)

theorem set_status_abreast (left right : Surroundings C) (status : Status) :
    (setStatus left status one).Abreast view (setStatus right status other) := by
  unfold setStatus
  by_cases same : one.status = status
  · rw [if_pos same, if_pos (abreast.status.symm.trans same)]
    exact abreast
  · have differs : other.status ≠ status := fun met => same (abreast.status.trans met)
    rw [if_neg same, if_neg differs]
    have reported : (({ one with status }.note (.statusChanged status)).add (.report status)).Abreast view
        (({ other with status }.note (.statusChanged status)).add (.report status)) :=
      ⟨abreast.phase, rfl, abreast.calendar, abreast.alarm, congrArg (view (.status status) :: ·) abreast.seen⟩
    exact abreast_beside reported (note_fault_abreast _ _ _) (note_fault_abreast _ _ _)

theorem abort_abreast (left right : Surroundings C) (phase : Phase) (fault : Fault) :
    (one.abort left phase fault).keeper.Abreast view (other.abort right phase fault).keeper := by
  have turned := turn_abreast (cancel_abreast abreast) phase
  have idle := set_status_abreast turned left right (.ofFault fault)
  exact abreast_beside idle (note_abreast _ _) (note_abreast _ _)

theorem wait_abreast (left right : Surroundings C) : (one.wait left).Abreast view (other.wait right) :=
  set_status_abreast (turn_abreast (cancel_abreast abreast) .waiting) left right _

theorem publish_abreast (left right : Surroundings C) (board shown : Board)
    (looks : view (.board board) = view (.board shown)) :
    (publish left board one).keeper.Abreast view (publish right shown other).keeper := by
  have handed : (one.add (.publish board)).Abreast view (other.add (.publish shown)) :=
    ⟨abreast.phase, abreast.status, abreast.calendar, abreast.alarm, congrArg₂ List.cons looks abreast.seen⟩
  exact abreast_beside handed (note_fault_abreast _ _ _) (note_fault_abreast _ _ _)

theorem dispose_abreast : one.dispose.Abreast view other.dispose := by
  unfold dispose
  by_cases disposed : one.phase = .disposed
  · rw [if_pos disposed, if_pos (abreast.phase.symm.trans disposed)]
    exact abreast
  · have alive : other.phase ≠ .disposed := fun ended => disposed (abreast.phase.trans ended)
    rw [if_neg disposed, if_neg alive]
    have released := turn_abreast (fetch_abreast (cancel_abreast abreast) none) .disposed
    exact abreast_beside released (note_abreast _ _) (note_abreast _ _)

variable [Calendar C] (worlds : left.Abreast view right)
include worlds

theorem reschedule_abreast :
    (reschedule left left.reference one).keeper.Abreast view (reschedule right right.reference other).keeper := by
  unfold reschedule
  rw [worlds.reference, worlds.elapsed, abreast.calendar]
  have cancelled := cancel_abreast abreast
  cases Board.nextBoundary other.calendar right.reference with
  | ok next =>
      cases next with
      | some target => exact arm_abreast abreast _ _ target
      | none => exact abreast_beside cancelled (note_abreast _ _) (note_abreast _ _)
  | error cause =>
      have told := abreast_beside cancelled (note_abreast _ (.unscheduled cause)) (note_abreast _ (.unscheduled cause))
      exact set_status_abreast told left right _

theorem display_paired (board shown : Board) (looks : view (.board board) = view (.board shown)) :
    Paired view left.publisher right.publisher one other (display left left.reference board one)
      (display right right.reference shown other) := by
  have resolved : ((setStatus left .online one).note (.resolved left.reference board)).Abreast view
      ((setStatus right .online other).note (.resolved right.reference shown)) :=
    abreast_beside (set_status_abreast abreast left right .online) (note_abreast _ _) (note_abreast _ _)
  have published := publish_abreast resolved left right board shown looks
  refine ⟨reschedule_abreast published worlds, display_answered abreast.calendar worlds.reference board shown, ?_⟩
  intro last final grown risen same
  have handed := (display_hands left board one).2.trans grown
  have given := (display_hands right shown other).2.trans risen
  have many := congrArg List.length resolved.seen
  rw [List.length_map, List.length_map] at many
  rw [display_fault, display_fault, abreast.calendar, worlds.reference]
  rw [worlds.reference] at handed many
  cases Board.nextBoundary other.calendar right.reference with
  | error cause => rfl
  | ok next => exact Publisher.same_answer handed given many same

theorem cycle_paired :
    Paired view left.publisher right.publisher one other (cycle left one) (cycle right other) := by
  have source : left.effective one.calendar = right.effective other.calendar := by
    rw [Surroundings.effective, Surroundings.effective, worlds.feed, abreast.calendar]
  have looks : (left.outlook (left.effective one.calendar)).map (view ∘ .board) =
      (right.outlook (right.effective other.calendar)).map (view ∘ .board) := by
    rw [source]
    exact Surroundings.abreast_outlook worlds _
  cases found : left.outlook (left.effective one.calendar) with
  | error refusal =>
      cases met : right.outlook (right.effective other.calendar) with
      | error reason =>
          rw [found, met] at looks
          cases Except.error.inj looks
          rw [cycle_refused found, cycle_refused met]
          exact paired_same (abort_abreast abreast left right _ _) rfl
      | ok shown =>
          rw [found, met] at looks
          cases looks
  | ok board =>
      cases met : right.outlook (right.effective other.calendar) with
      | error reason =>
          rw [found, met] at looks
          cases looks
      | ok shown =>
          rw [found, met] at looks
          rw [cycle_displays found, cycle_displays met, source]
          have ready := fetch_abreast (turn_abreast abreast .ready) (right.effective other.calendar)
          exact paired_within (display_paired ready worlds board shown (Except.ok.inj looks)) List.suffix_rfl
            List.suffix_rfl

theorem start_paired :
    Paired view left.publisher right.publisher one other (one.start left) (other.start right) := by
  by_cases disposed : one.phase = .disposed
  · rw [disposed_start left disposed, disposed_start right (abreast.phase.symm.trans disposed)]
    exact paired_same abreast rfl
  · have alive : other.phase ≠ .disposed := fun ended => disposed (abreast.phase.trans ended)
    rw [start_alive left disposed, start_alive right alive, worlds.feed]
    have again := abreast_beside abreast (again_abreast one) (again_abreast other)
    cases right.feed with
    | none => exact paired_same (abort_abreast again left right _ _) rfl
    | some feed =>
        have told := abreast_beside again (note_dangling_abreast left _) (note_dangling_abreast right _)
        rcases looks_alike_cases worlds.filter with
          ⟨cause, selected, chosen⟩ | ⟨first, second, selected, chosen, _⟩
        · rw [selected, chosen]
          exact paired_same (abort_abreast told left right _ _) rfl
        · rw [selected, chosen]
          by_cases online : feed.link = .online
          · simp only [online, ne_eq, not_true_eq_false, if_false]
            have unknown := set_status_abreast (turn_abreast told .ready) left right .unknown
            exact paired_within (cycle_paired (fetch_abreast unknown feed.calendar) worlds)
              (opened_grows left feed.calendar one) (opened_grows right feed.calendar other)
          · simp only [online, ne_eq, not_false_eq_true, if_true]
            exact paired_same (wait_abreast told left right) rfl

omit [Calendar C] worlds in
theorem heard_paired {p q : Publisher} {first second : Outcome C} (notice remark : Notice)
    (heard : Paired view p q one other first second) :
    Paired view p q one other (if one.phase.listens then first else ⟨one.note notice, none⟩)
      (if other.phase.listens then second else ⟨other.note remark, none⟩) := by
  rw [abreast.phase]
  by_cases listens : other.phase.listens = true
  · rw [if_pos listens, if_pos listens]
    exact heard
  · rw [if_neg listens, if_neg listens]
    exact paired_same (abreast_beside abreast (note_abreast _ _) (note_abreast _ _)) rfl

theorem refresh_paired :
    Paired view left.publisher right.publisher one other (one.refresh left) (other.refresh right) :=
  heard_paired abreast _ _ (cycle_paired abreast worlds)

theorem calendar_updated_paired :
    Paired view left.publisher right.publisher one other (one.calendarUpdated left) (other.calendarUpdated right) := by
  have fetched := fetch_abreast abreast (right.feed.bind (·.calendar))
  unfold calendarUpdated
  rw [worlds.feed]
  exact heard_paired abreast _ _ (paired_within (cycle_paired fetched worlds) List.suffix_rfl List.suffix_rfl)

theorem link_paired (link : Link) :
    Paired view left.publisher right.publisher one other (one.linkChanged left link)
      (other.linkChanged right link) := by
  refine heard_paired abreast _ _ ?_
  cases link with
  | online => exact cycle_paired abreast worlds
  | offline => exact paired_same (wait_abreast abreast left right) rfl
  | unknown => exact paired_same (set_status_abreast abreast left right .unknown) rfl

theorem wake_abreast (generation : Nat) : (one.wake left generation).Abreast view (other.wake right generation) := by
  have same : one.alarm.holds generation = other.alarm.holds generation := by rw [abreast.alarm]
  unfold wake
  by_cases disposed : one.phase = .disposed
  · rw [if_pos disposed, if_pos (abreast.phase.symm.trans disposed)]
    exact abreast
  · have alive : other.phase ≠ .disposed := fun ended => disposed (abreast.phase.trans ended)
    rw [if_neg disposed, if_neg alive]
    by_cases own : one.alarm.holds generation = true
    · rw [if_pos own, if_pos (same.symm.trans own)]
      have claimed : { one with alarm := one.alarm.claim generation }.Abreast view
          { other with alarm := other.alarm.claim generation } :=
        ⟨abreast.phase, abreast.status, abreast.calendar, congrArg (·.claim generation) abreast.alarm, abreast.seen⟩
      have fired := abreast_beside claimed (note_abreast _ (.fired generation)) (note_abreast _ (.fired generation))
      have cycled := (cycle_paired fired worlds).abreast
      exact abreast_beside cycled (note_fault_abreast _ _ _) (note_fault_abreast _ _ _)
    · rw [if_neg own, if_neg (same ▸ own)]
      exact abreast_beside abreast (note_abreast _ _) (note_abreast _ _)

theorem handle_paired (trigger : Trigger) :
    Paired view left.publisher right.publisher one other (one.handle left trigger) (other.handle right trigger) := by
  cases trigger with
  | start => exact start_paired abreast worlds
  | refresh => exact refresh_paired abreast worlds
  | calendarUpdated => exact calendar_updated_paired abreast worlds
  | linkChanged link => exact link_paired abreast worlds link
  | dispose => exact paired_same (dispose_abreast abreast) rfl
  | wake generation => exact paired_same (wake_abreast abreast worlds generation) rfl

end Doings

end Keeper

end NowNext
