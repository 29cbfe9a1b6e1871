import NowNext.Proofs.Keeper.Acts
import NowNext.Proofs.Keeper.Standing

set_option autoImplicit false

namespace NowNext

namespace Surroundings

variable {C : Type}

def effective (world : Surroundings C) (calendar : Option C) : Option C :=
  calendar.or (world.feed.bind (·.calendar))

def outlook [Calendar C] (world : Surroundings C) (calendar : Option C) : Except (Phase × Fault) Board :=
  match world.feed with
  | none => .error (.misconfigured, .setup .missingFeed)
  | some feed =>
      if feed.link ≠ .online then .error (.waiting, .feed .offline)
      else
        match world.filter with
        | .error cause => .error (.misconfigured, .setup cause)
        | .ok filter =>
            (Board.resolve calendar world.reference filter).mapError fun cause => (.ready, .feed cause)

end Surroundings

def Publisher.Replied (publisher : Publisher) (before after : Journal) (reply : Option Fault) : Prop :=
  ∃ board earlier, before <:+ earlier ∧ .publish board :: earlier <:+ after ∧
    reply = publisher (.publish board :: earlier)

theorem Publisher.replied_within {publisher : Publisher} {outer before after : Journal} {reply : Option Fault}
    (begins : outer <:+ before) (replied : publisher.Replied before after reply) :
    publisher.Replied outer after reply := by
  obtain ⟨board, earlier, handed, told, said⟩ := replied
  exact ⟨board, earlier, begins.trans handed, told, said⟩

namespace Keeper

variable {C : Type} {world left right : Surroundings C} {before after one other : Keeper C}

def Answered (left right : Publisher) (one other : Keeper C) (first second : Outcome C) : Prop :=
  first.fault = second.fault ∨ left.Replied one.journal first.keeper.journal first.fault ∧
    right.Replied other.journal second.keeper.journal second.fault

theorem answered_within {left right : Publisher} {here there : Keeper C} {first second : Outcome C}
    (begins : one.journal <:+ here.journal) (begun : other.journal <:+ there.journal)
    (answered : Answered left right here there first second) : Answered left right one other first second := by
  rcases answered with same | ⟨replied, answer⟩
  · exact .inl same
  · exact .inr ⟨Publisher.replied_within begins replied, Publisher.replied_within begun answer⟩

theorem note_fault_grows (keeper : Keeper C) (notice : Fault → Notice) (fault : Option Fault) :
    keeper.journal <:+ (keeper.noteFault notice fault).journal := by
  cases fault with
  | none => exact List.suffix_rfl
  | some fault => exact List.suffix_cons _ _

theorem set_status_grows (world : Surroundings C) (keeper : Keeper C) (status : Status) :
    keeper.journal <:+ (setStatus world status keeper).journal := by
  unfold setStatus
  split
  · exact List.suffix_rfl
  · let reported := ({ keeper with status }.note (.statusChanged status)).add (.report status)
    have told : keeper.journal <:+ reported.journal := (List.suffix_cons _ _).trans (List.suffix_cons _ _)
    exact told.trans (note_fault_grows reported _ _)

theorem cancel_grows (keeper : Keeper C) : keeper.journal <:+ keeper.cancel.journal := by
  rw [cancel_journal]
  exact List.suffix_append _ _

theorem act_grows (act : Act world before after) : before.journal <:+ after.journal := by
  cases act with
  | remark | hand | claim => exact List.suffix_cons _ _
  | turn | fetch => exact List.suffix_rfl
  | report status => exact set_status_grows world before status
  | resolve | abort => exact (set_status_grows world before _).trans (List.suffix_cons _ _)
  | cancel => exact cancel_grows before
  | arm => exact (cancel_grows before).trans (List.suffix_cons _ _)

theorem acts_grow (acts : Acts world before after) : before.journal <:+ after.journal := by
  induction acts with
  | refl => exact List.suffix_rfl
  | tail _ act ih => exact ih.trans (act_grows act)

def again (keeper : Keeper C) : Keeper C :=
  if keeper.phase = .uninitialized then keeper else keeper.note (.initializedAgain keeper.phase)

theorem told_standing (world : Surroundings C) (keeper : Keeper C) :
    (keeper.again.noteDangling world).standing = keeper.standing :=
  (standing_note_dangling world _).trans (standing_again keeper)

def opened (world : Surroundings C) (calendar : Option C) (keeper : Keeper C) : Keeper C :=
  { setStatus world .unknown { keeper.again.noteDangling world with phase := .ready } with calendar }

theorem opened_grows (world : Surroundings C) (calendar : Option C) (keeper : Keeper C) :
    keeper.journal <:+ (keeper.opened world calendar).journal := by
  have told := acts_grow ((note_again_acts world keeper).trans (note_dangling_acts world _))
  exact told.trans (set_status_grows world { keeper.again.noteDangling world with phase := .ready } .unknown)

theorem abort_turned (keeper : Keeper C) (former phase : Phase) (fault : Fault) :
    { keeper with phase := former }.abort world phase fault = keeper.abort world phase fault := by
  obtain ⟨_, status, calendar, ⟨pending, issued, sleepers, bound⟩, journal⟩ := keeper
  cases pending <;> rfl

variable [Calendar C]

theorem fetch_missing_blank (feed : Feed C) (keeper : Keeper C) {reference : Instant} {filter : Option Filter}
    {cause : FeedFault}
    (blank : Board.resolve (keeper.fetchMissing feed).calendar reference filter = .error cause) :
    keeper.fetchMissing feed = keeper := by
  cases held : keeper.calendar with
  | none =>
      cases found : feed.calendar with
      | none =>
          rw [fetchMissing, held, found]
          exact congrArg (fun calendar => { keeper with calendar }) held.symm
      | some calendar =>
          rw [fetchMissing, held, found] at blank
          cases blank
  | some calendar =>
      rw [fetchMissing, held] at blank
      cases blank

theorem cycle_outlook (world : Surroundings C) (keeper : Keeper C) :
    cycle world keeper = match world.outlook (world.effective keeper.calendar) with
      | .error (phase, fault) => keeper.abort world phase fault
      | .ok board => display world world.reference board
          { keeper with phase := .ready, calendar := world.effective keeper.calendar } := by
  unfold cycle Surroundings.outlook
  cases connected : world.feed with
  | none => rfl
  | some feed =>
      have source : world.effective keeper.calendar = (keeper.fetchMissing feed).calendar := by
        rw [Surroundings.effective, connected]
        rfl
      by_cases online : feed.link = .online
      · simp only [online, ne_eq, not_true_eq_false, if_false]
        cases selected : world.filter with
        | error cause => rfl
        | ok filter =>
            simp only [source]
            cases resolved : Board.resolve (keeper.fetchMissing feed).calendar world.reference filter with
            | ok board => rfl
            | error cause =>
                rw [fetch_missing_blank feed keeper resolved]
                exact abort_turned keeper .ready .ready (.feed cause)
      · simp only [online, ne_eq, not_false_eq_true, if_true]

theorem cycle_refused {world : Surroundings C} {keeper : Keeper C} {phase : Phase} {fault : Fault}
    (refused : world.outlook (world.effective keeper.calendar) = .error (phase, fault)) :
    cycle world keeper = keeper.abort world phase fault := by
  rw [cycle_outlook, refused]

theorem cycle_displays {world : Surroundings C} {keeper : Keeper C} {board : Board}
    (found : world.outlook (world.effective keeper.calendar) = .ok board) :
    cycle world keeper = display world world.reference board
      { keeper with phase := .ready, calendar := world.effective keeper.calendar } := by
  rw [cycle_outlook, found]

theorem start_alive (world : Surroundings C) {keeper : Keeper C} (alive : keeper.phase ≠ .disposed) :
    keeper.start world = match world.feed with
      | none => keeper.again.abort world .misconfigured (.setup .missingFeed)
      | some feed =>
          match world.filter with
          | .error cause => (keeper.again.noteDangling world).abort world .misconfigured (.setup cause)
          | .ok _ =>
              if feed.link ≠ .online then ⟨(keeper.again.noteDangling world).wait world, none⟩
              else cycle world (keeper.opened world feed.calendar) :=
  if_neg alive

theorem reschedule_fault (world : Surroundings C) (reference : Instant) (keeper : Keeper C) :
    (reschedule world reference keeper).fault = match Board.nextBoundary keeper.calendar reference with
      | .ok _ => none
      | .error cause => some (.feed cause) := by
  unfold reschedule
  cases Board.nextBoundary keeper.calendar reference with
  | error cause => rfl
  | ok next => cases next <;> rfl

theorem display_fault (world : Surroundings C) (board : Board) (keeper : Keeper C) :
    (display world world.reference board keeper).fault =
      match Board.nextBoundary keeper.calendar world.reference with
        | .ok _ => (publish world board ((setStatus world .online keeper).note (.resolved world.reference board))).fault
        | .error cause => some (.feed cause) := by
  have calendar := congrArg Standing.calendar (standing_published world keeper world.reference board)
  change (publish world board _).keeper.calendar = keeper.calendar at calendar
  change Option.or (reschedule world world.reference _).fault _ = _
  rw [reschedule_fault, calendar]
  cases Board.nextBoundary keeper.calendar world.reference with
  | error cause => rfl
  | ok next => rfl

theorem display_hands (world : Surroundings C) (board : Board) (keeper : Keeper C) :
    let online := (setStatus world .online keeper).note (.resolved world.reference board)
    keeper.journal <:+ online.journal ∧
      .publish board :: online.journal <:+ (display world world.reference board keeper).keeper.journal := by
  intro online
  have resolved : Acts world keeper online := .single (.resolve keeper board)
  have told := note_fault_grows (online.add (.publish board)) .unpublished
    (world.publisher (.publish board :: online.journal))
  have scheduled := acts_grow (reschedule_acts world (publish world board online).keeper)
  exact ⟨acts_grow resolved, told.trans scheduled⟩

theorem display_replied (world : Surroundings C) (board : Board) (keeper : Keeper C) (next : Option Instant)
    (boundary : Board.nextBoundary keeper.calendar world.reference = .ok next) :
    world.publisher.Replied keeper.journal (display world world.reference board keeper).keeper.journal
      (display world world.reference board keeper).fault := by
  obtain ⟨resolved, handed⟩ := display_hands world board keeper
  rw [display_fault, boundary]
  exact ⟨board, _, resolved, handed, rfl⟩

theorem display_answered (calendar : one.calendar = other.calendar) (reference : left.reference = right.reference)
    (board shown : Board) :
    Answered left.publisher right.publisher one other (display left left.reference board one)
      (display right right.reference shown other) := by
  cases boundary : Board.nextBoundary other.calendar right.reference with
  | ok next =>
      have before : Board.nextBoundary one.calendar left.reference = .ok next := by
        rw [calendar, reference]
        exact boundary
      exact .inr ⟨display_replied left board one next before, display_replied right shown other next boundary⟩
  | error cause =>
      refine .inl ?_
      rw [display_fault, display_fault, calendar, reference, boundary]

end Keeper

end NowNext
