import NowNext.Proofs.Keeper.Afresh
import NowNext.Proofs.Keeper.Moves

set_option autoImplicit false

namespace NowNext

def Fault.leaves? : Fault → Option Phase
  | .setup _ => some .misconfigured
  | .feed .offline => some .waiting
  | .feed _ => some .ready
  | .event _ | .publishing _ | .disposed => none

def Publisher.Modest (publisher : Publisher) : Prop :=
  ∀ journal fault, publisher journal = some fault → ∃ reason, fault = .publishing reason

namespace Standing

variable {C : Type}

-- The fault can be told from what is left, and no wake-up is. A board was handed over only where the
-- calendar contradicted itself afterwards.
structure Idled (fault : Fault) (before after : Standing C) : Prop where
  phase : fault.leaves? = some after.phase
  status : after.status = .ofFault fault
  pending : after.alarm.pending = none
  boards : after.boards = before.boards ∨ ∃ t, fault = .feed (.inconsistent t)

structure Served [Calendar C] (world : Surroundings C) (after : Standing C) : Prop where
  phase : after.phase = .ready
  status : after.status = .online
  armed : Board.nextBoundary after.calendar world.reference = .ok after.alarm.target?

inductive Spared (trigger : Trigger) (before : Standing C) : Standing C → Prop where
  | ignored : before.phase.listens = false → trigger ≠ .start → Spared trigger before before
  | stale (generation : Nat) : trigger = .wake generation →
      before.phase = .disposed ∨ before.alarm.holds generation = false → Spared trigger before before
  | unknown : trigger = .linkChanged .unknown → before.phase.listens = true →
      Spared trigger before { before with status := .unknown }
  | offline : trigger = .linkChanged .offline → before.phase.listens = true →
      Spared trigger before (before.refused .waiting (.feed .offline))
  | unconnected : trigger = .start → before.phase ≠ .disposed →
      Spared trigger before (before.refused .waiting (.feed .offline))
  | disposed : trigger = .dispose →
      Spared trigger before { before with phase := .disposed, calendar := none, alarm := before.alarm.cancel }

theorem refused_idled (before : Standing C) {phase : Phase} {fault : Fault} (leaves : fault.leaves? = some phase) :
    before.Idled fault (before.refused phase fault) :=
  ⟨leaves, rfl, before.alarm.cancel_pending, .inl rfl⟩

theorem spared_unshown {trigger : Trigger} {before after : Standing C} (spared : Spared trigger before after) :
    after.boards = before.boards ∧ after.alarm.issued = before.alarm.issued := by
  cases spared with
  | ignored | stale | unknown => exact ⟨rfl, rfl⟩
  | offline | unconnected | disposed => exact ⟨rfl, before.alarm.cancel_issued⟩

end Standing

theorem Surroundings.outlook_cases {C : Type} [Calendar C] (world : Surroundings C) (calendar : Option C) :
    (∃ phase fault, world.outlook calendar = .error (phase, fault) ∧ fault.leaves? = some phase) ∨
      ∃ feed filter held, world.feed = some feed ∧ world.filter = .ok filter ∧ calendar = some held ∧
        world.outlook calendar =
          .ok ⟨Calendar.current held world.reference filter, Calendar.next held world.reference filter⟩ := by
  unfold outlook
  cases connected : world.feed with
  | none => exact .inl ⟨.misconfigured, .setup .missingFeed, rfl, rfl⟩
  | some feed =>
      by_cases online : feed.link = .online
      · simp only [online, ne_eq, not_true_eq_false, if_false]
        cases selected : world.filter with
        | error cause => exact .inl ⟨.misconfigured, .setup cause, rfl, rfl⟩
        | ok filter =>
            cases calendar with
            | none => exact .inl ⟨.ready, .feed .noCalendar, rfl, rfl⟩
            | some held => exact .inr ⟨feed, filter, held, rfl, rfl, rfl, rfl⟩
      · simp only [online, ne_eq, not_false_eq_true, if_true]
        exact .inl ⟨.waiting, .feed .offline, rfl, rfl⟩

namespace Keeper

variable {C : Type} [Calendar C] {world : Surroundings C} {keeper : Keeper C}

inductive Ended (world : Surroundings C) (before : Keeper C) : Option Fault → Keeper C → Prop where
  | idle (fault : Fault) (after : Keeper C) : before.standing.Idled fault after.standing →
      Ended world before (some fault) after
  | served (reply : Option Fault) (after : Keeper C) : after.standing.Served world →
      (∀ fault, reply = some fault → ∃ journal, world.publisher journal = some fault) → Ended world before reply after

theorem cycle_ended (world : Surroundings C) (keeper : Keeper C) :
    Ended world keeper (cycle world keeper).fault (cycle world keeper).keeper := by
  rcases world.outlook_cases (world.effective keeper.calendar) with
    ⟨phase, fault, refused, leaves⟩ | ⟨_, _, held, _, _, source, found⟩
  · rw [cycle_refused refused]
    refine .idle _ _ ?_
    rw [standing_abort]
    exact Standing.refused_idled keeper.standing leaves
  · rw [cycle_displays found]
    cases boundary : Board.nextBoundary (world.effective keeper.calendar) world.reference with
    | ok next =>
        rw [display_fault, boundary]
        refine .served _ _ ?_ fun fault said => ⟨_, said⟩
        rw [standing_display world _ _ _ next boundary]
        refine ⟨rfl, rfl, ?_⟩
        rw [Alarm.follow_target]
        exact boundary
    | error cause =>
        rw [display_fault, boundary]
        refine .idle _ _ ?_
        rw [standing_contradicted world _ _ _ cause boundary]
        -- With a calendar at hand only a contradiction is left.
        rw [source] at boundary
        obtain rfl := Board.boundary_contradiction boundary
        exact ⟨rfl, rfl, keeper.alarm.cancel_pending, .inr ⟨world.reference, rfl⟩⟩

def begun? (world : Surroundings C) (keeper : Keeper C) : Trigger → Option (Keeper C)
  | .start =>
      match world.feed, world.filter with
      | some feed, .ok _ =>
          if keeper.phase ≠ .disposed ∧ feed.link = .online then some (keeper.opened world feed.calendar) else none
      | _, _ => none
  | .refresh | .linkChanged .online => if keeper.phase.listens then some keeper else none
  | .calendarUpdated =>
      if keeper.phase.listens then some { keeper with calendar := world.feed.bind (·.calendar) } else none
  | .wake generation =>
      if keeper.phase ≠ .disposed ∧ keeper.alarm.holds generation then
        some ({ keeper with alarm.pending := none }.note (.fired generation))
      else none
  | .linkChanged _ | .dispose => none

-- What a trigger ends with. Nobody is told how the cycle of a wake-up ended, but it may have failed.
def ending (world : Surroundings C) (keeper : Keeper C) (trigger : Trigger) : Option Fault :=
  match keeper.begun? world trigger with
  | some begun => (cycle world begun).fault
  | none => (keeper.handle world trigger).fault

-- What comes back of a cycle. That of a wake-up has nobody to fail to, and is only remarked on.
def returned (trigger : Trigger) (outcome : Outcome C) : Outcome C :=
  match trigger with
  | .wake _ => ⟨outcome.keeper.noteFault .wakeFailed outcome.fault, none⟩
  | _ => outcome

structure Begins (world : Surroundings C) (keeper : Keeper C) (trigger : Trigger) (begun : Keeper C) : Prop where
  boards : begun.journal.boards = keeper.journal.boards
  cycled : keeper.handle world trigger = returned trigger (cycle world begun)

omit [Calendar C] in
theorem returned_standing (trigger : Trigger) (outcome : Outcome C) :
    (returned trigger outcome).keeper.standing = outcome.keeper.standing := by
  cases trigger with
  | wake generation => exact standing_note_fault _ _ _ fun _ => rfl
  | start | refresh | calendarUpdated | linkChanged | dispose => rfl

theorem start_begins {begun : Keeper C} (begins : keeper.begun? world .start = some begun) :
    keeper.Begins world .start begun := by
  unfold begun? at begins
  cases connected : world.feed with
  | none =>
      rw [connected] at begins
      cases begins
  | some feed =>
      cases selected : world.filter with
      | error cause =>
          rw [connected, selected] at begins
          cases begins
      | ok filter =>
          rw [connected, selected] at begins
          obtain ⟨⟨alive, online⟩, same⟩ := Option.ite_none_right_eq_some.mp begins
          cases same
          refine ⟨(opened_unshown world feed.calendar keeper).boards, ?_⟩
          rw [handle, start_alive world alive, connected, selected]
          exact if_neg (not_not_intro online)

theorem begun_begins {trigger : Trigger} {begun : Keeper C} (begins : keeper.begun? world trigger = some begun) :
    keeper.Begins world trigger begun := by
  cases trigger with
  | start => exact start_begins begins
  | refresh =>
      obtain ⟨listens, same⟩ := Option.ite_none_right_eq_some.mp begins
      cases same
      exact ⟨rfl, if_pos listens⟩
  | calendarUpdated =>
      obtain ⟨listens, same⟩ := Option.ite_none_right_eq_some.mp begins
      cases same
      exact ⟨rfl, if_pos listens⟩
  | linkChanged link =>
      cases link with
      | online =>
          obtain ⟨listens, same⟩ := Option.ite_none_right_eq_some.mp begins
          cases same
          exact ⟨rfl, if_pos listens⟩
      | offline | unknown => cases begins
  | dispose => cases begins
  | wake generation =>
      obtain ⟨⟨alive, own⟩, same⟩ := Option.ite_none_right_eq_some.mp begins
      cases same
      refine ⟨rfl, ?_⟩
      rw [handle, wake_held world keeper generation alive own]
      rfl

inductive Rests (trigger : Trigger) (before : Keeper C) (outcome : Outcome C) : Prop where
  | broken (cause : SetupFault) : outcome.fault = some (.setup cause) →
      before.standing.Idled (.setup cause) outcome.keeper.standing → Rests trigger before outcome
  | disposed : outcome = ⟨before, some .disposed⟩ → Rests trigger before outcome
  | spared : outcome.fault = none → Standing.Spared trigger before.standing outcome.keeper.standing →
      Rests trigger before outcome

omit [Calendar C] in
theorem abort_rests {trigger : Trigger} (world : Surroundings C) {told : Keeper C} (cause : SetupFault)
    (still : told.standing = keeper.standing) :
    Rests trigger keeper (told.abort world .misconfigured (.setup cause)) := by
  refine .broken cause rfl ?_
  rw [standing_abort, still]
  exact Standing.refused_idled keeper.standing rfl

theorem start_rests (unbegun : keeper.begun? world .start = none) : Rests .start keeper (keeper.start world) := by
  by_cases disposed : keeper.phase = .disposed
  · exact .disposed (disposed_start world disposed)
  · rw [start_alive world disposed]
    cases connected : world.feed with
    | none => exact abort_rests world .missingFeed (standing_again keeper)
    | some feed =>
        cases selected : world.filter with
        | error cause => exact abort_rests world cause (told_standing world keeper)
        | ok filter =>
            have offline : feed.link ≠ .online := by
              intro online
              rw [begun?, connected, selected] at unbegun
              cases unbegun.symm.trans (if_pos ⟨disposed, online⟩)
            simp only [if_pos offline]
            refine .spared rfl ?_
            rw [standing_wait, told_standing]
            exact .unconnected rfl disposed

omit [Calendar C] in
theorem deaf_rests {trigger : Trigger} {notice : Notice} (other : trigger ≠ .start)
    (deaf : keeper.phase.listens = false) (quiet : (Effect.note notice).reference? = none) :
    Rests trigger keeper ⟨keeper.note notice, none⟩ := by
  refine .spared rfl ?_
  rw [standing_note keeper notice quiet]
  exact .ignored deaf other

theorem link_rests (link : Link) (unbegun : keeper.begun? world (.linkChanged link) = none) :
    Rests (.linkChanged link) keeper (keeper.linkChanged world link) := by
  unfold linkChanged
  cases listens : keeper.phase.listens with
  | false => exact deaf_rests (by simp) listens rfl
  | true =>
      cases link with
      | online => cases unbegun.symm.trans (if_pos listens)
      | offline =>
          change Rests _ keeper ⟨keeper.wait world, none⟩
          refine .spared rfl ?_
          rw [standing_wait]
          exact .offline rfl listens
      | unknown =>
          change Rests _ keeper ⟨setStatus world .unknown keeper, none⟩
          refine .spared rfl ?_
          rw [standing_set_status]
          exact .unknown rfl listens

omit [Calendar C] in
theorem dispose_rests (keeper : Keeper C) : Rests .dispose keeper ⟨keeper.dispose, none⟩ := by
  unfold dispose
  by_cases disposed : keeper.phase = .disposed
  · have deaf : keeper.standing.phase.listens = false := congrArg Phase.listens disposed
    rw [if_pos disposed]
    exact .spared rfl (.ignored deaf (by simp))
  · rw [if_neg disposed]
    refine .spared rfl ?_
    rw [standing_note _ _ rfl]
    change Standing.Spared .dispose _ { keeper.cancel.standing with phase := .disposed, calendar := none }
    rw [standing_cancel]
    exact .disposed rfl

theorem unbegun_rests (trigger : Trigger) (unbegun : keeper.begun? world trigger = none) :
    Rests trigger keeper (keeper.handle world trigger) := by
  cases trigger with
  | start => exact start_rests unbegun
  | refresh =>
      unfold handle refresh
      cases listens : keeper.phase.listens with
      | false => exact deaf_rests (by simp) listens rfl
      | true => cases unbegun.symm.trans (if_pos listens)
  | calendarUpdated =>
      unfold handle calendarUpdated
      cases listens : keeper.phase.listens with
      | false => exact deaf_rests (by simp) listens rfl
      | true => cases unbegun.symm.trans (if_pos listens)
  | linkChanged link => exact link_rests link unbegun
  | dispose => exact dispose_rests keeper
  | wake generation =>
      have stale : keeper.phase = .disposed ∨ keeper.alarm.holds generation = false := by
        by_contra both
        obtain ⟨alive, own⟩ := not_or.mp both
        cases unbegun.symm.trans (if_pos ⟨alive, Bool.not_eq_false _ ▸ own⟩)
      refine .spared rfl ?_
      change Standing.Spared (.wake generation) keeper.standing (keeper.wake world generation).standing
      rw [wake_stale world keeper generation stale]
      exact .stale generation rfl stale

theorem ending_begun {trigger : Trigger} {begun : Keeper C} (begins : keeper.begun? world trigger = some begun) :
    keeper.ending world trigger = (cycle world begun).fault := by
  rw [ending, begins]

theorem ending_unbegun {trigger : Trigger} (unbegun : keeper.begun? world trigger = none) :
    keeper.ending world trigger = (keeper.handle world trigger).fault := by
  rw [ending, unbegun]

theorem ending_told (world : Surroundings C) (keeper : Keeper C) (trigger : Trigger)
    (owners : ∀ generation, trigger ≠ .wake generation) :
    (keeper.handle world trigger).fault = keeper.ending world trigger := by
  cases begins : keeper.begun? world trigger with
  | none => exact (ending_unbegun begins).symm
  | some begun =>
      rw [ending_begun begins, (begun_begins begins).cycled]
      cases trigger with
      | wake generation => exact absurd rfl (owners generation)
      | start | refresh | calendarUpdated | linkChanged | dispose => rfl

theorem ending_remarked (world : Surroundings C) (keeper : Keeper C) (generation : Nat) (fault : Fault)
    (ends : keeper.ending world (.wake generation) = some fault) :
    (keeper.handle world (.wake generation)).keeper.journal.head? = some (.note (.wakeFailed fault)) := by
  cases begins : keeper.begun? world (.wake generation) with
  | none => cases (ending_unbegun begins).symm.trans ends
  | some begun =>
      have failed := (ending_begun begins).symm.trans ends
      rw [(begun_begins begins).cycled, returned, failed]
      rfl

inductive Leaves (world : Surroundings C) (keeper : Keeper C) (trigger : Trigger) : Option Fault → Prop where
  | idle (fault : Fault) : keeper.standing.Idled fault (keeper.handle world trigger).keeper.standing →
      Leaves world keeper trigger (some fault)
  | refused (reason : String) : (keeper.handle world trigger).keeper.standing.Served world →
      Leaves world keeper trigger (some (.publishing reason))
  | disposed : (keeper.handle world trigger).keeper = keeper → Leaves world keeper trigger (some .disposed)
  | served : (keeper.begun? world trigger).isSome → (keeper.handle world trigger).keeper.standing.Served world →
      Leaves world keeper trigger none
  | spared : keeper.begun? world trigger = none →
      Standing.Spared trigger keeper.standing (keeper.handle world trigger).keeper.standing →
      Leaves world keeper trigger none

theorem begun_leaves {trigger : Trigger} {begun : Keeper C} (modest : world.publisher.Modest)
    (begins : keeper.begun? world trigger = some begun) :
    keeper.Leaves world trigger (keeper.ending world trigger) := by
  obtain ⟨boards, cycled⟩ := begun_begins begins
  have standing : (keeper.handle world trigger).keeper.standing = (cycle world begun).keeper.standing := by
    rw [cycled, returned_standing]
  rw [ending_begun begins]
  have ended := cycle_ended world begun
  generalize (cycle world begun).fault = reply, (cycle world begun).keeper = after at ended standing
  cases ended with
  | idle fault _ idled =>
      refine .idle fault ?_
      rw [standing]
      refine ⟨idled.phase, idled.status, idled.pending, ?_⟩
      change _ = keeper.journal.boards ∨ _
      rw [← boards]
      exact idled.boards
  | served _ _ served said =>
      rw [← standing] at served
      cases reply with
      | none => exact .served (by rw [begins]; rfl) served
      | some fault =>
          obtain ⟨journal, replied⟩ := said fault rfl
          obtain ⟨reason, rfl⟩ := modest journal fault replied
          exact .refused reason served

theorem handle_leaves (modest : world.publisher.Modest) (keeper : Keeper C) (trigger : Trigger) :
    keeper.Leaves world trigger (keeper.ending world trigger) := by
  cases begins : keeper.begun? world trigger with
  | some begun => exact begun_leaves modest begins
  | none =>
      rw [ending_unbegun begins]
      cases unbegun_rests trigger begins with
      | broken cause failed idled =>
          rw [failed]
          exact .idle _ idled
      | disposed closed =>
          rw [closed]
          exact .disposed (congrArg Outcome.keeper closed)
      | spared quiet spared =>
          rw [quiet]
          exact .spared begins spared

-- In any state, reachable or not, and at any time. After a refusal all is as if the board had been accepted.
theorem endings_are_definite (world : Surroundings C) (modest : world.publisher.Modest) (keeper : Keeper C)
    (trigger : Trigger) :
    let ending := keeper.ending world trigger
    let after := (keeper.handle world trigger).keeper
    let accepted := (keeper.handle { world with publisher := fun _ => none } trigger).keeper
    ((∀ generation, trigger ≠ .wake generation) → (keeper.handle world trigger).fault = ending) ∧
    (∀ generation fault, trigger = .wake generation → ending = some fault →
      after.journal.head? = some (.note (.wakeFailed fault))) ∧
    (∀ fault, ending = some fault → fault.leaves?.isSome → keeper.standing.Idled fault after.standing) ∧
    (∀ reason, ending = some (.publishing reason) → after.standing.Served world ∧ after.Abreast id accepted) ∧
    (∀ fault, ending = some fault → fault.leaves? = none →
      (∃ reason, fault = .publishing reason) ∨ fault = .disposed ∧ after = keeper) ∧
    (ending = none →
      (keeper.begun? world trigger).isSome ∧ after.standing.Served world ∨
      keeper.begun? world trigger = none ∧ Standing.Spared trigger keeper.standing after.standing ∧
        after.journal.boards = keeper.journal.boards ∧ after.alarm.issued = keeper.alarm.issued) := by
  intro ending after accepted
  have worlds : world.Abreast id { world with publisher := fun _ => none } :=
    ⟨rfl, rfl, rfl, Run.looks_alike_self id world.filter⟩
  have abreast : after.Abreast id accepted := (handle_paired (abreast_refl keeper) worlds trigger).abreast
  have left : keeper.Leaves world trigger ending := handle_leaves modest keeper trigger
  refine ⟨ending_told world keeper trigger, ?_, ?_, ?_, ?_, ?_⟩
  · rintro generation fault rfl failed
    exact ending_remarked world keeper generation fault failed
  · intro fault failed leaves
    rw [failed] at left
    cases left with
    | idle _ idled => exact idled
    | refused | disposed => cases leaves
  · intro reason failed
    rw [failed] at left
    cases left with
    | idle _ idled => cases idled.phase
    | refused _ served => exact ⟨served, abreast⟩
  · intro fault failed none
    rw [failed] at left
    cases left with
    | idle _ idled => cases none.symm.trans idled.phase
    | refused reason => exact .inl ⟨reason, rfl⟩
    | disposed still => exact .inr ⟨rfl, still⟩
  · intro quiet
    rw [quiet] at left
    cases left with
    | served begins served => exact .inl ⟨begins, served⟩
    | spared begins spared =>
        obtain ⟨boards, issued⟩ := Standing.spared_unshown spared
        exact .inr ⟨begins, spared, boards, issued⟩

theorem endings_are_definite_at_vigil :
    let keeper := (Run.vigil.through {} (fun _ => none) [⟨.first, 0, .trigger .start⟩]).keeper
    let full : Surroundings FixedAnswers :=
      { settings := {}, publisher := fun _ => some (.publishing "full"), feed := Run.vigil.feed, wall := .first,
        elapsed := 0 }
    let apart := { full with feed := full.feed.map fun feed => (feed.setLink .offline).1 }
    full.publisher.Modest ∧ apart.publisher.Modest ∧
      keeper.ending full (.wake 1) = some (.publishing "full") ∧
      (keeper.handle full (.wake 1)).keeper.standing.Served full ∧
      (keeper.handle full (.wake 1)).keeper.alarm.target? = some .last ∧
      keeper.ending apart (.wake 1) = some (.feed .offline) ∧
      keeper.standing.Idled (.feed .offline) (keeper.handle apart (.wake 1)).keeper.standing := by
  intro keeper full apart
  have modest : full.publisher.Modest := fun _ fault said => ⟨"full", (Option.some.inj said).symm⟩
  have refused : keeper.ending full (.wake 1) = some (.publishing "full") := by decide +kernel
  have offline : keeper.ending apart (.wake 1) = some (.feed .offline) := by decide +kernel
  obtain ⟨_, _, _, served, _, _⟩ := endings_are_definite full modest keeper (.wake 1)
  obtain ⟨_, _, idled, _, _, _⟩ := endings_are_definite apart modest keeper (.wake 1)
  exact ⟨modest, modest, refused, (served "full" refused).1, by decide +kernel, offline, idled _ offline rfl⟩

end Keeper

end NowNext
