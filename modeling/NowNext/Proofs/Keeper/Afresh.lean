import NowNext.Proofs.Keeper.Consistent
import NowNext.Proofs.Keeper.Outlook

set_option autoImplicit false

namespace NowNext

structure Surroundings.Matches {C : Type} (here there : Surroundings C) : Prop where
  settings : here.settings = there.settings
  filter : here.filter = there.filter
  feed : here.feed = there.feed
  wall : here.wall = there.wall

namespace Surroundings

variable {C : Type} {here there : Surroundings C} (alike : here.Matches there)
include alike

theorem matches_reference : here.reference = there.reference := by
  rw [reference, reference, alike.settings, alike.wall]

theorem matches_outlook [Calendar C] (calendar : Option C) : here.outlook calendar = there.outlook calendar := by
  rw [outlook, outlook, alike.feed, alike.filter, matches_reference alike]

end Surroundings

namespace Standing

variable {C : Type}

structure Agree (one other first second : Standing C) : Prop where
  phase : first.phase = second.phase
  status : first.status = second.status
  target : first.alarm.target? = second.alarm.target?
  handed : ∃ handed : Option Board, first.boards = handed.toList ++ one.boards ∧
    second.boards = handed.toList ++ other.boards

theorem refused_agree (one other : Standing C) (phase : Phase) (fault : Fault) :
    one.Agree other (one.refused phase fault) (other.refused phase fault) :=
  ⟨rfl, rfl, one.alarm.cancel_target.trans other.alarm.cancel_target.symm, none, rfl, rfl⟩

variable [Calendar C] {world : Surroundings C} {before after : Standing C}

theorem cycled_effective (cycled : Cycled world before after) :
    world.effective after.calendar = world.effective before.calendar := by
  have twice : ∀ feed, world.feed = some feed →
      world.effective (before.calendar.or feed.calendar) = world.effective before.calendar := by
    intro feed connected
    rw [Surroundings.effective, Surroundings.effective, connected, Option.bind_some, Option.or_assoc, Option.or_self]
  cases cycled with
  | missing | offline | broken => rfl
  | blank feed filter cause connected => exact twice feed connected
  | shown feed filter board next connected => exact twice feed connected
  | contradicted feed filter board cause connected => exact twice feed connected

theorem cycled_caches (cycled : Cycled world before after) {feed : Feed C} {filter : Option Filter}
    (connected : world.feed = some feed) (online : feed.link = .online) (selected : world.filter = .ok filter) :
    after.calendar = world.effective before.calendar := by
  have source : ∀ found, world.feed = some found →
      before.calendar.or found.calendar = world.effective before.calendar := by
    intro found met
    rw [Surroundings.effective, met]
    rfl
  cases cycled with
  | missing unfed => cases unfed.symm.trans connected
  | offline found met offline =>
      cases met.symm.trans connected
      exact absurd online offline
  | broken found cause met ready broken => cases broken.symm.trans selected
  | blank found filter cause met => exact source found met
  | shown found filter board next met => exact source found met
  | contradicted found filter board cause met => exact source found met

theorem cycled_wakers (cycled : Cycled world before after) (numbered : before.alarm.Numbered) :
    after.alarm.wakers.map (·.generation) = (after.alarm.pending.map (·.generation)).toList := by
  cases cycled with
  | missing | offline | broken | blank | contradicted =>
      exact before.alarm.follow_wakers numbered world.elapsed world.reference none
  | shown feed filter board next => exact before.alarm.follow_wakers numbered _ _ next

end Standing

namespace Keeper

variable {C : Type} {here there : Surroundings C} {one other : Keeper C}

structure Agree (here there : Surroundings C) (one other : Keeper C) (first second : Outcome C) : Prop where
  standing : one.standing.Agree other.standing first.keeper.standing second.keeper.standing
  result : (∀ said replied, here.publisher.Replied one.journal first.keeper.journal said →
    there.publisher.Replied other.journal second.keeper.journal replied → said = replied) →
      first.fault = second.fault

theorem agree_answered {first second : Outcome C}
    (standing : one.standing.Agree other.standing first.keeper.standing second.keeper.standing)
    (answered : Answered here.publisher there.publisher one other first second) :
    Agree here there one other first second := by
  refine ⟨standing, fun same => ?_⟩
  rcases answered with already | ⟨said, replied⟩
  · exact already
  · exact same _ _ said replied

theorem abort_agree (phase : Phase) (fault : Fault) :
    Agree here there one other (one.abort here phase fault) (other.abort there phase fault) := by
  refine ⟨?_, fun _ => rfl⟩
  rw [standing_abort, standing_abort]
  exact Standing.refused_agree one.standing other.standing phase fault

theorem wait_agree : Agree here there one other ⟨one.wait here, none⟩ ⟨other.wait there, none⟩ := by
  refine ⟨?_, fun _ => rfl⟩
  rw [standing_wait, standing_wait]
  exact Standing.refused_agree one.standing other.standing .waiting (.feed .offline)

structure Unshown (before after : Keeper C) : Prop where
  grown : before.journal <:+ after.journal
  boards : after.journal.boards = before.journal.boards

theorem again_unshown (world : Surroundings C) (keeper : Keeper C) : keeper.Unshown keeper.again :=
  ⟨acts_grow (note_again_acts world keeper), congrArg Standing.boards (standing_again keeper)⟩

theorem told_unshown (world : Surroundings C) (keeper : Keeper C) :
    keeper.Unshown (keeper.again.noteDangling world) :=
  ⟨acts_grow ((note_again_acts world keeper).trans (note_dangling_acts world _)),
    congrArg Standing.boards (told_standing world keeper)⟩

theorem opened_unshown (world : Surroundings C) (calendar : Option C) (keeper : Keeper C) :
    keeper.Unshown (keeper.opened world calendar) := by
  refine ⟨opened_grows world calendar keeper, ?_⟩
  have reported := standing_set_status world { keeper.again.noteDangling world with phase := .ready } .unknown
  exact (congrArg Standing.boards reported).trans (told_unshown world keeper).boards

theorem agree_within {near far : Keeper C} {first second : Outcome C} (agree : Agree here there near far first second)
    (before : one.Unshown near) (begun : other.Unshown far) : Agree here there one other first second := by
  obtain ⟨⟨phase, status, target, handed, first, second⟩, result⟩ := agree
  refine ⟨⟨phase, status, target, handed, ?_, ?_⟩, fun same => result fun said replied saying answering => ?_⟩
  · exact first.trans (congrArg (handed.toList ++ ·) before.boards)
  · exact second.trans (congrArg (handed.toList ++ ·) begun.boards)
  · exact same said replied (Publisher.replied_within before.grown saying)
      (Publisher.replied_within begun.grown answering)

variable [Calendar C]

theorem display_agree (phase : one.phase = other.phase) (calendar : one.calendar = other.calendar)
    (reference : here.reference = there.reference) (board : Board) :
    Agree here there one other (display here here.reference board one) (display there there.reference board other) := by
  refine agree_answered ?_ (display_answered calendar reference board board)
  cases boundary : Board.nextBoundary other.calendar there.reference with
  | ok next =>
      have before : Board.nextBoundary one.calendar here.reference = .ok next := by
        rw [calendar, reference]
        exact boundary
      rw [standing_display here one _ board next before, standing_display there other _ board next boundary]
      exact ⟨phase, rfl, (Alarm.follow_target _ _ _ _).trans (Alarm.follow_target _ _ _ _).symm, some board, rfl, rfl⟩
  | error cause =>
      have before : Board.nextBoundary one.calendar here.reference = .error cause := by
        rw [calendar, reference]
        exact boundary
      rw [standing_contradicted here one _ board cause before, standing_contradicted there other _ board cause boundary]
      exact ⟨phase, rfl, (Alarm.cancel_target _).trans (Alarm.cancel_target _).symm, some board, rfl, rfl⟩

theorem cycle_agree (alike : here.Matches there)
    (same : here.effective one.calendar = there.effective other.calendar) :
    Agree here there one other (cycle here one) (cycle there other) := by
  cases found : there.outlook (there.effective other.calendar) with
  | error refusal =>
      have before : here.outlook (here.effective one.calendar) = .error (refusal.1, refusal.2) := by
        rw [same, Surroundings.matches_outlook alike, found]
      rw [cycle_refused before, cycle_refused found]
      exact abort_agree _ _
  | ok board =>
      have before : here.outlook (here.effective one.calendar) = .ok board := by
        rw [same, Surroundings.matches_outlook alike, found]
      rw [cycle_displays before, cycle_displays found, same]
      obtain ⟨⟨phase, status, target, handed⟩, result⟩ := @display_agree C here there
        { one with phase := .ready, calendar := there.effective other.calendar }
        { other with phase := .ready, calendar := there.effective other.calendar } _ rfl rfl
        (Surroundings.matches_reference alike) board
      exact ⟨⟨phase, status, target, handed⟩, result⟩

theorem refresh_agree (alike : here.Matches there) (listens : one.phase.listens = true)
    (listening : other.phase.listens = true)
    (same : here.effective one.calendar = there.effective other.calendar) :
    Agree here there one other (one.refresh here) (other.refresh there) := by
  rw [refresh, refresh, if_pos listens, if_pos listening]
  exact cycle_agree alike same

theorem start_agree (alike : here.Matches there) (alive : one.phase ≠ .disposed)
    (living : other.phase ≠ .disposed) :
    Agree here there one other (one.start here) (other.start there) := by
  rw [start_alive here alive, start_alive there living, alike.feed, alike.filter]
  cases there.feed with
  | none => exact agree_within (abort_agree _ _) (again_unshown here one) (again_unshown there other)
  | some feed =>
      have told := told_unshown here one
      have also := told_unshown there other
      cases there.filter with
      | error cause => exact agree_within (abort_agree _ _) told also
      | ok filter =>
          by_cases online : feed.link = .online
          · simp only [online, ne_eq, not_true_eq_false, if_false]
            have cycled : Agree here there (one.opened here feed.calendar) (other.opened there feed.calendar) _ _ :=
              cycle_agree alike (by rw [Surroundings.effective, Surroundings.effective, alike.feed]; rfl)
            exact agree_within cycled (opened_unshown here feed.calendar one) (opened_unshown there feed.calendar other)
          · simp only [online, ne_eq, not_false_eq_true, if_true]
            exact agree_within wait_agree told also

theorem start_caches (world : Surroundings C) (keeper : Keeper C) (alive : keeper.phase ≠ .disposed)
    (waiting : (keeper.start world).keeper.phase ≠ .waiting)
    (misconfigured : (keeper.start world).keeper.phase ≠ .misconfigured) :
    (keeper.start world).keeper.calendar = world.feed.bind (·.calendar) := by
  cases connected : world.feed with
  | none =>
      refine absurd ?_ misconfigured
      rw [start_alive world alive, connected]
      exact congrArg Standing.phase (standing_abort world keeper.again .misconfigured (.setup .missingFeed))
  | some feed =>
      cases selected : world.filter with
      | error cause =>
          refine absurd ?_ misconfigured
          rw [start_alive world alive, connected, selected]
          exact congrArg Standing.phase (standing_abort world _ .misconfigured (.setup cause))
      | ok filter =>
          by_cases online : feed.link = .online
          · have cycled := start_online_standing world keeper feed filter alive connected selected online
            have cached := Standing.cycled_caches cycled connected online selected
            rw [Surroundings.effective, connected, Option.bind_some, Option.or_self] at cached
            exact cached
          · exact absurd (congrArg Standing.phase
              (start_offline_standing world keeper feed filter alive connected selected online)) waiting

def Reachable (keeper : Keeper C) : Prop :=
  ∃ settings publisher feed incidents, keeper = (({ feed } : Run C).through settings publisher incidents).keeper

omit [Calendar C] in
theorem act_numbered {world : Surroundings C} {before after : Keeper C} (act : Act world before after)
    (numbered : before.alarm.Numbered) : after.alarm.Numbered := by
  have reported (status : Status) : (setStatus world status before).alarm.Numbered := by
    have same : (setStatus world status before).alarm = before.alarm :=
      congrArg Standing.alarm (standing_set_status world before status)
    rw [same]
    exact numbered
  cases act with
  | remark | hand | turn | fetch => exact numbered
  | report status => exact reported status
  | resolve | abort => exact reported _
  | cancel =>
      have cancelled : before.cancel.alarm = before.alarm.cancel := congrArg Standing.alarm (standing_cancel before)
      rw [cancelled]
      exact before.alarm.cancel_numbered numbered
  | arm target => exact before.alarm.arm_numbered numbered _ _ target
  | claim generation own =>
      change (before.alarm.claim generation).Numbered
      rw [before.alarm.claim_own generation own]
      exact numbered

theorem handle_numbered (world : Surroundings C) (keeper : Keeper C) (trigger : Trigger)
    (numbered : keeper.alarm.Numbered) : (keeper.handle world trigger).keeper.alarm.Numbered :=
  acts_preserve (fun _ _ => act_numbered) (handle_acts world keeper trigger) numbered

theorem reachable_numbered {keeper : Keeper C} (reachable : keeper.Reachable) : keeper.alarm.Numbered := by
  obtain ⟨settings, publisher, feed, incidents, rfl⟩ := reachable
  have lasting : Lasting settings feed.isSome fun keeper : Keeper C => keeper.alarm.Numbered :=
    ⟨fun world keeper trigger _ _ => handle_numbered world keeper trigger,
      fun _ _ fewer numbered sleeper asleep => numbered sleeper (fewer asleep)⟩
  exact (through_lasting lasting publisher { feed } rfl (fun _ asleep => nomatch asleep) incidents).2

-- Whatever the keepers went through, whoever sleeps, and whatever the publishers said before: where they
-- go by the same calendar, a refresh makes the same of them, and so does a start of all that are not
-- disposed of. The first refresh of two may be done here, and the second one there.
theorem cycles_forget_history (here there : Surroundings C) (alike : here.Matches there) (one other : Keeper C) :
    (one.phase.listens = true → other.phase.listens = true →
      here.effective one.calendar = there.effective other.calendar →
        Agree here there one other (one.refresh here) (other.refresh there) ∧
        ∀ feed filter, here.feed = some feed → feed.link = .online → here.filter = .ok filter →
          (one.refresh here).keeper.calendar = (other.refresh there).keeper.calendar) ∧
    (one.phase ≠ .disposed → other.phase ≠ .disposed →
      Agree here there one other (one.start here) (other.start there) ∧
      ((one.start here).keeper.phase ≠ .waiting → (one.start here).keeper.phase ≠ .misconfigured →
        (one.start here).keeper.calendar = (other.start there).keeper.calendar)) ∧
    (one.phase.listens = true →
      let first := (one.refresh here).keeper
      let second := (first.refresh there).keeper
      Agree here there one first (one.refresh here) (first.refresh there) ∧
      (one.Reachable → second.alarm.wakers.map (·.generation) =
        (second.alarm.pending.map (·.generation)).toList)) := by
  have source (calendar : Option C) : here.effective calendar = there.effective calendar := by
    rw [Surroundings.effective, Surroundings.effective, alike.feed]
  refine ⟨?_, ?_, ?_⟩
  · intro listens listening same
    refine ⟨refresh_agree alike listens listening same, ?_⟩
    intro feed filter connected online selected
    have cached := Standing.cycled_caches (refresh_standing here one listens) connected online selected
    have served := Standing.cycled_caches (refresh_standing there other listening) (alike.feed.symm.trans connected)
      online (alike.filter.symm.trans selected)
    exact cached.trans (same.trans served.symm)
  · intro alive living
    have agree := start_agree alike alive living
    refine ⟨agree, fun waiting misconfigured => ?_⟩
    have phase : (one.start here).keeper.phase = (other.start there).keeper.phase := agree.standing.phase
    rw [start_caches here one alive waiting misconfigured, alike.feed]
    rw [phase] at waiting misconfigured
    exact (start_caches there other living waiting misconfigured).symm
  · intro listens first second
    have cycled := refresh_standing here one listens
    have heard : first.phase.listens = true := Standing.cycled_listens cycled
    have same : here.effective first.calendar = here.effective one.calendar := Standing.cycled_effective cycled
    refine ⟨refresh_agree alike listens heard (same.symm.trans (source _)), fun reachable => ?_⟩
    have numbered := handle_numbered here one .refresh (reachable_numbered reachable)
    exact Standing.cycled_wakers (refresh_standing there first heard) numbered

theorem cycles_forget_history_at_vigil :
    let here : Surroundings FixedAnswers :=
      { settings := {}, publisher := fun _ => none, feed := Run.vigil.feed, wall := .first, elapsed := 0 }
    let there : Surroundings FixedAnswers := { here with publisher := fun _ => some (.publishing "full"), elapsed := 7 }
    let one := (Run.vigil.through {} (fun _ => none) Run.earlyWake).keeper
    let waiting := (one.linkChanged here .offline).keeper
    let fresh : Keeper FixedAnswers := {}
    let second := ((one.refresh here).keeper.refresh there).keeper
    one.alarm.pending.isSome = true ∧ waiting.phase = .waiting ∧
      Agree here there one waiting (one.refresh here) (waiting.refresh there) ∧
      Agree here there one fresh (one.start here) (fresh.start there) ∧
      Agree here there one (one.refresh here).keeper (one.refresh here) ((one.refresh here).keeper.refresh there) ∧
      second.alarm.wakers.map (·.generation) = (second.alarm.pending.map (·.generation)).toList := by
  intro here there one waiting fresh second
  have alike : here.Matches there := ⟨rfl, rfl, rfl, rfl⟩
  have listens : one.phase.listens = true := by decide +kernel
  have alive : one.phase ≠ .disposed := by decide +kernel
  have offline := link_offline_standing here one listens
  have phase : waiting.phase = .waiting := congrArg Standing.phase offline
  have calendar : one.calendar = waiting.calendar := (congrArg Standing.calendar offline).symm
  obtain ⟨refreshed, _, twice⟩ := cycles_forget_history here there alike one waiting
  obtain ⟨_, started, _⟩ := cycles_forget_history here there alike one fresh
  have hears : waiting.phase.listens = true := by
    rw [phase]
    rfl
  have reachable : one.Reachable := ⟨{}, fun _ => none, Run.vigil.feed, Run.earlyWake, rfl⟩
  exact ⟨by decide +kernel, phase, (refreshed listens hears (congrArg here.effective calendar)).1,
    (started alive (by simp [fresh])).1, (twice listens).1, (twice listens).2 reachable⟩

end Keeper

end NowNext
