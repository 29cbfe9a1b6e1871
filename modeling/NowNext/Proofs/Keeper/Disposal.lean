import NowNext.Proofs.Keeper.Ledger

set_option autoImplicit false

namespace NowNext

namespace Keeper

variable {C : Type} {before after keeper : Keeper C}

structure Silent (before after : Keeper C) : Prop where
  phase : after.phase = before.phase
  status : after.status = before.status
  calendar : after.calendar = before.calendar
  pending : after.alarm.pending = before.alarm.pending
  issued : after.alarm.issued = before.alarm.issued
  updates : after.journal.updates = before.journal.updates

theorem silent_refl (keeper : Keeper C) : keeper.Silent keeper := ⟨rfl, rfl, rfl, rfl, rfl, rfl⟩

theorem silent_trans (first : before.Silent keeper) (second : keeper.Silent after) : before.Silent after where
  phase := second.phase.trans first.phase
  status := second.status.trans first.status
  calendar := second.calendar.trans first.calendar
  pending := second.pending.trans first.pending
  issued := second.issued.trans first.issued
  updates := second.updates.trans first.updates

theorem silent_note (keeper : Keeper C) (notice : Notice) : keeper.Silent (keeper.note notice) :=
  ⟨rfl, rfl, rfl, rfl, rfl, rfl⟩

theorem silent_asleep (keeper : Keeper C) (sleepers : List Sleeper) :
    keeper.Silent { keeper with alarm.sleepers := sleepers } := ⟨rfl, rfl, rfl, rfl, rfl, rfl⟩

def closed (keeper : Keeper C) : Keeper C :=
  { keeper with phase := .disposed, calendar := none, alarm.pending := none }

theorem cancel_updates (keeper : Keeper C) : keeper.cancel.journal.updates = keeper.journal.updates := by
  rw [cancel_journal, Journal.updates, List.filterMap_append]
  cases keeper.alarm.cancelNotice? <;> rfl

theorem dispose_silent (again : keeper.phase = .disposed → keeper.calendar = none ∧ keeper.alarm.pending = none) :
    keeper.closed.Silent keeper.dispose := by
  unfold dispose
  by_cases disposed : keeper.phase = .disposed
  · rw [if_pos disposed]
    obtain ⟨released, idle⟩ := again disposed
    exact ⟨disposed, rfl, released, idle, rfl, rfl⟩
  · rw [if_neg disposed]
    exact ⟨rfl, cancel_status keeper, rfl, cancel_pending keeper, cancel_issued keeper, cancel_updates keeper⟩

-- All that a keeper can be before its first start: it may have been disposed of already.
structure Unstarted (keeper : Keeper C) : Prop where
  deaf : keeper.phase.listens = false
  blank : { phase := keeper.phase : Keeper C }.Silent keeper

theorem unstarted_silent (unstarted : before.Unstarted) (silent : before.Silent after) : after.Unstarted where
  deaf := by
    rw [silent.phase]
    exact unstarted.deaf
  blank := by
    rw [silent.phase]
    exact silent_trans unstarted.blank silent

variable [Calendar C]

theorem deaf_silent (world : Surroundings C) (trigger : Trigger) (deaf : keeper.phase.listens = false)
    (idle : keeper.alarm.pending = none) (neither : trigger ≠ .start ∧ trigger ≠ .dispose) :
    (keeper.handle world trigger).fault = none ∧ keeper.Silent (keeper.handle world trigger).keeper := by
  cases trigger with
  | start => exact absurd rfl neither.1
  | dispose => exact absurd rfl neither.2
  | refresh | calendarUpdated | linkChanged =>
      simp only [handle, refresh, calendarUpdated, linkChanged, deaf, Bool.false_eq_true, if_false]
      exact ⟨trivial, silent_note keeper _⟩
  | wake generation =>
      have unheld : keeper.alarm.holds generation = false := by
        rw [Alarm.holds, idle]
        rfl
      refine ⟨rfl, ?_⟩
      rcases wake_unheld world keeper generation unheld with same | told
      · rw [handle, same]
        exact silent_refl keeper
      · rw [handle, told]
        exact silent_note keeper _

theorem disposed_start (world : Surroundings C) (disposed : keeper.phase = .disposed) :
    keeper.start world = ⟨keeper, some .disposed⟩ := if_pos disposed

theorem disposed_silent (world : Surroundings C) (trigger : Trigger) (disposed : keeper.phase = .disposed)
    (idle : keeper.alarm.pending = none) :
    keeper.Silent (keeper.handle world trigger).keeper ∧
      (trigger ≠ .start → (keeper.handle world trigger).fault = none) := by
  by_cases again : trigger = .start
  · rw [again, handle, disposed_start world disposed]
    exact ⟨silent_refl keeper, fun other => absurd rfl other⟩
  · by_cases twice : trigger = .dispose
    · rw [twice, handle, dispose, if_pos disposed]
      exact ⟨silent_refl keeper, fun _ => rfl⟩
    · have deaf : keeper.phase.listens = false := by
        rw [disposed]
        rfl
      obtain ⟨fine, silent⟩ := deaf_silent world trigger deaf idle ⟨again, twice⟩
      exact ⟨silent, fun _ => fine⟩

theorem unstarted_handle (world : Surroundings C) (trigger : Trigger) (unstarted : keeper.Unstarted)
    (still : trigger ≠ .start) : (keeper.handle world trigger).keeper.Unstarted := by
  have blank := unstarted.blank
  by_cases ending : trigger = .dispose
  · have ended : keeper.closed.Unstarted :=
      ⟨rfl, rfl, blank.status, rfl, rfl, blank.issued, blank.updates⟩
    rw [ending]
    exact unstarted_silent ended (dispose_silent fun _ => ⟨blank.calendar, blank.pending⟩)
  · exact unstarted_silent unstarted (deaf_silent world trigger unstarted.deaf blank.pending ⟨still, ending⟩).2

end Keeper

namespace Run

variable {C : Type} [Calendar C] {settings : Settings} {publisher : Publisher}

theorem disposed_lasting (isAttached : Bool) {gone : Keeper C} (disposed : gone.phase = .disposed)
    (idle : gone.alarm.pending = none) : Keeper.Lasting settings isAttached gone.Silent := by
  constructor
  · intro world keeper trigger _ _ silent
    have phase : keeper.phase = .disposed := silent.phase.trans disposed
    exact Keeper.silent_trans silent (Keeper.disposed_silent world trigger phase (silent.pending.trans idle)).1
  · intro keeper sleepers _ silent
    exact Keeper.silent_trans silent (Keeper.silent_asleep keeper sleepers)

theorem through_closed (run : Run C) (held : run.isDropped = false)
    (again : run.keeper.phase = .disposed → run.keeper.calendar = none ∧ run.keeper.alarm.pending = none)
    (opening : Instant) (elapsed : Nat) (later : List (Incident C)) :
    run.keeper.closed.Silent
      (run.through settings publisher (⟨opening, elapsed, .trigger .dispose⟩ :: later)).keeper := by
  let disposed : Run C := { run with keeper := run.keeper.dispose, elapsed }
  have met : (run.meet settings publisher ⟨opening, elapsed, .trigger .dispose⟩).1 = disposed := by
    change (handle _ { run with elapsed } .dispose).1 = _
    rw [handle, if_neg (by simpa using held)]
    rfl
  change run.keeper.closed.Silent (through settings publisher (run.meet settings publisher _).1 later).keeper
  rw [met]
  exact (Keeper.through_lasting (disposed_lasting disposed.feed.isSome rfl rfl) publisher disposed rfl
    (Keeper.dispose_silent again) later).2

theorem dropped_lasting (journal : Journal) :
    Lasting settings publisher (fun _ => True)
      fun run : Run C => run.isDropped = true ∧ run.keeper.journal = journal := by
  refine ⟨fun _ => trivial, ?_, fun _ _ _ _ held => held, fun _ _ held => held, fun _ _ held => held,
    fun _ held => ⟨rfl, held.2⟩⟩
  rintro run opening trigger - ⟨dropped, same⟩
  rw [handle, if_pos dropped]
  exact ⟨dropped, same⟩

theorem unstarted_lasting :
    Lasting settings publisher (fun trigger => trigger ≠ .start) fun run : Run C => run.keeper.Unstarted := by
  refine ⟨fun _ => by simp, ?_, ?_, fun _ _ held => held, fun _ _ held => held, fun _ held => held⟩
  · intro run opening trigger still unstarted
    unfold handle
    by_cases dropped : run.isDropped = true
    · rw [if_pos dropped]
      exact unstarted
    · rw [if_neg dropped]
      exact Keeper.unstarted_handle _ trigger unstarted still
  · intro run sleepers elapsed _ unstarted
    exact Keeper.unstarted_silent unstarted (Keeper.silent_asleep run.keeper sleepers)

-- Whatever comes later, be it a wake-up that was set before or that was about to be told.
theorem disposal_is_final (settings : Settings) (publisher : Publisher) (feed : Option (Feed C))
    (before later : List (Incident C)) (opening : Instant) (elapsed : Nat) :
    let run := ({ feed } : Run C).through settings publisher before
    (run.isDropped = false →
      let last := run.through settings publisher (⟨opening, elapsed, .trigger .dispose⟩ :: later)
      run.keeper.closed.Silent last.keeper ∧
      ∀ world : Surroundings C, (last.keeper.handle world .start).fault = some .disposed ∧
        ∀ trigger, trigger ≠ .start → (last.keeper.handle world trigger).fault = none) ∧
    (run.through settings publisher (⟨opening, elapsed, .drop⟩ :: later)).keeper.journal = run.keeper.journal ∧
    ((∀ incident ∈ before, incident.Within fun trigger => trigger ≠ .start) →
      run.keeper.Unstarted ∧
      ∀ (world : Surroundings C) (trigger : Trigger), trigger ≠ .start ∧ trigger ≠ .dispose →
        (run.keeper.handle world trigger).fault = none ∧
        run.keeper.Silent (run.keeper.handle world trigger).keeper) := by
  intro run
  refine ⟨?_, ?_, ?_⟩
  · intro held last
    have again : run.keeper.phase = .disposed → run.keeper.calendar = none ∧ run.keeper.alarm.pending = none := by
      intro disposed
      obtain ⟨_, consistent⟩ := through_consistent settings publisher feed before
      exact Standing.disposed_consistent disposed consistent
    have silent : run.keeper.closed.Silent last.keeper := through_closed run held again opening elapsed later
    refine ⟨silent, fun world => ⟨?_, fun trigger other => ?_⟩⟩
    · rw [Keeper.handle, Keeper.disposed_start world silent.phase]
    · exact (Keeper.disposed_silent world trigger silent.phase silent.pending).2 other
  · let gone : Run C := { run with isDropped := true, elapsed }
    have silent : (gone.through settings publisher later).isDropped = true ∧
        (gone.through settings publisher later).keeper.journal = run.keeper.journal :=
      through_lasting (dropped_lasting run.keeper.journal) later (fun _ _ _ _ => trivial) ⟨rfl, rfl⟩
    exact silent.2
  · intro still
    have unstarted : run.keeper.Unstarted :=
      through_lasting unstarted_lasting before still ⟨rfl, Keeper.silent_refl _⟩
    exact ⟨unstarted, fun world trigger => Keeper.deaf_silent world trigger unstarted.deaf unstarted.blank.pending⟩

theorem disposal_is_final_at_vigil :
    let run := vigil.through {} (fun _ => none) earlyWake
    let last := run.through {} (fun _ => none)
      [⟨.first, 0, .trigger .dispose⟩, ⟨.last, 0, .trigger (.wake 2)⟩, ⟨.last, 0, .trigger .refresh⟩]
    run.keeper.alarm.holds 2 = true ∧ last.keeper.phase = .disposed ∧
      last.keeper.journal.updates = run.keeper.journal.updates ∧
      (vigil.through {} (fun _ => none) [⟨.first, 0, .trigger .refresh⟩]).keeper.Unstarted := by
  intro run last
  have held : run.isDropped = false := by decide +kernel
  obtain ⟨silent, _⟩ := (disposal_is_final {} (fun _ => none) vigil.feed earlyWake
    [⟨.last, 0, .trigger (.wake 2)⟩, ⟨.last, 0, .trigger .refresh⟩] .first 0).1 held
  obtain ⟨unstarted, _⟩ := (disposal_is_final {} (fun _ => none) vigil.feed [⟨.first, 0, .trigger .refresh⟩]
    [] .first 0).2.2 (by simp [Incident.Within])
  exact ⟨by decide +kernel, silent.phase, silent.updates, unstarted⟩

end Run

end NowNext
