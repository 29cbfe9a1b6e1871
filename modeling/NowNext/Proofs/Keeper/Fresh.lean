import NowNext.Proofs.Board.Boundary
import NowNext.Proofs.Keeper.Aligned

set_option autoImplicit false

namespace NowNext

namespace Agenda

def Plain (agenda : Agenda) : Prop :=
  ∀ event ∈ agenda.events, event.start.isLeap = false ∧ event.finish.isLeap = false

theorem current_member (agenda : Agenda) (t : Instant) (filter : Option Filter) (event : Event)
    (found : Calendar.current agenda t filter = some event) : event ∈ agenda.events := by
  rw [current_eq_find] at found
  exact List.mem_of_find?_eq_some found

theorem next_member (agenda : Agenda) (t : Instant) (filter : Option Filter) (event : Event)
    (found : Calendar.next agenda t filter = some event) : event ∈ agenda.events := by
  rw [next_eq_find] at found
  exact List.mem_of_find?_eq_some found

theorem boundary_plain (agenda : Agenda) (plain : agenda.Plain) (t w : Instant)
    (boundary : Board.nextBoundary (some agenda) t = .ok (some w)) : w.isLeap = false := by
  rw [Board.next_boundary_agenda] at boundary
  rcases Board.earlier_some _ _ _ (Except.ok.inj boundary) with ending | starting
  · obtain ⟨event, current, finish⟩ := Option.map_eq_some_iff.mp ending
    rw [← finish]
    exact (plain event (current_member agenda t none event current)).2
  · obtain ⟨event, next, start⟩ := Option.map_eq_some_iff.mp starting
    rw [← start]
    exact (plain event (next_member agenda t none event next)).1

end Agenda

namespace Standing

variable {stage : Stage} {filter : Option Filter} {bound : Option Nat} {elapsed : Nat} {world : Surroundings Agenda}
  {before after standing : Standing Agenda}

theorem settled_agenda {reference : Instant} (settled : standing.Settled filter reference) :
    ∃ agenda, standing.calendar = some agenda := by
  obtain ⟨board, resolved, _⟩ := settled.shown
  cases calendar : standing.calendar with
  | none =>
      rw [calendar] at resolved
      cases resolved
  | some agenda => exact ⟨agenda, rfl⟩

theorem timed_due {reference : Instant} (moment : Nat)
    (plain : ∀ agenda, standing.calendar = some agenda → agenda.Plain) (plainReference : reference.isLeap = false)
    (bounded : standing.alarm.bound ≠ some 0) (settled : standing.Settled filter reference)
    (timed : standing.alarm.Timed moment reference) (sleeper : Sleeper)
    (member : sleeper ∈ standing.alarm.sleepers) : moment < sleeper.due := by
  obtain ⟨agenda, calendar⟩ := settled_agenda settled
  have boundary := settled.armed
  rw [calendar] at boundary
  rw [timed, Option.mem_toList, Option.map_eq_some_iff] at member
  obtain ⟨pending, set, rfl⟩ := member
  rw [Alarm.target?, set, Option.map_some] at boundary
  have later := Board.boundary_later pending.target boundary
  have plainTarget := agenda.boundary_plain (plain agenda calendar) _ _ boundary
  rw [Instant.lt_iff_count _ _ plainReference plainTarget] at later
  have waiting := Instant.wait_plain reference pending.target plainReference plainTarget
  have positive := Alarm.delay_pos standing.alarm bounded (reference.wait pending.target) (by omega)
  rw [Alarm.lt_due_after moment moment _ (Nat.le_refl _)]
  simpa using positive

-- While its sleeper sleeps, no boundary is passed.
theorem settled_quiet (plainOpening : stage.opening.isLeap = false) (agenda : Agenda) (plain : agenda.Plain)
    (calendar : standing.calendar = some agenda) (moment : Nat)
    (settled : standing.Settled none (stage.referenceAt moment))
    (timed : standing.alarm.Timed moment (stage.referenceAt moment)) (now : Nat) (past : moment ≤ now)
    (rested : ∀ sleeper ∈ standing.alarm.sleepers, now < sleeper.due) :
    Board.Quiet agenda (stage.referenceAt moment) (stage.referenceAt now) := by
  have plainThen := Stage.reference_plain plainOpening moment
  have plainNow := Stage.reference_plain plainOpening now
  obtain ⟨forward, slow⟩ := Stage.reference_moves plainOpening moment now past
  constructor
  · by_contra back
    have behind := (Instant.lt_iff_count _ _ plainNow plainThen).mp (lt_of_not_ge back)
    omega
  · intro w boundary
    have plainBoundary := agenda.boundary_plain plain _ _ boundary
    have armed := settled.armed
    rw [calendar, boundary] at armed
    obtain ⟨pending, set, target⟩ := Option.map_eq_some_iff.mp (Except.ok.inj armed).symm
    have asleep : (⟨pending.generation, Alarm.dueAfter moment
        (standing.alarm.delay ((stage.referenceAt moment).wait pending.target))⟩ : Sleeper) ∈
          standing.alarm.sleepers := by
      rw [timed, set]
      simp
    have due := (Alarm.lt_due_after moment now _ past).mp (rested _ asleep)
    rw [target] at due
    have whole := standing.alarm.delay_le ((stage.referenceAt moment).wait w)
    have waiting := Instant.wait_plain _ w plainThen plainBoundary
    have later := Board.boundary_later w boundary
    rw [Instant.lt_iff_count _ _ plainThen plainBoundary] at later
    rw [Instant.lt_iff_count _ _ plainNow plainBoundary]
    simp only [nanosPerMilli] at due
    omega

theorem slept_reaches (plainOpening : stage.opening.isLeap = false) (moment due : Nat) (target : Instant)
    (plainTarget : target.isLeap = false) (exactThen : stage.isExact moment = true)
    (exactDue : stage.isExact due = true)
    (slept : due = Alarm.dueAfter moment ((stage.referenceAt moment).wait target)) :
    target ≤ stage.referenceAt due := by
  have plainThen := Stage.reference_plain plainOpening moment
  have plainDue := Stage.reference_plain plainOpening due
  have countThen := Stage.reference_exact plainOpening moment exactThen
  have countDue := Stage.reference_exact plainOpening due exactDue
  have waiting := Instant.wait_plain _ target plainThen plainTarget
  by_contra early
  have short := (Instant.lt_iff_count _ _ plainDue plainTarget).mp (lt_of_not_ge early)
  simp only [Alarm.dueAfter, nanosPerMilli] at slept
  omega

structure Kept (stage : Stage) (filter : Option Filter) (bound : Option Nat) (elapsed : Nat)
    (standing : Standing Agenda) : Prop where
  possible : bound ≠ some 0
  bounded : standing.alarm.bound = bound
  aligned : standing.Aligned stage filter elapsed
  rested : ∀ sleeper ∈ standing.alarm.sleepers, elapsed < sleeper.due
  cached : ∀ agenda, standing.calendar = some agenda → agenda.Plain

theorem cycled_calendar (cycled : Cycled world before after) :
    after.calendar = before.calendar ∨ after.calendar = world.feed.bind (·.calendar) := by
  have source : ∀ feed, world.feed = some feed → before.calendar.or feed.calendar = before.calendar ∨
      before.calendar.or feed.calendar = world.feed.bind (·.calendar) := by
    intro feed connected
    rw [connected]
    cases before.calendar with
    | none => exact .inr rfl
    | some agenda => exact .inl rfl
  cases cycled with
  | missing | offline | broken => exact .inl rfl
  | blank feed filter cause connected => exact source feed connected
  | shown feed filter board next connected => exact source feed connected
  | contradicted feed filter board cause connected => exact source feed connected

theorem cycled_bound (cycled : Cycled world before after) : after.alarm.bound = before.alarm.bound := by
  cases cycled with
  | missing | offline | broken | blank | contradicted => exact before.alarm.cancel_bound
  | shown feed filter board next => exact before.alarm.follow_bound _ _ next

theorem cycled_kept (cycled : Cycled world before after) (plainOpening : stage.opening.isLeap = false)
    (selected : world.filter = .ok filter) (here : world.reference = stage.referenceAt world.elapsed)
    (served : ∀ agenda, world.feed.bind (·.calendar) = some agenda → agenda.Plain)
    (cached : ∀ agenda, before.calendar = some agenda → agenda.Plain) (tidy : before.alarm.Tidy)
    (possible : bound ≠ some 0) (bounded : before.alarm.bound = bound) :
    after.Kept stage filter bound world.elapsed := by
  have boundedAfter : after.alarm.bound = bound := (cycled_bound cycled).trans bounded
  have cachedAfter : ∀ agenda, after.calendar = some agenda → agenda.Plain := by
    intro agenda calendar
    rcases cycled_calendar cycled with kept | fetched
    · exact cached agenda (kept.symm.trans calendar)
    · exact served agenda (fetched.symm.trans calendar)
  refine ⟨possible, boundedAfter, cycled_aligned cycled tidy selected here, ?_, cachedAfter⟩
  cases pending : after.alarm.pending with
  | none => simp [Alarm.tidy_idle _ (cycled_tidy cycled tidy) pending]
  | some wakeup =>
      obtain ⟨_, settled, timed⟩ := cycled_live cycled tidy selected (.inl (by rw [pending]; rfl))
      have plainReference : world.reference.isLeap = false := by
        rw [here]
        exact Stage.reference_plain plainOpening _
      have nonzero : after.alarm.bound ≠ some 0 := by
        rw [boundedAfter]
        exact possible
      exact timed_due world.elapsed cachedAfter plainReference nonzero settled timed

theorem cancelled_kept (kept : before.Kept stage filter bound elapsed) (aligned : after.Aligned stage filter elapsed)
    (cancelled : after.alarm = before.alarm.cancel)
    (cached : ∀ agenda, after.calendar = some agenda → agenda.Plain) : after.Kept stage filter bound elapsed := by
  refine ⟨kept.possible, ?_, aligned, ?_, cached⟩
  · rw [cancelled, before.alarm.cancel_bound]
    exact kept.bounded
  · have quiet : before.alarm.cancel.sleepers = [] := kept.aligned.tidy
    simp [cancelled, quiet]

theorem handled_kept (handled : Handled world before after) (plainOpening : stage.opening.isLeap = false)
    (selected : world.filter = .ok filter) (here : world.reference = stage.referenceAt world.elapsed)
    (served : ∀ agenda, world.feed.bind (·.calendar) = some agenda → agenda.Plain)
    (kept : before.Kept stage filter bound world.elapsed) : after.Kept stage filter bound world.elapsed := by
  have aligned := handled_aligned handled kept.aligned selected here
  cases handled with
  | ignored => exact kept
  | unknown => exact ⟨kept.possible, kept.bounded, aligned, kept.rested, kept.cached⟩
  | misconfigured | waiting => exact cancelled_kept kept aligned rfl kept.cached
  | disposed => exact cancelled_kept kept aligned rfl (by simp)
  | cycled phase status calendar after source cycled =>
      refine cycled_kept cycled plainOpening selected here served ?_ kept.aligned.tidy kept.possible
        kept.bounded
      intro agenda same
      rcases source with old | new
      · exact kept.cached agenda (old.symm.trans same)
      · exact served agenda (new.symm.trans same)

theorem kept_fresh (plainOpening : stage.opening.isLeap = false) (kept : standing.Kept stage none bound elapsed)
    (live : standing.Live) :
    (∃ board, Board.resolve standing.calendar (stage.referenceAt elapsed) none = .ok board ∧
      standing.boards.head? = some board) ∧
    Board.nextBoundary standing.calendar (stage.referenceAt elapsed) = .ok standing.alarm.target? := by
  obtain ⟨_, moment, past, settled, timed⟩ := kept.aligned.live live
  obtain ⟨agenda, calendar⟩ := settled_agenda settled
  have quiet := settled_quiet plainOpening agenda (kept.cached agenda calendar) calendar moment settled timed
    elapsed past kept.rested
  obtain ⟨board, resolved, last⟩ := settled.shown
  have armed := settled.armed
  rw [calendar] at resolved armed ⊢
  refine ⟨⟨board, ?_, last⟩, ?_⟩
  · rw [Board.quiet_unfiltered quiet]
    exact resolved
  · rw [Board.quiet_boundary quiet]
    exact armed

end Standing

end NowNext
