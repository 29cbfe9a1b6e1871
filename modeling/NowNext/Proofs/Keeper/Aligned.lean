import NowNext.Proofs.Keeper.Standing
import NowNext.Proofs.Time.Reference

set_option autoImplicit false

namespace NowNext

theorem Status.of_feed_fault_offline (cause : FeedFault) : Status.ofFeedFault cause ≠ .online := by
  cases cause <;> simp [ofFeedFault]

theorem Status.of_fault_offline (fault : Fault) : Status.ofFault fault ≠ .online := by
  cases fault with
  | feed cause => exact of_feed_fault_offline cause
  | _ => simp [ofFault, ofSetupFault]

namespace Standing

variable {C : Type} [Calendar C]

structure Settled (filter : Option Filter) (reference : Instant) (standing : Standing C) : Prop where
  read : standing.reference = some reference
  shown : ∃ board, Board.resolve standing.calendar reference filter = .ok board ∧
    standing.boards.head? = some board
  armed : Board.nextBoundary standing.calendar reference = .ok standing.alarm.target?

def Live (standing : Standing C) : Prop :=
  standing.alarm.pending.isSome = true ∨ standing.phase = .ready ∧ standing.status = .online

structure Aligned (stage : Stage) (filter : Option Filter) (elapsed : Nat) (standing : Standing C) : Prop where
  tidy : standing.alarm.Tidy
  live : standing.Live → standing.phase = .ready ∧ ∃ moment, moment ≤ elapsed ∧
    standing.Settled filter (stage.referenceAt moment) ∧ standing.alarm.Timed moment (stage.referenceAt moment)

variable {stage : Stage} {filter : Option Filter} {elapsed : Nat} {world : Surroundings C}
  {before after : Standing C}

omit [Calendar C] in
theorem idle_not_live (standing : Standing C) (idle : standing.alarm.pending = none)
    (offline : standing.status ≠ .online) : ¬ standing.Live := by
  rintro (set | ⟨_, online⟩)
  · rw [idle] at set
    cases set
  · exact offline online

omit [Calendar C] in
theorem refused_not_live (phase : Phase) (fault : Fault) : ¬ (before.refused phase fault).Live :=
  idle_not_live _ before.alarm.cancel_pending (Status.of_fault_offline fault)

theorem refused_aligned (phase : Phase) (fault : Fault) (tidy : before.alarm.Tidy) :
    (before.refused phase fault).Aligned stage filter elapsed :=
  ⟨before.alarm.cancel_tidy tidy, fun live => absurd live (refused_not_live phase fault)⟩

theorem cycled_timed (cycled : Cycled world before after) (tidy : before.alarm.Tidy) :
    after.alarm.Timed world.elapsed world.reference := by
  cases cycled with
  | missing | offline | broken | blank | contradicted => exact before.alarm.follow_timed tidy _ _ none
  | shown feed filter board next => exact before.alarm.follow_timed tidy _ _ next

theorem cycled_tidy (cycled : Cycled world before after) (tidy : before.alarm.Tidy) : after.alarm.Tidy :=
  Alarm.timed_tidy _ _ _ (cycled_timed cycled tidy)

theorem cycled_settled (cycled : Cycled world before after) (selected : world.filter = .ok filter) (live : after.Live) :
    after.phase = .ready ∧ after.Settled filter world.reference := by
  cases cycled with
  | missing | offline | broken | blank => exact absurd live (refused_not_live _ _)
  | shown feed found board next connected online same resolved boundary =>
      cases Except.ok.inj (same.symm.trans selected)
      refine ⟨rfl, rfl, ⟨board, resolved, rfl⟩, ?_⟩
      rw [Alarm.follow_target]
      exact boundary
  | contradicted feed found board cause =>
      exact absurd live (idle_not_live _ before.alarm.cancel_pending (Status.of_feed_fault_offline cause))

theorem cycled_live (cycled : Cycled world before after) (tidy : before.alarm.Tidy)
    (selected : world.filter = .ok filter) (live : after.Live) :
    after.phase = .ready ∧ after.Settled filter world.reference ∧
      after.alarm.Timed world.elapsed world.reference := by
  obtain ⟨ready, settled⟩ := cycled_settled cycled selected live
  exact ⟨ready, settled, cycled_timed cycled tidy⟩

theorem cycled_aligned (cycled : Cycled world before after) (tidy : before.alarm.Tidy)
    (selected : world.filter = .ok filter) (here : world.reference = stage.referenceAt world.elapsed) :
    after.Aligned stage filter world.elapsed := by
  refine ⟨cycled_tidy cycled tidy, fun live => ?_⟩
  obtain ⟨ready, settled, timed⟩ := cycled_live cycled tidy selected live
  rw [here] at settled timed
  exact ⟨ready, world.elapsed, Nat.le_refl _, settled, timed⟩

theorem handled_aligned (handled : Handled world before after) (aligned : before.Aligned stage filter world.elapsed)
    (selected : world.filter = .ok filter) (here : world.reference = stage.referenceAt world.elapsed) :
    after.Aligned stage filter world.elapsed := by
  cases handled with
  | ignored => exact aligned
  | unknown =>
      refine ⟨aligned.tidy, ?_⟩
      rintro (set | ⟨_, online⟩)
      · obtain ⟨ready, moment, past, settled, timed⟩ := aligned.live (.inl set)
        exact ⟨ready, moment, past, ⟨settled.read, settled.shown, settled.armed⟩, timed⟩
      · cases online
  | misconfigured | waiting => exact refused_aligned _ _ aligned.tidy
  | disposed =>
      refine ⟨before.alarm.cancel_tidy aligned.tidy, ?_⟩
      rintro (set | ⟨ready, _⟩)
      · rw [before.alarm.cancel_pending] at set
        cases set
      · cases ready
  | cycled phase status calendar after source cycled => exact cycled_aligned cycled aligned.tidy selected here

theorem aligned_later (later : Nat) (order : elapsed ≤ later) (aligned : before.Aligned stage filter elapsed) :
    before.Aligned stage filter later := by
  refine ⟨aligned.tidy, fun live => ?_⟩
  obtain ⟨ready, moment, past, settled, timed⟩ := aligned.live live
  exact ⟨ready, moment, Nat.le_trans past order, settled, timed⟩

end Standing

theorem Feed.set_link_feed {C : Type} (feed : Feed C) (link : Link) :
    (feed.setLink link).1 = { feed with link } := by
  unfold setLink
  by_cases same : feed.link = link
  · rw [if_pos same, ← same]
  · rw [if_neg same]

namespace Run

variable {C : Type} [Calendar C]

theorem handle_held {stage : Stage} {run : Run C} (held : run.isDropped = false) (trigger : Trigger) :
    (run.handle stage trigger).1 =
      { run with keeper := (run.keeper.handle (run.surroundings stage) trigger).keeper } := by
  rw [handle, held]
  rfl

end Run

end NowNext
