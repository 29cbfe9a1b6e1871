import NowNext.Proofs.Keeper.Endings

set_option autoImplicit false

namespace NowNext

inductive Query (C : Type) where
  | isPresent (calendar : C) (t : Instant)
  | current (calendar : C) (t : Instant) (filter : Option Filter)
  | next (calendar : C) (t : Instant) (filter : Option Filter)

def Query.Agreed {C : Type} (one other : Calendar C) : Query C → Prop
  | isPresent calendar t => one.isPresent calendar t = other.isPresent calendar t
  | current calendar t filter => one.current calendar t filter = other.current calendar t filter
  | next calendar t filter => one.next calendar t filter = other.next calendar t filter

namespace Board

variable {C : Type}

def queries (calendar : Option C) (t : Instant) (filter : Option Filter) : List (Query C) :=
  match calendar with
  | some calendar => [.current calendar t filter, .next calendar t filter]
  | none => []

def presentQueries [Calendar C] (calendar : C) (t : Instant) : List (Query C) :=
  .isPresent calendar t :: if Calendar.isPresent calendar t then [.current calendar t none] else []

-- What `nextBoundary` asks. After a contradiction it asks no more.
def boundaryQueries [Calendar C] (calendar : Option C) (t : Instant) : List (Query C) :=
  match calendar with
  | some calendar =>
      presentQueries calendar t ++ match presentEnd calendar t with
        | .ok _ => [.next calendar t none]
        | .error _ => []
  | none => []

theorem resolve_local (one other : Calendar C) (calendar : Option C) (t : Instant) (filter : Option Filter)
    (agreed : ∀ query ∈ queries calendar t filter, query.Agreed one other) :
    @resolve C one calendar t filter = @resolve C other calendar t filter := by
  cases calendar with
  | none => rfl
  | some calendar =>
      have current := agreed (.current calendar t filter) (by simp [queries])
      have next := agreed (.next calendar t filter) (by simp [queries])
      exact congrArg₂ (fun current next => Except.ok (Board.mk current next)) current next

theorem present_end_local (one other : Calendar C) (calendar : C) (t : Instant)
    (agreed : ∀ query ∈ @presentQueries C one calendar t, query.Agreed one other) :
    @presentEnd C one calendar t = @presentEnd C other calendar t := by
  have present : one.isPresent calendar t = other.isPresent calendar t :=
    agreed (.isPresent calendar t) (by simp [presentQueries])
  unfold presentEnd
  rw [← present]
  by_cases there : one.isPresent calendar t = true
  · have current : one.current calendar t none = other.current calendar t none :=
      agreed (.current calendar t none) (by simp [presentQueries, there])
    rw [if_pos there, if_pos there, current]
  · rw [if_neg there, if_neg there]

theorem boundary_local (one other : Calendar C) (calendar : Option C) (t : Instant)
    (agreed : ∀ query ∈ @boundaryQueries C one calendar t, query.Agreed one other) :
    @nextBoundary C one calendar t = @nextBoundary C other calendar t := by
  cases calendar with
  | none => rfl
  | some calendar =>
      have finish := present_end_local one other calendar t fun query member =>
        agreed query (List.mem_append_left _ member)
      have split (answers : Calendar C) : @nextBoundary C answers (some calendar) t =
          (@presentEnd C answers calendar t).bind fun finish =>
            .ok (earlier finish ((answers.next calendar t none).map (·.start))) := rfl
      rw [split one, split other, ← finish]
      cases found : @presentEnd C one calendar t with
      | error cause => rfl
      | ok finish =>
          have next : one.next calendar t none = other.next calendar t none :=
            agreed (.next calendar t none) (by simp [boundaryQueries, found])
          rw [next]

end Board

variable {C : Type}

def Surroundings.queries [Calendar C] (world : Surroundings C) (calendar : Option C) : List (Query C) :=
  match world.feed with
  | none => []
  | some feed =>
      if feed.link ≠ .online then []
      else
        match world.filter with
        | .error _ => []
        | .ok filter =>
            Board.queries calendar world.reference filter ++ Board.boundaryQueries calendar world.reference

namespace Keeper

def queries [Calendar C] (world : Surroundings C) (keeper : Keeper C) (trigger : Trigger) : List (Query C) :=
  match keeper.begun? world trigger with
  | some begun => world.queries (world.effective begun.calendar)
  | none => []

section Agreement

variable (one other : Calendar C) (world : Surroundings C) (keeper : Keeper C)

theorem display_local (reference : Instant) (board : Board)
    (boundary : @Board.nextBoundary C one keeper.calendar reference =
      @Board.nextBoundary C other keeper.calendar reference) :
    @display C one world reference board keeper = @display C other world reference board keeper := by
  let published := (publish world board ((setStatus world .online keeper).note (.resolved reference board))).keeper
  have calendar : published.calendar = keeper.calendar :=
    congrArg Standing.calendar (standing_published world keeper reference board)
  have scheduled : @reschedule C one world reference published = @reschedule C other world reference published := by
    rw [← calendar] at boundary
    unfold reschedule
    rw [boundary]
  change Outcome.mk (@reschedule C one world reference published).keeper _ = _
  rw [scheduled]
  rfl

theorem cycle_local
    (agreed : ∀ query ∈ @Surroundings.queries C one world (world.effective keeper.calendar), query.Agreed one other) :
    @cycle C one world keeper = @cycle C other world keeper := by
  unfold Surroundings.queries at agreed
  rw [@cycle_outlook C one, @cycle_outlook C other]
  unfold Surroundings.outlook
  cases connected : world.feed with
  | none => rfl
  | some feed =>
      by_cases online : feed.link = .online
      · cases selected : world.filter with
        | error cause => simp only [online, ne_eq, not_true_eq_false, if_false]
        | ok filter =>
            simp only [connected, selected, online, ne_eq, not_true_eq_false, if_false] at agreed
            have shown := Board.resolve_local one other (world.effective keeper.calendar) world.reference filter
              fun query member => agreed query (List.mem_append_left _ member)
            have boundary := Board.boundary_local one other (world.effective keeper.calendar) world.reference
              fun query member => agreed query (List.mem_append_right _ member)
            simp only [online, ne_eq, not_true_eq_false, if_false, shown]
            cases @Board.resolve C other (world.effective keeper.calendar) world.reference filter with
            | error cause => rfl
            | ok board => exact display_local one other world _ _ board boundary
      · simp only [online, ne_eq, not_false_eq_true, if_true]

theorem unbegun_local (trigger : Trigger) (unbegun : keeper.begun? world trigger = none) :
    @handle C one world keeper trigger = @handle C other world keeper trigger := by
  cases trigger with
  | start =>
      by_cases disposed : keeper.phase = .disposed
      · exact (if_pos disposed).trans (if_pos disposed).symm
      · unfold handle
        rw [@start_alive C one world keeper disposed, @start_alive C other world keeper disposed]
        unfold begun? at unbegun
        cases connected : world.feed with
        | none => rfl
        | some feed =>
            cases selected : world.filter with
            | error cause => rfl
            | ok filter =>
                have offline : feed.link ≠ .online := by
                  intro online
                  rw [connected, selected] at unbegun
                  cases unbegun.symm.trans (if_pos ⟨disposed, online⟩)
                exact (if_pos offline).trans (if_pos offline).symm
  | refresh =>
      by_cases listens : keeper.phase.listens = true
      · cases unbegun.symm.trans (if_pos listens)
      · exact (if_neg listens).trans (if_neg listens).symm
  | calendarUpdated =>
      by_cases listens : keeper.phase.listens = true
      · cases unbegun.symm.trans (if_pos listens)
      · exact (if_neg listens).trans (if_neg listens).symm
  | linkChanged link =>
      cases link with
      | online =>
          by_cases listens : keeper.phase.listens = true
          · cases unbegun.symm.trans (if_pos listens)
          · exact (if_neg listens).trans (if_neg listens).symm
      | offline | unknown => rfl
  | dispose => rfl
  | wake generation =>
      change Outcome.mk (@wake C one world generation keeper) none = ⟨@wake C other world generation keeper, none⟩
      unfold wake
      by_cases disposed : keeper.phase = .disposed
      · simp only [if_pos disposed]
      · by_cases own : keeper.alarm.holds generation = true
        · cases unbegun.symm.trans (if_pos ⟨disposed, own⟩)
        · simp only [if_neg disposed, if_neg own]

theorem handle_local (trigger : Trigger)
    (agreed : ∀ query ∈ @queries C one world keeper trigger, query.Agreed one other) :
    @handle C one world keeper trigger = @handle C other world keeper trigger := by
  unfold queries at agreed
  cases begins : keeper.begun? world trigger with
  | some begun =>
      rw [begins] at agreed
      obtain ⟨_, first⟩ := @begun_begins C one world keeper trigger begun begins
      obtain ⟨_, second⟩ := @begun_begins C other world keeper trigger begun begins
      rw [first, second, cycle_local one other world begun agreed]
  | none => exact unbegun_local one other world keeper trigger begins

end Agreement

end Keeper

end NowNext
