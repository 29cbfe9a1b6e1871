import Mathlib.Data.List.Forall2
import NowNext.Proofs.Board.Hidden
import NowNext.Proofs.Keeper.Abreast
import NowNext.Proofs.Keeper.Runs

set_option autoImplicit false

namespace NowNext

def Update.status? : Update → Option Status
  | board _ => none
  | status reported => some reported

def Move.Replied {C : Type} (publisher : Publisher) (move : Move C) : Prop :=
  publisher.Replied move.before.keeper.journal move.after.keeper.journal move.fault

namespace Run

variable {C β : Type}

structure Abreast (view : Update → β) (one other : Run C) : Prop where
  keeper : one.keeper.Abreast view other.keeper
  feed : one.feed = other.feed
  elapsed : one.elapsed = other.elapsed
  isDropped : one.isDropped = other.isDropped

theorem set_link_abreast {view : Update → β} {one other : Run C} (abreast : one.Abreast view other) (link : Link) :
    (one.setLink link).Abreast view (other.setLink link) :=
  ⟨abreast.keeper, congrArg (Option.map fun feed : Feed C => (feed.setLink link).1) abreast.feed, abreast.elapsed,
    abreast.isDropped⟩

theorem set_calendar_abreast {view : Update → β} {one other : Run C} (abreast : one.Abreast view other)
    (calendar : Option C) : (one.setCalendar calendar).Abreast view (other.setCalendar calendar) :=
  ⟨abreast.keeper, congrArg (Option.map fun feed : Feed C => ({ feed with calendar } : Feed C)) abreast.feed,
    abreast.elapsed, abreast.isDropped⟩

end Run

-- Both lead to the same place. Their results are the same, or what the publishers said, and they are the
-- same if the publishers say the same all along.
structure Move.Paired {C β : Type} (view : Update → β) (left right : Publisher) (one other : Move C) : Prop where
  abreast : one.after.Abreast view other.after
  answered : one.fault = other.fault ∨ one.Replied left ∧ other.Replied right
  agreed : ∀ last final, one.after.keeper.journal <:+ last → other.after.keeper.journal <:+ final →
    left.answers last = right.answers final → one.fault = other.fault

theorem Move.quiet_paired {C β : Type} {view : Update → β} {left right : Publisher} {one other first second : Run C}
    (abreast : first.Abreast view second) :
    Move.Paired view left right ⟨one, first, none⟩ ⟨other, second, none⟩ :=
  ⟨abreast, .inl rfl, fun _ _ _ _ _ => rfl⟩

namespace Run

variable {C β : Type} [Calendar C]

section Growth

variable (settings : Settings) (publisher : Publisher)

theorem grows_lasting (journal : Journal) :
    Lasting settings publisher (fun _ => True) fun run : Run C => journal <:+ run.keeper.journal := by
  refine ⟨fun _ => trivial, ?_, fun _ _ _ _ grown => grown, fun _ _ grown => grown, fun _ _ grown => grown,
    fun _ grown => grown⟩
  intro run opening trigger _ grown
  unfold handle
  by_cases dropped : run.isDropped = true
  · rw [if_pos dropped]
    exact grown
  · rw [if_neg dropped]
    exact grown.trans (Keeper.acts_grow (Keeper.handle_acts _ run.keeper trigger))

theorem wakings_grow (opening : Instant) (limit fuel : Nat) (run : Run C) (move : Move C)
    (member : move ∈ run.wakings { settings, publisher, opening } limit fuel) :
    move.after.keeper.journal <:+ (run.wakeUntil { settings, publisher, opening } limit fuel).keeper.journal := by
  induction fuel generalizing run with
  | zero => cases member
  | succ fuel ih =>
      unfold wakeUntil
      cases woken : run.wakeNext? { settings, publisher, opening } limit with
      | none =>
          rw [wakings_rest woken] at member
          cases member
      | some awake =>
          rw [wakings_woken woken] at member
          rcases List.mem_cons.mp member with rfl | later
          · have lasting := grows_lasting (C := C) settings publisher awake.keeper.journal
            exact wake_until_preserves (fun run generation => lasting.handled run opening _ trivial) lasting.passed
              limit fuel awake List.suffix_rfl
          · exact ih awake later

theorem moves_grow (incidents : List (Incident C)) (run : Run C) (move : Move C)
    (member : move ∈ run.moves settings publisher incidents) :
    move.after.keeper.journal <:+ (run.through settings publisher incidents).keeper.journal := by
  induction incidents generalizing run with
  | nil => cases member
  | cons incident rest ih =>
      rcases List.mem_append.mp member with here | later
      · have met : move.after.keeper.journal <:+ (run.meet settings publisher incident).1.keeper.journal := by
          obtain ⟨opening, elapsed, op⟩ := incident
          rcases List.mem_append.mp here with during | last
          · cases op with
            | advance millis => exact wakings_grow settings publisher opening _ _ _ move during
            | trigger | setLink | setCalendar | drop => cases during
          · rw [List.mem_singleton.mp last]
            exact List.suffix_rfl
        exact through_lasting (grows_lasting settings publisher _) rest (fun _ _ _ _ => trivial) met
      · exact ih _ later

end Growth

section Pairs

variable {view : Update → β} {one other : Run C} {left right : Settings} (p q : Publisher) (opening : Instant)
  (lead : left.lead = right.lead) (looks : LooksAlike C view left.filter right.filter)
  (abreast : one.Abreast view other)
include lead looks abreast

theorem surroundings_abreast :
    (one.surroundings { settings := left, publisher := p, opening }).Abreast view
      (other.surroundings { settings := right, publisher := q, opening }) := by
  refine ⟨abreast.feed, ?_, abreast.elapsed, looks⟩
  change left.lead.apply (opening.plusMillis one.elapsed) = right.lead.apply (opening.plusMillis other.elapsed)
  rw [lead, abreast.elapsed]

theorem handle_paired (trigger : Trigger) :
    let first := one.handle { settings := left, publisher := p, opening } trigger
    let second := other.handle { settings := right, publisher := q, opening } trigger
    Move.Paired view p q ⟨one, first.1, first.2⟩ ⟨other, second.1, second.2⟩ := by
  intro first second
  have paired := Keeper.handle_paired abreast.keeper (surroundings_abreast p q opening lead looks abreast) trigger
  by_cases dropped : one.isDropped = true
  · have same : first = (one, none) := if_pos dropped
    have still : second = (other, none) := if_pos (abreast.isDropped.symm.trans dropped)
    rw [same, still]
    exact Move.quiet_paired abreast
  · have held : other.isDropped ≠ true := fun gone => dropped (abreast.isDropped.trans gone)
    have handled : first = _ := if_neg dropped
    have done : second = _ := if_neg held
    rw [handled, done]
    exact ⟨⟨paired.abreast, abreast.feed, abreast.elapsed, abreast.isDropped⟩, paired.answered, paired.agreed⟩

theorem wakings_paired (limit fuel : Nat) :
    let stage : Stage := { settings := left, publisher := p, opening }
    let scene : Stage := { settings := right, publisher := q, opening }
    (one.wakeUntil stage limit fuel).Abreast view (other.wakeUntil scene limit fuel) ∧
      List.Forall₂ (Move.Paired view p q) (one.wakings stage limit fuel) (other.wakings scene limit fuel) := by
  intro stage scene
  induction fuel generalizing one other with
  | zero => exact ⟨abreast, .nil⟩
  | succ fuel ih =>
      have asleep : one.keeper.alarm.wake? limit = other.keeper.alarm.wake? limit := by rw [abreast.keeper.alarm]
      unfold wakeUntil wakings wakeNext?
      rw [asleep]
      cases other.keeper.alarm.wake? limit with
      | none => exact ⟨abreast, .nil⟩
      | some woken =>
          obtain ⟨sleeper, alarm⟩ := woken
          have roused : Abreast view
              { one with keeper := { one.keeper with alarm }, elapsed := max one.elapsed sleeper.due }
              { other with keeper := { other.keeper with alarm }, elapsed := max other.elapsed sleeper.due } := by
            have keeper := abreast.keeper
            exact ⟨⟨keeper.phase, keeper.status, keeper.calendar, rfl, keeper.seen⟩, abreast.feed,
              congrArg (max · sleeper.due) abreast.elapsed, abreast.isDropped⟩
          have awake := (handle_paired p q opening lead looks roused (.wake sleeper.generation)).abreast
          obtain ⟨last, rest⟩ := ih awake
          exact ⟨last, .cons (Move.quiet_paired awake) rest⟩

theorem meet_paired (incident : Incident C) :
    (one.meet left p incident).1.Abreast view (other.meet right q incident).1 ∧
      List.Forall₂ (Move.Paired view p q) (one.movesOf left p incident) (other.movesOf right q incident) := by
  obtain ⟨opening, elapsed, op⟩ := incident
  have begun : Abreast view { one with elapsed } { other with elapsed } :=
    ⟨abreast.keeper, abreast.feed, rfl, abreast.isDropped⟩
  cases op with
  | trigger trigger =>
      have handled := handle_paired p q opening lead looks begun trigger
      exact ⟨handled.abreast, .cons handled .nil⟩
  | setLink link =>
      have linked := set_link_abreast begun link
      exact ⟨linked, .cons (Move.quiet_paired linked) .nil⟩
  | setCalendar calendar =>
      have replaced := set_calendar_abreast begun calendar
      exact ⟨replaced, .cons (Move.quiet_paired replaced) .nil⟩
  | advance millis =>
      obtain ⟨last, wakings⟩ := wakings_paired p q opening lead looks begun (elapsed + millis) (millis + 1)
      have ended : ((Run.mk one.keeper one.feed elapsed one.isDropped).advance
          { settings := left, publisher := p, opening } millis).Abreast view
            ((Run.mk other.keeper other.feed elapsed other.isDropped).advance
              { settings := right, publisher := q, opening } millis) :=
        ⟨last.keeper, last.feed, rfl, last.isDropped⟩
      exact ⟨ended, List.rel_append wakings (.cons (Move.quiet_paired ended) .nil)⟩
  | drop =>
      have dropped : Abreast view { one with elapsed, isDropped := true } { other with elapsed, isDropped := true } :=
        ⟨begun.keeper, begun.feed, rfl, rfl⟩
      exact ⟨dropped, .cons (Move.quiet_paired dropped) .nil⟩

theorem moves_paired (incidents : List (Incident C)) :
    (one.through left p incidents).Abreast view (other.through right q incidents) ∧
      List.Forall₂ (Move.Paired view p q) (one.moves left p incidents) (other.moves right q incidents) := by
  induction incidents generalizing one other with
  | nil => exact ⟨abreast, .nil⟩
  | cons incident rest ih =>
      obtain ⟨met, first⟩ := meet_paired p q lead looks abreast incident
      obtain ⟨last, later⟩ := ih met
      exact ⟨last, List.rel_append first later⟩

end Pairs

omit [Calendar C] in
theorem same_start (view : Update → β) (feed : Option (Feed C)) : ({ feed } : Run C).Abreast view { feed } :=
  ⟨Keeper.abreast_refl {}, rfl, rfl, rfl⟩

theorem looks_alike_self (view : Update → β) (selection : Except SetupFault (Option Filter)) :
    LooksAlike C view selection selection := by
  cases selection with
  | error cause => rfl
  | ok filter => exact fun _ _ => rfl

theorem filters_look_alike (one other : Option Filter) : LooksAlike C Update.status? (.ok one) (.ok other) := by
  intro calendar t
  cases calendar <;> rfl

-- Two publishers may answer what they like, also to the same. A result that is not the same for both is
-- what the publisher of its own run said to the board that it was handed then.
theorem publisher_never_steers (settings : Settings) (left right : Publisher) (feed : Option (Feed C))
    (incidents : List (Incident C)) :
    let start : Run C := { feed }
    (start.through settings left incidents).Abreast id (start.through settings right incidents) ∧
      List.Forall₂ (fun one other => one.after.Abreast id other.after ∧
          (one.fault = other.fault ∨ one.Replied left ∧ other.Replied right))
        (start.moves settings left incidents) (start.moves settings right incidents) := by
  intro start
  obtain ⟨last, paired⟩ :=
    moves_paired left right rfl (looks_alike_self id settings.filter) (same_start id feed) incidents
  exact ⟨last, paired.imp fun _ _ pair => ⟨pair.abreast, pair.answered⟩⟩

example :
    (vigil.moves {} (fun _ => none) [⟨.first, 0, .trigger .start⟩]).map (·.fault) = [none] ∧
      (vigil.moves {} (fun _ => some (.publishing "full")) [⟨.first, 0, .trigger .start⟩]).map (·.fault) =
        [some (.publishing "full")] := by
  decide +kernel

-- A board counts as handed over, whatever it shows. The results are the same where the publishers say the
-- same to what they are handed.
theorem filter_only_selects (one other : Settings) (lead : one.lead = other.lead)
    (first second : Option Filter) (selected : one.filter = .ok first) (chosen : other.filter = .ok second)
    (left right : Publisher) (feed : Option (Feed C)) (incidents : List (Incident C)) :
    let start : Run C := { feed }
    let plain := start.through one left incidents
    let narrow := start.through other right incidents
    left.answers plain.keeper.journal = right.answers narrow.keeper.journal →
      plain.Abreast Update.status? narrow ∧
      List.Forall₂ (fun one other => one.after.Abreast Update.status? other.after ∧ one.fault = other.fault)
        (start.moves one left incidents) (start.moves other right incidents) := by
  intro start plain narrow same
  have looks : LooksAlike C Update.status? one.filter other.filter := by
    rw [selected, chosen]
    exact filters_look_alike first second
  obtain ⟨last, paired⟩ := moves_paired left right lead looks (same_start Update.status? feed) incidents
  refine ⟨last, List.forall₂_iff_zip.mpr ⟨paired.length_eq, fun {first second} member => ?_⟩⟩
  obtain ⟨mine, theirs⟩ := List.of_mem_zip member
  have pair := List.forall₂_zip paired member
  exact ⟨pair.abreast, pair.agreed _ _ (moves_grow one left incidents start first mine)
    (moves_grow other right incidents start second theirs) same⟩

def afternoon : List (Incident Agenda) :=
  [⟨Board.minute 750, 0, .trigger .start⟩, ⟨Board.minute 750, 0, .advance 16200000⟩]

def shownTitles (run : Run Agenda) : List (Option String) :=
  run.keeper.journal.boards.map fun board => board.current.map (·.title)

theorem filter_only_selects_at_gym :
    let start : Run Agenda := { feed := some ⟨.online, some workday⟩ }
    let plain := start.through {} (fun _ => none) afternoon
    let narrow := start.through Board.onlyGym (fun _ => none) afternoon
    (∃ filter, Board.onlyGym.filter = .ok (some filter)) ∧ plain.Abreast Update.status? narrow ∧
      plain.shownTitles = [none, some "Work", some "Work"] ∧ narrow.shownTitles = [none, none, some "Gym"] := by
  intro start plain narrow
  obtain ⟨filter, chosen, _⟩ := Board.only_gym_filter
  obtain ⟨last, _⟩ := filter_only_selects {} Board.onlyGym rfl none (some filter) rfl chosen (fun _ => none)
    (fun _ => none) (some ⟨.online, some workday⟩) afternoon (by decide +kernel)
  exact ⟨⟨filter, chosen⟩, last, by decide +kernel, by decide +kernel⟩

end Run

end NowNext
