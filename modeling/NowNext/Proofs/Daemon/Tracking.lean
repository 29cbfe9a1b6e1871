import Mathlib.Data.List.Induction
import NowNext.Daemon.Watcher
import NowNext.Proofs.Keeper.Meanwhile

set_option autoImplicit false

namespace NowNext

namespace Standing

structure Shows (filter : Option Filter) (agenda : Agenda) (standing : Standing Agenda) : Prop where
  ready : standing.phase = .ready
  online : standing.status = .online
  calendar : standing.calendar = some agenda
  settled : ∃ reference, standing.Settled filter reference

structure Waits (good : Option Agenda) (standing : Standing Agenda) : Prop where
  waiting : standing.phase = .waiting
  offline : standing.status = .offline .feedOffline none
  calendar : standing.calendar = good
  idle : standing.alarm.pending = none

def Knows (calendar : Option Agenda) (standing : Standing Agenda) : Prop :=
  standing.phase.listens = true ∧ standing.calendar = calendar

variable {filter : Option Filter} {world : Surroundings Agenda} {before after : Standing Agenda}

theorem shows_knows (agenda : Agenda) (shows : before.Shows filter agenda) : before.Knows (some agenda) := by
  refine ⟨?_, shows.calendar⟩
  rw [shows.ready]
  rfl

theorem waits_knows (good : Option Agenda) (waits : before.Waits good) : before.Knows good := by
  refine ⟨?_, waits.calendar⟩
  rw [waits.waiting]
  rfl

theorem cycled_knows (cycled : Cycled world before after) (agenda : Agenda) (known : before.calendar = some agenda) :
    after.Knows (some agenda) := by
  refine ⟨cycled_listens cycled, ?_⟩
  cases cycled with
  | missing | offline | broken => exact known
  | blank | shown | contradicted => simp [refused, known]

theorem cycled_shows (cycled : Cycled world before after) (feed : Feed Agenda) (connected : world.feed = some feed)
    (online : feed.link = .online) (selected : world.filter = .ok filter) (agenda : Agenda)
    (known : before.calendar.or feed.calendar = some agenda) : after.Shows filter agenda := by
  cases cycled with
  | missing missing => cases missing.symm.trans connected
  | offline other found away =>
      cases found.symm.trans connected
      exact absurd online away
  | broken other cause found _ broken => cases broken.symm.trans selected
  | blank other chosen cause found _ _ failed =>
      cases found.symm.trans connected
      rw [known] at failed
      cases failed
  | shown other chosen board next found _ same resolved boundary =>
      cases found.symm.trans connected
      cases same.symm.trans selected
      refine ⟨rfl, rfl, known, world.reference, ⟨rfl, ⟨board, resolved, rfl⟩, ?_⟩⟩
      rw [Alarm.follow_target]
      exact boundary
  | contradicted other chosen board cause found _ _ _ boundary =>
      cases found.symm.trans connected
      rw [known, Board.next_boundary_agenda] at boundary
      cases boundary

theorem listens_steady (feed : Feed Agenda) :
    Steady filter feed fun standing => standing.phase.listens = true :=
  ⟨fun _ _ listens => listens, fun _ _ _ _ _ _ _ cycled => cycled_listens cycled⟩

theorem knows_steady (feed : Feed Agenda) (agenda : Agenda) : Steady filter feed (Knows (some agenda)) :=
  ⟨fun _ _ knows => knows, fun _ _ _ _ _ knows _ cycled => cycled_knows cycled agenda knows.2⟩

theorem shows_steady (agenda : Agenda) : Steady filter ⟨.online, some agenda⟩ (Shows filter agenda) := by
  constructor
  · intro standing sleepers shows
    obtain ⟨reference, settled⟩ := shows.settled
    exact ⟨shows.ready, shows.online, shows.calendar, reference, settled.read, settled.shown, settled.armed⟩
  · intro world before after connected selected shows _ cycled
    refine cycled_shows cycled _ connected rfl selected agenda ?_
    change before.calendar.or _ = _
    rw [shows.calendar]
    rfl

theorem waits_steady (feed : Feed Agenda) (good : Option Agenda) : Steady filter feed (Waits good) := by
  constructor
  · intro standing sleepers waits
    exact ⟨waits.waiting, waits.offline, waits.calendar, waits.idle⟩
  · intro world before after _ _ waits set _
    rw [waits.idle] at set
    cases set

end Standing

namespace Run

variable {filter : Option Filter} {agenda : Agenda}

theorem calendar_updated_shows (stage : Stage) (run : Run Agenda) (selected : stage.filter = .ok filter)
    (stands : run.Stands ⟨.online, some agenda⟩ fun standing => standing.phase.listens = true) :
    (run.handle stage .calendarUpdated).1.Stands ⟨.online, some agenda⟩ (Standing.Shows filter agenda) := by
  rw [handle_held stands.held]
  refine ⟨stands.held, stands.feed, ?_⟩
  have cycled := run.keeper.calendar_updated_standing (run.surroundings stage) stands.standing
  refine Standing.cycled_shows cycled _ stands.feed rfl selected agenda ?_
  change (run.feed.bind _).or _ = _
  rw [stands.feed]
  rfl

theorem link_online_shows (stage : Stage) (run : Run Agenda) (selected : stage.filter = .ok filter)
    (stands : run.Stands ⟨.online, some agenda⟩ (Standing.Knows (some agenda))) :
    (run.handle stage (.linkChanged .online)).1.Stands ⟨.online, some agenda⟩ (Standing.Shows filter agenda) := by
  rw [handle_held stands.held]
  refine ⟨stands.held, stands.feed, ?_⟩
  have cycled := run.keeper.link_online_standing (run.surroundings stage) stands.standing.1
  refine Standing.cycled_shows cycled _ stands.feed rfl selected agenda ?_
  rw [stands.standing.2]
  rfl

theorem link_offline_waits (stage : Stage) (run : Run Agenda) (feed : Feed Agenda) (good : Option Agenda)
    (stands : run.Stands feed (Standing.Knows good)) :
    (run.handle stage (.linkChanged .offline)).1.Stands feed (Standing.Waits good) := by
  rw [handle_held stands.held]
  refine ⟨stands.held, stands.feed, ?_⟩
  change Standing.Waits good (run.keeper.linkChanged (run.surroundings stage) .offline).keeper.standing
  rw [run.keeper.link_offline_standing (run.surroundings stage) stands.standing.1]
  exact ⟨rfl, rfl, stands.standing.2, run.keeper.alarm.cancel_pending⟩

theorem start_waits (stage : Stage) (run : Run Agenda) (selected : stage.filter = .ok filter) (feed : Feed Agenda)
    (offline : feed.link ≠ .online) (held : run.isDropped = false) (connected : run.feed = some feed)
    (alive : run.keeper.phase ≠ .disposed) :
    (run.handle stage .start).1.Stands feed (Standing.Waits run.keeper.calendar) := by
  rw [handle_held held]
  refine ⟨held, connected, ?_⟩
  change Standing.Waits _ (run.keeper.start (run.surroundings stage)).keeper.standing
  rw [Keeper.start_offline_standing _ _ feed filter alive connected selected offline]
  exact ⟨rfl, rfl, rfl, run.keeper.alarm.cancel_pending⟩

theorem start_shows (stage : Stage) (run : Run Agenda) (selected : stage.filter = .ok filter)
    (held : run.isDropped = false) (connected : run.feed = some ⟨.online, some agenda⟩)
    (alive : run.keeper.phase ≠ .disposed) :
    (run.handle stage .start).1.Stands ⟨.online, some agenda⟩ (Standing.Shows filter agenda) := by
  rw [handle_held held]
  refine ⟨held, connected, ?_⟩
  have cycled := Keeper.start_online_standing (run.surroundings stage) run.keeper _ filter alive connected selected rfl
  exact Standing.cycled_shows cycled _ connected rfl selected agenda rfl

end Run

def agendaOf? : Except EventsFile.LoadFault (List Event) → Option Agenda
  | .ok events => (Agenda.of? events).toOption
  | .error _ => none

structure Reload where
  before : List Happening
  loaded : Except EventsFile.LoadFault (List Event)
  between : List Happening
  clock : Instant

theorem usable_events (loaded : Except EventsFile.LoadFault (List Event)) (agenda : Agenda)
    (usable : agendaOf? loaded = some agenda) : ∃ events, loaded = .ok events ∧ Agenda.of? events = .ok agenda := by
  cases loaded with
  | error fault => cases usable
  | ok events =>
      refine ⟨events, rfl, ?_⟩
      cases built : Agenda.of? events with
      | error fault => simp [agendaOf?, built, Except.toOption] at usable
      | ok found => simpa [agendaOf?, built, Except.toOption] using usable

namespace Station

def opened (stage : Stage) (path : String) (loaded : Except EventsFile.LoadFault (List Event)) : Station :=
  let synced := ((ofPath path).sync loaded).1
  { synced with run := (synced.run.handle stage .start).1 }

def meanwhile (stage : Stage) (station : Station) (happenings : List Happening) : Station :=
  { station with run := station.run.meanwhile stage happenings }

def reloaded (stage : Stage) (station : Station) (reload : Reload) : Station :=
  let synced := (station.meanwhile stage reload.before).sync reload.loaded
  ((synced.1.meanwhile stage reload.between).notify { stage with opening := reload.clock } synced.2.1).1

structure Tracks (filter : Option Filter) (latest good : Option Agenda) (station : Station) : Prop where
  remembered : station.watcher.last.map Agenda.of? = good.map .ok
  stands : match latest with
    | some agenda => good = some agenda ∧
        station.run.Stands ⟨.online, some agenda⟩ (Standing.Shows filter agenda)
    | none => station.run.Stands ⟨.offline, good⟩ (Standing.Waits good)

theorem sync_unusable (station : Station) (loaded : Except EventsFile.LoadFault (List Event))
    (unusable : agendaOf? loaded = none) :
    (station.sync loaded).1 = { station with run.feed := some { station.feed with link := .offline } } ∧
      (station.sync loaded).2.1 = ⟨if station.feed.link = .offline then none else some .offline, false⟩ := by
  have failed : ∃ error, station.watcher.sync station.feed loaded = station.watcher.fail station.feed error := by
    cases loaded with
    | error fault => exact ⟨_, rfl⟩
    | ok events =>
        cases built : Agenda.of? events with
        | ok agenda => simp [agendaOf?, built, Except.toOption] at unusable
        | error fault => exact ⟨fault.message, by rw [Watcher.sync, built]⟩
  obtain ⟨error, failed⟩ := failed
  simp only [sync, failed, Watcher.fail, Watcher.linked, Feed.set_link_feed]
  exact ⟨trivial, trivial⟩

theorem sync_unchanged (station : Station) (events : List Event) (agenda : Agenda)
    (built : Agenda.of? events = .ok agenda) (same : station.watcher.last = some events) :
    (station.sync (.ok events)).1 = { station with run.feed := some { station.feed with link := .online } } ∧
      (station.sync (.ok events)).2.1 = ⟨if station.feed.link = .online then none else some .online, false⟩ := by
  simp only [sync, Watcher.sync, built, Watcher.accept, if_pos same, Watcher.linked, Feed.set_link_feed]
  exact ⟨trivial, trivial⟩

theorem sync_changed (station : Station) (events : List Event) (agenda : Agenda)
    (built : Agenda.of? events = .ok agenda) (other : station.watcher.last ≠ some events) :
    (station.sync (.ok events)).1 = {
        watcher := { station.watcher with last := some events }
        run := { station.run with feed := some ⟨.online, some agenda⟩ } } ∧
      (station.sync (.ok events)).2.1.isNewCalendar = true := by
  simp only [sync, Watcher.sync, built, Watcher.accept, if_neg other, Watcher.linked, Feed.set_link_feed]
  exact ⟨rfl, trivial⟩

theorem notify_told (stage : Stage) (station : Station) (outcome : SyncOutcome) (trigger : Trigger)
    (told : outcome.trigger? = some trigger) :
    (station.notify stage outcome).1 = { station with run := (station.run.handle stage trigger).1 } := by
  rw [notify, told]

theorem notify_nothing (stage : Stage) (station : Station) (outcome : SyncOutcome)
    (nothing : outcome.trigger? = none) : (station.notify stage outcome).1 = station := by
  rw [notify, nothing]

theorem stands_feed {station : Station} {feed : Feed Agenda} {holds : Standing Agenda → Prop}
    (stands : station.run.Stands feed holds) : station.feed = feed := by
  rw [Station.feed, stands.feed]
  rfl

variable {filter : Option Filter} {latest good : Option Agenda} {stage : Stage} {station : Station}
  (selected : stage.filter = .ok filter)
include selected

theorem tracks_meanwhile (tracks : station.Tracks filter latest good)
    (happenings : List Happening) : (station.meanwhile stage happenings).Tracks filter latest good := by
  refine ⟨tracks.remembered, ?_⟩
  have stands := tracks.stands
  cases latest with
  | some agenda =>
      exact ⟨stands.1, Run.meanwhile_stands selected (Standing.shows_steady agenda) happenings stands.2⟩
  | none => exact Run.meanwhile_stands selected (Standing.waits_steady _ good) happenings stands

theorem unusable_tracks (tracks : station.Tracks filter latest good)
    (loaded : Except EventsFile.LoadFault (List Event)) (unusable : agendaOf? loaded = none)
    (happenings : List Happening) (clock : Instant) :
    ((((station.sync loaded).1.meanwhile stage happenings).notify { stage with opening := clock }
      (station.sync loaded).2.1).1).Tracks filter none good := by
  obtain ⟨synced, outcome⟩ := sync_unusable station loaded unusable
  have stands := tracks.stands
  rw [synced, outcome]
  cases latest with
  | none =>
      have feed := stands_feed stands
      rw [notify_nothing _ _ _ (by rw [feed]; rfl)]
      refine ⟨tracks.remembered, Run.meanwhile_stands selected (Standing.waits_steady _ good) happenings
        ⟨stands.held, ?_, stands.standing⟩⟩
      rw [feed]
  | some agenda =>
      obtain ⟨rfl, stands⟩ := stands
      have feed := stands_feed stands
      rw [notify_told _ _ _ (.linkChanged .offline) (by rw [feed]; rfl)]
      refine ⟨tracks.remembered, Run.link_offline_waits _ _ _ _ (Run.meanwhile_stands selected
        (Standing.knows_steady _ agenda) happenings
        ⟨stands.held, ?_, Standing.shows_knows agenda stands.standing⟩)⟩
      rw [feed]

theorem changed_tracks (tracks : station.Tracks filter latest good)
    (events : List Event) (agenda : Agenda) (built : Agenda.of? events = .ok agenda)
    (other : station.watcher.last ≠ some events) (happenings : List Happening) (clock : Instant) :
    ((((station.sync (.ok events)).1.meanwhile stage happenings).notify { stage with opening := clock }
      (station.sync (.ok events)).2.1).1).Tracks filter (some agenda) (some agenda) := by
  obtain ⟨synced, outcome⟩ := sync_changed station events agenda built other
  have told : (station.sync (.ok events)).2.1.trigger? = some .calendarUpdated := if_pos outcome
  have stands : station.run.isDropped = false ∧ station.run.keeper.standing.phase.listens = true := by
    have stands := tracks.stands
    cases latest with
    | none => exact ⟨stands.held, (Standing.waits_knows good stands.standing).1⟩
    | some former => exact ⟨stands.2.held, (Standing.shows_knows former stands.2.standing).1⟩
  rw [notify_told _ _ _ _ told, synced]
  refine ⟨?_, rfl, Run.calendar_updated_shows _ _ selected (Run.meanwhile_stands selected
    (Standing.listens_steady _) happenings ⟨stands.1, rfl, stands.2⟩)⟩
  change some (Agenda.of? events) = _
  rw [built]
  rfl

theorem unchanged_tracks (tracks : station.Tracks filter latest good)
    (events : List Event) (agenda : Agenda) (built : Agenda.of? events = .ok agenda)
    (same : station.watcher.last = some events) (happenings : List Happening) (clock : Instant) :
    ((((station.sync (.ok events)).1.meanwhile stage happenings).notify { stage with opening := clock }
      (station.sync (.ok events)).2.1).1).Tracks filter (some agenda) (some agenda) := by
  obtain ⟨synced, outcome⟩ := sync_unchanged station events agenda built same
  have remembered := tracks.remembered
  rw [same, Option.map_some, built] at remembered
  have known : good = some agenda := by
    obtain ⟨found, rfl, kept⟩ := Option.map_eq_some_iff.mp remembered.symm
    rw [Except.ok.inj kept]
  subst known
  have stands := tracks.stands
  rw [synced, outcome]
  cases latest with
  | none =>
      have feed := stands_feed stands
      rw [notify_told _ _ _ (.linkChanged .online) (by rw [feed]; rfl)]
      refine ⟨tracks.remembered, rfl, Run.link_online_shows _ _ selected (Run.meanwhile_stands selected
        (Standing.knows_steady _ agenda) happenings
        ⟨stands.held, ?_, Standing.waits_knows _ stands.standing⟩)⟩
      rw [feed]
  | some former =>
      obtain ⟨current, stands⟩ := stands
      cases current
      have feed := stands_feed stands
      rw [notify_nothing _ _ _ (by rw [feed]; rfl)]
      refine ⟨tracks.remembered, rfl, Run.meanwhile_stands selected (Standing.shows_steady agenda) happenings
        ⟨stands.held, ?_, stands.standing⟩⟩
      rw [feed]

theorem reloaded_tracks (tracks : station.Tracks filter latest good)
    (reload : Reload) : (station.reloaded stage reload).Tracks filter (agendaOf? reload.loaded)
      ((agendaOf? reload.loaded).or good) := by
  have ready := tracks_meanwhile selected tracks reload.before
  cases usable : agendaOf? reload.loaded with
  | none => exact unusable_tracks selected ready reload.loaded usable reload.between reload.clock
  | some agenda =>
      obtain ⟨events, loaded, built⟩ := usable_events reload.loaded agenda usable
      rw [reloaded, loaded]
      by_cases same : (station.meanwhile stage reload.before).watcher.last = some events
      · exact unchanged_tracks selected ready events agenda built same reload.between reload.clock
      · exact changed_tracks selected ready events agenda built same reload.between reload.clock

theorem opened_tracks (path : String)
    (loaded : Except EventsFile.LoadFault (List Event)) :
    (opened stage path loaded).Tracks filter (agendaOf? loaded) (agendaOf? loaded) := by
  have alive : (ofPath path).run.keeper.phase ≠ .disposed := by
    intro disposed
    cases disposed
  cases usable : agendaOf? loaded with
  | none =>
      obtain ⟨synced, _⟩ := sync_unusable (ofPath path) loaded usable
      rw [opened, synced]
      exact ⟨rfl, Run.start_waits stage { (ofPath path).run with feed := some ⟨.offline, none⟩ } selected
        ⟨.offline, none⟩ (by simp) rfl rfl alive⟩
  | some agenda =>
      obtain ⟨events, rfl, built⟩ := usable_events loaded agenda usable
      obtain ⟨synced, _⟩ := sync_changed (ofPath path) events agenda built (by intro same; cases same)
      rw [opened, synced]
      refine ⟨?_, rfl, Run.start_shows _ _ selected rfl rfl alive⟩
      change some (Agenda.of? events) = _
      rw [built]
      rfl

theorem reloads_track (path : String)
    (loaded : Except EventsFile.LoadFault (List Event)) (reloads : List Reload) :
    (reloads.foldl (reloaded stage) (opened stage path loaded)).Tracks filter
      ((loaded :: reloads.map (·.loaded)).getLast?.bind agendaOf?)
      ((loaded :: reloads.map (·.loaded)).filterMap agendaOf?).getLast? := by
  induction reloads using List.reverseRecOn with
  | nil =>
      have opened := opened_tracks selected path loaded
      cases usable : agendaOf? loaded <;> simpa [usable] using opened
  | append_singleton earlier reload ih =>
      have next := reloaded_tracks selected ih reload
      rw [List.foldl_append, List.map_append, ← List.cons_append, List.filterMap_append, List.getLast?_append,
        List.getLast?_append]
      cases usable : agendaOf? reload.loaded <;> simpa [usable] using next

end Station

-- Whatever the loads gave, and whenever sleepers ended: the latest load decides between a board that is
-- kept and a keeper that waits, and a file that breaks takes nothing of the last usable calendar away.
theorem station_tracks_file (settings : Settings) (filter : Option Filter) (selected : settings.filter = .ok filter)
    (publisher : Publisher) (opening : Instant) (path : String)
    (loaded : Except EventsFile.LoadFault (List Event)) (reloads : List Reload) :
    let stage : Stage := { settings, publisher, opening }
    let station := reloads.foldl (Station.reloaded stage) (Station.opened stage path loaded)
    let keeper := station.run.keeper
    let loads := loaded :: reloads.map (·.loaded)
    match loads.getLast?.bind agendaOf? with
    | some agenda =>
        station.run.feed = some ⟨.online, some agenda⟩ ∧
        keeper.phase = .ready ∧ keeper.status = .online ∧ keeper.calendar = some agenda ∧
        ∃ reference board, keeper.journal.reference? = some reference ∧
          Board.resolve (some agenda) reference filter = .ok board ∧
          keeper.journal.boards.head? = some board ∧
          Board.nextBoundary (some agenda) reference = .ok keeper.alarm.target?
    | none =>
        station.run.feed = some ⟨.offline, (loads.filterMap agendaOf?).getLast?⟩ ∧
        keeper.phase = .waiting ∧ keeper.status = .offline .feedOffline none ∧
        keeper.calendar = (loads.filterMap agendaOf?).getLast? ∧ keeper.alarm.pending = none := by
  intro stage station keeper loads
  have tracks : station.Tracks filter (loads.getLast?.bind agendaOf?) (loads.filterMap agendaOf?).getLast? :=
    Station.reloads_track selected path loaded reloads
  have stands := tracks.stands
  cases latest : loads.getLast?.bind agendaOf? with
  | none =>
      rw [latest] at stands
      exact ⟨stands.feed, stands.standing.waiting, stands.standing.offline, stands.standing.calendar,
        stands.standing.idle⟩
  | some agenda =>
      rw [latest] at stands
      obtain ⟨_, stands⟩ := stands
      obtain ⟨ready, online, calendar, reference, settled⟩ := stands.standing
      obtain ⟨board, resolved, last⟩ := settled.shown
      have armed := settled.armed
      rw [calendar] at resolved armed
      exact ⟨stands.feed, ready, online, calendar, reference, board, settled.read, resolved, last, armed⟩

def outage : Reload :=
  ⟨[.pass (Board.minute 600) 60000], .error .toml, [.wake (Board.minute 610) 1], Board.minute 611⟩

def repair : Reload := ⟨[], .ok [Board.work], [], Board.minute 620⟩

def byTheClock : Stage := { settings := {}, publisher := fun _ => none, opening := Board.minute 530 }

theorem station_tracks_file_at_work :
    ({} : Settings).filter = .ok none ∧ ∃ agenda, Agenda.of? [Board.work] = .ok agenda ∧
      (let keeper := ([outage].foldl (Station.reloaded byTheClock)
        (Station.opened byTheClock "events.toml" (.ok [Board.work]))).run.keeper
      keeper.phase = .waiting ∧ keeper.calendar = some agenda ∧ keeper.alarm.pending = none) ∧
      (let keeper := ([outage, repair].foldl (Station.reloaded byTheClock)
        (Station.opened byTheClock "events.toml" (.ok [Board.work]))).run.keeper
      keeper.phase = .ready ∧ keeper.calendar = some agenda ∧ ∃ reference,
        Board.nextBoundary (some agenda) reference = .ok keeper.alarm.target?) := by
  obtain ⟨agenda, built⟩ := Agenda.valid_agenda [Board.work] (by decide)
  have usable : agendaOf? (.ok [Board.work]) = some agenda := by
    rw [agendaOf?, built]
    rfl
  have broken := station_tracks_file {} none rfl (fun _ => none) (Board.minute 530) "events.toml"
    (.ok [Board.work]) [outage]
  have mended := station_tracks_file {} none rfl (fun _ => none) (Board.minute 530) "events.toml"
    (.ok [Board.work]) [outage, repair]
  refine ⟨rfl, agenda, built, ?_, ?_⟩
  · obtain ⟨_, waiting, _, calendar, idle⟩ := broken
    refine ⟨waiting, calendar.trans ?_, idle⟩
    have unusable : agendaOf? outage.loaded = none := rfl
    simp [usable, unusable]
  · have latest : ((Except.ok [Board.work] :: [outage, repair].map (·.loaded)).getLast?.bind agendaOf?) =
        some agenda := usable
    simp only [latest] at mended
    obtain ⟨_, ready, _, calendar, reference, _, _, _, _, armed⟩ := mended
    exact ⟨ready, calendar, reference, armed⟩

end NowNext
