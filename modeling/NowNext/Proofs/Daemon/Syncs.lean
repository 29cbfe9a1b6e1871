import NowNext.Proofs.Daemon.Tracking
import NowNext.Proofs.Files.Loading

set_option autoImplicit false

namespace NowNext

inductive Occurrence where
  | write (disk : Disk)
  | setLink (link : Link)
  | sync

structure Watch where
  disk : Disk
  watcher : Watcher
  feed : Feed Agenda

namespace Watch

def synced (watch : Watch) : Synced :=
  watch.watcher.sync watch.feed (EventsFile.load watch.disk watch.watcher.path)

def step (watch : Watch) : Occurrence → Watch
  | .write disk => { watch with disk }
  | .setLink link => { watch with feed := (watch.feed.setLink link).1 }
  | .sync => { watch with watcher := watch.synced.watcher, feed := watch.synced.feed }

def after (path : String) (disk : Disk) (feed : Feed Agenda) (history : List Occurrence) : Watch :=
  history.foldl step ⟨disk, { path }, feed⟩

def loads (path : String) : Disk → List Occurrence → List (Except EventsFile.LoadFault (List Event))
  | _, [] => []
  | _, .write disk :: rest => loads path disk rest
  | disk, .setLink _ :: rest => loads path disk rest
  | disk, .sync :: rest => EventsFile.load disk path :: loads path disk rest

-- The events of the latest sync that could load them, however many could not since.
def latest? (path : String) (disk : Disk) (history : List Occurrence) : Option (List Event) :=
  ((loads path disk history).filterMap Except.toOption).getLast?

structure Reports (latest : Option (List Event)) (watch : Watch) (synced : Synced) : Prop where
  path : synced.watcher.path = watch.watcher.path
  link : synced.outcome.link = if watch.feed.link = synced.feed.link then none else some synced.feed.link
  replaced : synced.outcome.isNewCalendar = true ↔ ∃ size, .calendarReplaced size ∈ synced.notices
  given : match EventsFile.load watch.disk watch.watcher.path with
    | .ok events =>
        (synced.outcome.isNewCalendar = true ↔ latest ≠ some events) ∧
        (latest = some events → synced.feed.calendar = watch.feed.calendar) ∧
        synced.watcher.last = some events ∧
        ∃ agenda, Agenda.of? events = .ok agenda ∧ synced.feed = ⟨.online, some agenda⟩
    | .error _ =>
        synced.outcome.isNewCalendar = false ∧ synced.feed = ⟨.offline, watch.feed.calendar⟩ ∧
        synced.watcher.last = latest

-- What the watcher remembers is what was loaded last, and the feed has its calendar.
structure Remembers (path : String) (latest : Option (List Event)) (watch : Watch) : Prop where
  path : watch.watcher.path = path
  last : watch.watcher.last = latest
  calendar : ∀ events, latest = some events →
    ∃ agenda, Agenda.of? events = .ok agenda ∧ watch.feed.calendar = some agenda

end Watch

namespace Watcher

theorem linked_feed (watcher : Watcher) (feed : Feed Agenda) (link : Link) (isNew : Bool) (notices : List Notice) :
    (watcher.linked feed link isNew notices).feed = { feed with link } := feed.set_link_feed link

theorem linked_replaced (watcher : Watcher) (feed : Feed Agenda) (link : Link) (isNew : Bool)
    (notices : List Notice) (size : Nat) :
    .calendarReplaced size ∈ (watcher.linked feed link isNew notices).notices ↔
      .calendarReplaced size ∈ notices := by
  change _ ∈ notices ++ (feed.setLink link).2 ↔ _
  unfold Feed.setLink
  by_cases same : feed.link = link
  · simp [same]
  · simp [same]

end Watcher

namespace Watch

variable {path : String} {latest : Option (List Event)} {watch : Watch}

theorem unloadable_reports (remembers : watch.Remembers path latest) (fault : EventsFile.LoadFault)
    (failed : EventsFile.load watch.disk watch.watcher.path = .error fault) : watch.Reports latest watch.synced := by
  have synced : watch.synced = watch.watcher.linked watch.feed .offline false
      [.calendarUnloadable watch.watcher.path fault.explanation] := by
    rw [synced, failed]
    rfl
  rw [synced]
  refine ⟨rfl, ?_, iff_of_false Bool.false_ne_true ?_, ?_⟩
  · rw [Watcher.linked_feed]
    rfl
  · simp [Watcher.linked_replaced]
  · rw [failed]
    exact ⟨rfl, Watcher.linked_feed _ _ _ _ _, remembers.last⟩

theorem unchanged_reports (remembers : watch.Remembers path latest) (events : List Event) (agenda : Agenda)
    (built : Agenda.of? events = .ok agenda) (loaded : EventsFile.load watch.disk watch.watcher.path = .ok events)
    (same : latest = some events) : watch.Reports latest watch.synced := by
  have kept := remembers.last.trans same
  have synced : watch.synced = watch.watcher.linked watch.feed .online false
      [.fileLoaded watch.watcher.path events.length] := by
    rw [synced, loaded]
    simp only [Watcher.sync, built, Watcher.accept, if_pos kept]
  obtain ⟨found, other, calendar⟩ := remembers.calendar events same
  cases built.symm.trans other
  rw [synced]
  refine ⟨rfl, ?_, iff_of_false Bool.false_ne_true ?_, ?_⟩
  · rw [Watcher.linked_feed]
    rfl
  · simp [Watcher.linked_replaced]
  · rw [loaded]
    refine ⟨iff_of_false Bool.false_ne_true fun other => other same, fun _ => ?_, kept, agenda, built, ?_⟩
    · rw [Watcher.linked_feed]
    · rw [Watcher.linked_feed, calendar]

theorem changed_reports (remembers : watch.Remembers path latest) (events : List Event) (agenda : Agenda)
    (built : Agenda.of? events = .ok agenda) (loaded : EventsFile.load watch.disk watch.watcher.path = .ok events)
    (other : latest ≠ some events) : watch.Reports latest watch.synced := by
  have new : watch.watcher.last ≠ some events := fun kept => other (remembers.last.symm.trans kept)
  have synced : watch.synced = { watch.watcher with last := some events }.linked
      ⟨watch.feed.link, some agenda⟩ .online true [.fileLoaded watch.watcher.path events.length,
        .calendarLoaded watch.watcher.path events.length, .calendarReplaced agenda.size] := by
    rw [synced, loaded]
    simp only [Watcher.sync, built, Watcher.accept, if_neg new]
    rfl
  rw [synced]
  refine ⟨rfl, ?_, iff_of_true rfl ⟨agenda.size, ?_⟩, ?_⟩
  · rw [Watcher.linked_feed]
    rfl
  · simp [Watcher.linked_replaced]
  · rw [loaded]
    exact ⟨iff_of_true rfl other, fun kept => absurd kept other, rfl, agenda, built, Watcher.linked_feed _ _ _ _ _⟩

theorem synced_reports (remembers : watch.Remembers path latest) : watch.Reports latest watch.synced := by
  cases loaded : EventsFile.load watch.disk watch.watcher.path with
  | error fault => exact unloadable_reports remembers fault loaded
  | ok events =>
      obtain ⟨agenda, built⟩ := EventsFile.load_agenda _ _ events loaded
      by_cases same : latest = some events
      · exact unchanged_reports remembers events agenda built loaded same
      · exact changed_reports remembers events agenda built loaded same

theorem sync_remembers (remembers : watch.Remembers path latest) : (watch.step .sync).Remembers path
    ((EventsFile.load watch.disk path).toOption.or latest) := by
  have reports := synced_reports remembers
  have given := reports.given
  rw [remembers.path] at given
  cases loaded : EventsFile.load watch.disk path with
  | error fault =>
      rw [loaded] at given
      obtain ⟨_, feed, last⟩ := given
      refine ⟨reports.path.trans remembers.path, last, fun events kept => ?_⟩
      obtain ⟨agenda, built, calendar⟩ := remembers.calendar events kept
      refine ⟨agenda, built, ?_⟩
      change watch.synced.feed.calendar = _
      rw [feed, calendar]
  | ok events =>
      rw [loaded] at given
      obtain ⟨_, _, last, agenda, built, feed⟩ := given
      refine ⟨reports.path.trans remembers.path, last, fun kept same => ?_⟩
      cases same
      refine ⟨agenda, built, ?_⟩
      change watch.synced.feed.calendar = _
      rw [feed]

theorem loads_append (path : String) (history more : List Occurrence) (watch : Watch) :
    loads path watch.disk (history ++ more) =
      loads path watch.disk history ++ loads path (history.foldl step watch).disk more := by
  induction history generalizing watch with
  | nil => rfl
  | cons occurrence rest ih =>
      have next := ih (watch.step occurrence)
      cases occurrence with
      | write disk => exact next
      | setLink link => exact next
      | sync => exact congrArg (EventsFile.load watch.disk path :: ·) next

theorem latest_append (path : String) (disk : Disk) (feed : Feed Agenda) (history more : List Occurrence) :
    latest? path disk (history ++ more) =
      (latest? path (after path disk feed history).disk more).or (latest? path disk history) := by
  have split := loads_append path history more ⟨disk, { path }, feed⟩
  rw [latest?, split, List.filterMap_append, List.getLast?_append]
  rfl

theorem after_append (path : String) (disk : Disk) (feed : Feed Agenda) (history more : List Occurrence) :
    after path disk feed (history ++ more) = more.foldl step (after path disk feed history) := List.foldl_append

theorem feed_between (path : String) (disk file : Disk) (feed : Feed Agenda) (history : List Occurrence) :
    (after path disk feed (history ++ [.sync, .write file])).feed = (after path disk feed history).synced.feed := by
  rw [after_append]
  rfl

theorem after_remembers (path : String) (disk : Disk) (feed : Feed Agenda) (history : List Occurrence) :
    (after path disk feed history).Remembers path (latest? path disk history) := by
  induction history using List.reverseRecOn with
  | nil => exact ⟨rfl, rfl, fun events none => by cases none⟩
  | append_singleton earlier occurrence ih =>
      have next : after path disk feed (earlier ++ [occurrence]) = (after path disk feed earlier).step occurrence :=
        after_append path disk feed earlier [occurrence]
      rw [next, latest_append path disk feed]
      cases occurrence with
      | write content => exact ⟨ih.path, ih.last, ih.calendar⟩
      | setLink link =>
          refine ⟨ih.path, ih.last, fun events kept => ?_⟩
          obtain ⟨agenda, built, calendar⟩ := ih.calendar events kept
          refine ⟨agenda, built, ?_⟩
          rw [step, Feed.set_link_feed]
          exact calendar
      | sync =>
          have given := sync_remembers ih
          cases loaded : EventsFile.load (after path disk feed earlier).disk path with
          | error fault =>
              rw [loaded] at given
              simpa [latest?, loads, loaded, Except.toOption] using given
          | ok events =>
              rw [loaded] at given
              simpa [latest?, loads, loaded, Except.toOption] using given

theorem same_watcher (one other : Watcher) (path : one.path = other.path) (last : one.last = other.last) :
    one = other := by
  cases one
  cases other
  cases path
  cases last
  rfl

theorem outcome_same (outcome : SyncOutcome) {link : Option Link} {isNewCalendar : Bool} (told : outcome.link = link)
    (new : outcome.isNewCalendar = isNewCalendar) : outcome = ⟨link, isNewCalendar⟩ := by
  cases outcome
  cases told
  cases new
  rfl

theorem again_nothing (remembers : watch.Remembers path latest) :
    (watch.step .sync).synced.outcome = {} ∧ (watch.step .sync).synced.feed = watch.synced.feed ∧
    (watch.step .sync).synced.watcher = watch.synced.watcher := by
  have reports := synced_reports remembers
  have given := reports.given
  have again := synced_reports (sync_remembers remembers)
  have found := again.given
  have same : EventsFile.load (watch.step .sync).disk (watch.step .sync).watcher.path =
      EventsFile.load watch.disk watch.watcher.path := congrArg (EventsFile.load watch.disk) reports.path
  rw [same] at found
  rw [← remembers.path] at found
  have rest : (watch.step .sync).synced.outcome.isNewCalendar = false ∧
      (watch.step .sync).synced.feed = watch.synced.feed ∧
      (watch.step .sync).synced.watcher.last = watch.synced.watcher.last := by
    cases loaded : EventsFile.load watch.disk watch.watcher.path with
    | error fault =>
        rw [loaded] at given found
        obtain ⟨_, feed, last⟩ := given
        obtain ⟨quiet, after, kept⟩ := found
        refine ⟨quiet, ?_, kept.trans last.symm⟩
        rw [after, feed]
        change Feed.mk _ watch.synced.feed.calendar = _
        rw [feed]
    | ok events =>
        rw [loaded] at given found
        obtain ⟨_, _, last, agenda, built, feed⟩ := given
        obtain ⟨new, _, kept, other, remade, after⟩ := found
        cases built.symm.trans remade
        exact ⟨Bool.eq_false_iff.mpr fun replaced => new.mp replaced rfl, after.trans feed.symm,
          kept.trans last.symm⟩
  obtain ⟨quiet, feed, last⟩ := rest
  have link := again.link
  rw [feed] at link
  exact ⟨outcome_same _ (link.trans (if_pos rfl)) quiet, feed, same_watcher _ _ again.path last⟩

-- The feed is replaced, and reported as new, only when other events are loaded than the last time that any
-- were. A file that cannot be loaded takes nothing away but the link.
theorem syncs_report_changes (path : String) (disk : Disk) (feed : Feed Agenda) (history : List Occurrence) :
    let watch := after path disk feed history
    let latest := latest? path disk history
    let synced := watch.synced
    let again := (watch.step .sync).synced
    (∀ (file : Disk) (result : Except EventsFile.LoadFault (List Event)),
      EventsFile.load file path = result ↔ EventsFile.Gives file path result) ∧
    (∃ result, EventsFile.Gives watch.disk path result) ∧
    (∀ events, EventsFile.Gives watch.disk path (.ok events) →
      (synced.outcome.isNewCalendar = true ↔ latest ≠ some events) ∧
      (latest = some events → synced.feed.calendar = watch.feed.calendar) ∧
      ∃ agenda, Agenda.of? events = .ok agenda ∧ synced.feed = ⟨.online, some agenda⟩) ∧
    (∀ fault, EventsFile.Gives watch.disk path (.error fault) →
      synced.outcome.isNewCalendar = false ∧ synced.feed = ⟨.offline, watch.feed.calendar⟩) ∧
    (synced.outcome.isNewCalendar = true ↔ ∃ size, .calendarReplaced size ∈ synced.notices) ∧
    synced.outcome.link = (if watch.feed.link = synced.feed.link then none else some synced.feed.link) ∧
    again.outcome = {} ∧ again.feed = synced.feed ∧ again.watcher = synced.watcher ∧
    ∀ (stage : Stage) (station : Station), station.notify stage again.outcome = (station, []) := by
  intro watch latest synced again
  have remembers : watch.Remembers path latest := after_remembers path disk feed history
  have reports := synced_reports remembers
  have given := reports.given
  rw [remembers.path] at given
  obtain ⟨nothing, same, kept⟩ := again_nothing remembers
  refine ⟨fun file => EventsFile.load_iff file path, ⟨_, EventsFile.load_gives watch.disk path⟩, ?_, ?_,
    reports.replaced, reports.link, nothing, same, kept, fun stage station => ?_⟩
  · intro events gives
    rw [(EventsFile.load_iff watch.disk path _).mpr gives] at given
    exact ⟨given.1, given.2.1, given.2.2.2⟩
  · intro fault gives
    rw [(EventsFile.load_iff watch.disk path _).mpr gives] at given
    exact ⟨given.1, given.2.1⟩
  · rw [nothing]
    rfl

def workEntry : String :=
  "[[event]]\ntitle = \"Work\"\nstart = \"2024-05-01T09:00:00Z\"\nend = \"2024-05-01T17:00:00Z\""

def gymEntry : String :=
  "[[event]]\ntitle = \"Gym\"\nstart = \"2024-05-01T12:00:00Z\"\nend = \"2024-05-01T13:00:00Z\""

def inFile (content : String) : Disk := [("events.toml", .file content.toByteArray)]

def untilChanged : List Occurrence := [.write (inFile workEntry), .sync, .write (inFile gymEntry)]

def untilBroken : List Occurrence := untilChanged ++ [.sync, .write (inFile "[[event]]\ntitle = 1")]

def untilRestored : List Occurrence := untilBroken ++ [.sync, .write (inFile gymEntry)]

theorem syncs_report_changes_around_fault :
    let changed := after "events.toml" [] {} untilChanged
    let broken := after "events.toml" [] {} untilBroken
    let restored := after "events.toml" [] {} untilRestored
    ∃ agenda, Agenda.of? [Board.gym] = .ok agenda ∧
      EventsFile.Gives changed.disk "events.toml" (.ok [Board.gym]) ∧
      changed.synced.outcome.isNewCalendar = true ∧ changed.synced.feed = ⟨.online, some agenda⟩ ∧
      EventsFile.Gives broken.disk "events.toml" (.error .toml) ∧
      broken.synced.outcome = ⟨some .offline, false⟩ ∧ broken.synced.feed = ⟨.offline, some agenda⟩ ∧
      EventsFile.Gives restored.disk "events.toml" (.ok [Board.gym]) ∧
      restored.synced.outcome = ⟨some .online, false⟩ ∧ restored.synced.feed = ⟨.online, some agenda⟩ := by
  have work : EventsFile.load (inFile workEntry) "events.toml" = .ok [Board.work] := by decide +kernel
  have gym : EventsFile.load (inFile gymEntry) "events.toml" = .ok [Board.gym] := by decide +kernel
  have nothing : EventsFile.load (inFile "[[event]]\ntitle = 1") "events.toml" = .error .toml := by decide +kernel
  have first : latest? "events.toml" [] untilChanged = some [Board.work] := by
    change ([EventsFile.load (inFile workEntry) "events.toml"].filterMap Except.toOption).getLast? = _
    rw [work]
    rfl
  have last : latest? "events.toml" [] untilRestored = some [Board.gym] := by
    change ([EventsFile.load (inFile workEntry) "events.toml", EventsFile.load (inFile gymEntry) "events.toml",
      EventsFile.load (inFile "[[event]]\ntitle = 1") "events.toml"].filterMap Except.toOption).getLast? = _
    rw [work, gym, nothing]
    rfl
  have between := feed_between "events.toml" [] (inFile "[[event]]\ntitle = 1") {} untilChanged
  have behind := feed_between "events.toml" [] (inFile gymEntry) {} untilBroken
  rw [← untilBroken] at between
  rw [← untilRestored] at behind
  obtain ⟨loads, _, good, _⟩ := syncs_report_changes "events.toml" [] {} untilChanged
  obtain ⟨_, _, _, bad, _, offline, _⟩ := syncs_report_changes "events.toml" [] {} untilBroken
  obtain ⟨_, _, back, _, _, online, _⟩ := syncs_report_changes "events.toml" [] {} untilRestored
  have givesGym := (loads (inFile gymEntry) _).mp gym
  have givesNothing := (loads (inFile "[[event]]\ntitle = 1") _).mp nothing
  obtain ⟨new, _, agenda, built, served⟩ := good _ givesGym
  obtain ⟨old, kept⟩ := bad _ givesNothing
  obtain ⟨same, _, remade, rebuilt, again⟩ := back _ givesGym
  cases built.symm.trans rebuilt
  rw [first] at new
  refine ⟨agenda, built, givesGym, new.mpr (by decide), served, givesNothing, ?_⟩
  have givesAgain : EventsFile.Gives (after "events.toml" [] {} untilRestored).disk "events.toml" (.ok [Board.gym]) :=
    givesGym
  have unchanged := Bool.eq_false_iff.mpr fun other => same.mp other last
  -- From here on no watch runs again.
  clear good bad back
  generalize after "events.toml" [] {} untilChanged = changed at *
  generalize after "events.toml" [] {} untilBroken = broken at *
  generalize after "events.toml" [] {} untilRestored = restored at *
  have keeps : broken.synced.feed = ⟨.offline, some agenda⟩ := by rw [kept, between, served]
  rw [between, served, keeps] at offline
  rw [behind, keeps, again] at online
  exact ⟨outcome_same _ offline old, keeps, givesAgain, outcome_same _ online unchanged, again⟩

end Watch

end NowNext
