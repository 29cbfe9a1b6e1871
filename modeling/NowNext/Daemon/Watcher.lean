import NowNext.Feed.Basic
import NowNext.Files.EventsFile
import NowNext.Keeper.Run

set_option autoImplicit false

namespace NowNext

structure Watcher where
  path : String
  last : Option (List Event) := none

structure SyncOutcome where
  link : Option Link := none
  isNewCalendar : Bool := false
deriving DecidableEq

namespace SyncOutcome

def isNothing (outcome : SyncOutcome) : Bool := outcome == {}

def trigger? (outcome : SyncOutcome) : Option Trigger :=
  if outcome.isNewCalendar then some .calendarUpdated else outcome.link.map .linkChanged

end SyncOutcome

structure Synced where
  watcher : Watcher
  feed : Feed Agenda
  outcome : SyncOutcome
  notices : List Notice

namespace Watcher

def linked (watcher : Watcher) (feed : Feed Agenda) (link : Link) (isNewCalendar : Bool)
    (notices : List Notice) : Synced :=
  let (after, told) := feed.setLink link
  ⟨watcher, after, ⟨if feed.link = link then none else some link, isNewCalendar⟩, notices ++ told⟩

def fail (watcher : Watcher) (feed : Feed Agenda) (error : String) : Synced :=
  watcher.linked feed .offline false [.calendarUnloadable watcher.path error]

def accept (watcher : Watcher) (feed : Feed Agenda) (events : List Event) (agenda : Agenda) : Synced :=
  let loaded := .fileLoaded watcher.path events.length
  if watcher.last = some events then watcher.linked feed .online false [loaded]
  else
    let (after, told) := feed.replace agenda
    { watcher with last := some events }.linked after .online true
      (loaded :: .calendarLoaded watcher.path events.length :: told)

def sync (watcher : Watcher) (feed : Feed Agenda)
    (loaded : Except EventsFile.LoadFault (List Event)) : Synced :=
  match loaded with
  | .error fault => watcher.fail feed fault.explanation
  | .ok events =>
      match Agenda.of? events with
      | .error fault => watcher.fail feed fault.message
      | .ok agenda => watcher.accept feed events agenda

end Watcher

structure Station where
  watcher : Watcher
  run : Run Agenda

namespace Station

def ofPath (path : String) : Station := ⟨{ path }, { feed := some {} }⟩

def feed (station : Station) : Feed Agenda := station.run.feed.getD {}

def sync (station : Station) (loaded : Except EventsFile.LoadFault (List Event)) :
    Station × SyncOutcome × List Notice :=
  let synced := station.watcher.sync station.feed loaded
  (⟨synced.watcher, { station.run with feed := some synced.feed }⟩, synced.outcome, synced.notices)

def notify (stage : Stage) (station : Station) (outcome : SyncOutcome) : Station × List Notice :=
  match outcome.trigger? with
  | some trigger =>
      let (run, fault) := station.run.handle stage trigger
      ({ station with run }, fault.toList.map .updateFailed)
  | none => (station, [])

def reload (stage : Stage) (station : Station)
    (loaded : Except EventsFile.LoadFault (List Event)) : Station :=
  let (synced, outcome, _) := station.sync loaded
  (synced.notify stage outcome).1

end Station

end NowNext
