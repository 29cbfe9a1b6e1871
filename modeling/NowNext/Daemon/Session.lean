import NowNext.Daemon.Settings
import NowNext.Daemon.Watcher
import NowNext.Log.Directives
import NowNext.Relay.Basic

set_option autoImplicit false

namespace NowNext

structure Plan where
  settings : DaemonSettings
  directives : Directives

inductive StartFault where
  | settings (path : String) (cause : SettingsFault)
  | logFilter (written : String)
deriving DecidableEq

namespace StartFault

def message : StartFault → String
  | settings path _ => "unable to load configuration from " ++ path
  | logFilter written => "invalid log filter " ++ Quoted.quote written

def causes : StartFault → List String
  | settings _ (.unreadable cause) => [(SettingsFault.unreadable cause).message, cause.message]
  | settings _ cause => [cause.message]
  | logFilter _ => []

def report (fault : StartFault) : String :=
  let lines := match fault.causes with
    | [cause] => ["    " ++ cause]
    | several => several.zipIdx.map fun (cause, n) =>
        "    " ++ String.ofList (digits n) ++ ": " ++ cause
  let heading := if lines.isEmpty then [] else ["", "Caused by:"]
  "\n".intercalate (("Error: " ++ fault.message) :: heading ++ lines)

end StartFault

def Plan.load (environment : Environment) (disk : Disk) : Except StartFault Plan :=
  let path := DaemonSettings.pathIn environment
  match DaemonSettings.load environment disk path with
  | .error cause => .error (.settings path cause)
  | .ok settings =>
      match Directives.ofString? settings.logFilter with
      | some directives => .ok ⟨settings, directives⟩
      | none => .error (.logFilter settings.logFilter)

namespace Effect

def notice? : Effect → Option Notice
  | note notice => some notice
  | _ => none

def update? : Effect → Option Update
  | publish board => some (.board board)
  | report status => some (.status status)
  | note _ => none

end Effect

def Update.notices : Update → List Notice
  | board published => .boardPublished published ::
      published.readings.map fun (channel, reading) => .channelUpdated channel reading
  | status reported => [.statusPublished reported]

def Received.notices : Received → List Notice
  | update received => received.notices
  | lagged count => [.lagged count]
  | empty | closed => []

def Notice.isOfUpdate : Notice → Bool
  | boardPublished _ | channelUpdated .. | statusPublished _ | lagged _ => true
  | _ => false

structure Session where
  stage : Stage
  station : Station
  relay : Relay
  reader : Nat
  told : List Notice := []

namespace Session

def relaySlots : Nat := 64

def tell (session : Session) (notices : List Notice) : Session :=
  { session with told := session.told ++ notices }

def settle (session : Session) : Session :=
  let effects := session.station.run.keeper.journal.reverse
  let relay := (effects.filterMap Effect.update?).foldl Relay.send session.relay
  let (received, read) := relay.receiveAll session.reader
  { session with station.run.keeper.journal := [], relay := read }.tell
    (effects.filterMap Effect.notice? ++ received.flatMap Received.notices)

def handle (session : Session) (trigger : Trigger) (late : Fault → Notice) : Session :=
  let (run, fault) := session.station.run.handle session.stage trigger
  ({ session with station.run := run }.settle).tell (fault.toList.map late)

def start (settings : DaemonSettings) (clock : Instant)
    (loaded : Except EventsFile.LoadFault (List Event)) : Session :=
  let (station, _, notices) := (Station.ofPath settings.eventsFile).sync loaded
  let (reader, relay) := (Relay.ofCapacity relaySlots).subscribe
  let stage : Stage :=
    { settings := settings.live, publisher := fun _ => none, opening := clock }
  let session : Session := { stage, station, relay, reader }
  (session.tell (notices ++ [.starting settings.eventsFile settings.live.lead])).handle .start
    .initializationFailed

def setClock (session : Session) (clock : Instant) : Session :=
  let passed : Int := session.station.run.elapsed * nanosPerMilli
  { session with stage.opening := (clock.plus? (-passed)).getD clock }

def advance (session : Session) (elapsed : Nat) : Session :=
  let run := session.station.run
  { session with station.run := run.advance session.stage (elapsed - run.elapsed) }.settle

def nextDue? (session : Session) : Option Nat :=
  (session.station.run.keeper.alarm.sleepers.map (·.due)).min?

def reload (session : Session) (loaded : Except EventsFile.LoadFault (List Event)) : Session :=
  let (synced, outcome, notices) := session.station.sync loaded
  let (notified, late) := synced.notify session.stage outcome
  ((({ session with station := notified }.tell notices).settle).tell late)

def stop (session : Session) : Session :=
  (session.tell [.stopping]).handle .dispose .updateFailed

end Session

end NowNext
