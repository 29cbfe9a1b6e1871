import NowNext.Daemon.Session
import NowNext.Log.Line
import Std.Async.Signal
import Std.Time.DateTime.Timestamp

set_option autoImplicit false

namespace NowNext.Command

def environment : IO Environment := do
  ["LIVECAL_CONFIG", "LIVECAL_OFFSET", "LIVECAL_EVENTS", "LIVECAL_LOG", "RUST_LOG"].filterMapM
    fun name => do return (← IO.getEnv name).map (name, ·)

def entry? (path : String) : IO (Option DiskEntry) := do
  try
    return some (.file (← IO.FS.readBinFile path))
  catch
    | .noFileOrDirectory .. => return none
    | .inappropriateType _ code _ =>
        return some (if code = 21 then .directory else .broken .notDirectory)
    | .permissionDenied .. => return some (.broken (.other "Permission denied (os error 13)"))
    | cause => return some (.broken (.other cause.toString))

def disk (path : String) : IO Disk := do
  return (← entry? path).toList.map fun entry => (path, entry)

def clock : IO Instant := do
  return (Instant.ofCount? (← Std.Time.Timestamp.now).toNanosecondsSinceUnixEpoch.val).getD
    Instant.last

def write (plan : Plan) (session : Session) : IO Session := do
  let now ← clock
  for notice in session.told.filter plan.directives.allow do
    IO.println (notice.stampedLine now)
  (← IO.getStdout).flush
  return { session with told := [] }

def load (plan : Plan) : IO (Except EventsFile.LoadFault (List Event)) := do
  let path := plan.settings.eventsFile
  return EventsFile.load (← disk path) path

def patience : Nat := 50

partial def keep (plan : Plan) (interrupted : IO Bool) (origin reloadAt : Nat) (session : Session) :
    IO Unit := do
  if ← interrupted then
    let _ ← write plan session.stop
  else
    let elapsed := (← IO.monoMsNow) - origin
    let mut session := (session.setClock (← clock)).advance elapsed
    let mut next := reloadAt
    if reloadAt ≤ elapsed then
      session := session.reload (← load plan)
      next := (← IO.monoMsNow) - origin + 1000 * plan.settings.reloadSeconds
    session ← write plan session
    let due := (session.nextDue?.getD next).min next
    let rest := (due - ((← IO.monoMsNow) - origin)).min patience
    IO.sleep (UInt32.ofNat rest)
    keep plan interrupted origin next session

def run (plan : Plan) : IO Unit := do
  let waiter ← Std.Async.Signal.Waiter.mk .sigint false
  let interruption ← waiter.wait
  let origin ← IO.monoMsNow
  let session ← write plan (Session.start plan.settings (← clock) (← load plan))
  keep plan (IO.hasFinished interruption) origin (1000 * plan.settings.reloadSeconds) session

end NowNext.Command

open NowNext in
def main : IO UInt32 := do
  let environment ← Command.environment
  match Plan.load environment (← Command.disk (DaemonSettings.pathIn environment)) with
  | .error fault =>
      IO.eprintln fault.report
      return 1
  | .ok plan =>
      Command.run plan
      return 0
