import NowNext.Files.Disk
import NowNext.Filter.Settings
import NowNext.Text.Blank
import NowNext.Toml.Reader

set_option autoImplicit false

namespace NowNext

abbrev Environment := List (String × String)

structure DaemonSettings where
  live : Settings := {}
  eventsFile : String := "events.toml"
  reloadSeconds : Nat := 60
  logFilter : String := "livecald=info,livecal_app=info,livecal_adapter_static_calendar=info"
deriving DecidableEq

inductive SettingsFault where
  | unreadable (cause : ReadFault)
  | malformed
  | invalidOffset (written : String)
  | zeroReload
deriving DecidableEq

namespace SettingsFault

def message : SettingsFault → String
  | unreadable _ => "failed to read config file"
  | malformed => "failed to parse config file"
  | invalidOffset written =>
      "invalid configuration: LIVECAL_OFFSET is not a number of seconds: " ++ written
  | zeroReload => "invalid configuration: reload interval must be non-zero"

end SettingsFault

namespace LeadTime

def isSettable (seconds : Int) : Bool :=
  -9223372036854775808 ≤ seconds && seconds ≤ 9223372036854775807

def secondsOf? (written : String) : Option Int :=
  let number? : Option Int :=
    match trimBlanks written.toList with
    | '-' :: rest => (ofDigits? rest).map fun n => -(n : Int)
    | '+' :: rest => (ofDigits? rest).map fun n => (n : Int)
    | rest => (ofDigits? rest).map fun n => (n : Int)
  number?.filter isSettable

end LeadTime

namespace Settings

def ofToml? (value : Toml) : Option Settings := do
  let field? ← value.fields? ["offset", "text_event_field", "text_event_value", "text_value_type"]
  let text? := fun name => Toml.optional? Toml.textOf? (field? name)
  some {
    offset := ← Toml.optional? Toml.integerOf? (field? "offset")
    field := ← text? "text_event_field"
    value := ← text? "text_event_value"
    comparison := ← text? "text_value_type" }

end Settings

namespace DaemonSettings

def withCalendar? (settings : DaemonSettings) (value : Toml) : Option DaemonSettings := do
  let field? ← value.fields? ["events_file", "reload_interval_secs"]
  let eventsFile ← Toml.optional? Toml.textOf? (field? "events_file")
  let seconds ← Toml.optional? Toml.naturalOf? (field? "reload_interval_secs")
  some { settings with
    eventsFile := eventsFile.getD settings.eventsFile
    reloadSeconds := seconds.getD settings.reloadSeconds }

def withLogging? (settings : DaemonSettings) (value : Toml) : Option DaemonSettings := do
  let field? ← value.fields? ["filter"]
  let logFilter ← Toml.optional? Toml.textOf? (field? "filter")
  some { settings with logFilter := logFilter.getD settings.logFilter }

def ofDocument? (entries : List (String × Toml)) : Option DaemonSettings := do
  let live ← Toml.optional? Settings.ofToml? (entries.lookup "live_event")
  let settings : DaemonSettings := { live := live.getD {} }
  let settings ← (entries.lookup "calendar").elim (some settings) settings.withCalendar?
  (entries.lookup "logging").elim (some settings) settings.withLogging?

def ofFile (disk : Disk) (path : String) : Except SettingsFault DaemonSettings :=
  match disk.read path with
  | .ok content => ((Toml.ofString? content).bind ofDocument?).elim (.error .malformed) .ok
  | .error .notFound => .ok {}
  | .error cause => .error (.unreadable cause)

def overrideOffset (environment : Environment) (settings : DaemonSettings) :
    Except SettingsFault DaemonSettings :=
  match environment.lookup "LIVECAL_OFFSET" with
  | none => .ok settings
  | some written =>
      match LeadTime.secondsOf? written with
      | some seconds => .ok { settings with live := { settings.live with offset := some seconds } }
      | none => .error (.invalidOffset written)

def overrideTexts (environment : Environment) (settings : DaemonSettings) : DaemonSettings :=
  { settings with
    eventsFile := (environment.lookup "LIVECAL_EVENTS").getD settings.eventsFile
    logFilter := ((environment.lookup "RUST_LOG").or (environment.lookup "LIVECAL_LOG")).getD
      settings.logFilter }

def check (settings : DaemonSettings) : Except SettingsFault DaemonSettings :=
  if settings.reloadSeconds = 0 then .error .zeroReload else .ok settings

def load (environment : Environment) (disk : Disk) (path : String) :
    Except SettingsFault DaemonSettings := do
  let written ← ofFile disk path
  let overridden ← written.overrideOffset environment
  (overridden.overrideTexts environment).check

def pathIn (environment : Environment) : String :=
  (environment.lookup "LIVECAL_CONFIG").getD "livecal.toml"

end DaemonSettings

end NowNext
