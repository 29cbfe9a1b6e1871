import NowNext.Board.Channel
import NowNext.Feed.Link
import NowNext.Keeper.Phase
import NowNext.Status
import NowNext.Text.Quoted
import NowNext.Time.LeadTime

set_option autoImplicit false

namespace NowNext

inductive Level where
  | error
  | warn
  | info
  | debug
  | trace
deriving DecidableEq

namespace Level

def name : Level → String
  | error => "ERROR"
  | warn => "WARN"
  | info => "INFO"
  | debug => "DEBUG"
  | trace => "TRACE"

def detail : Level → Nat
  | error => 1
  | warn => 2
  | info => 3
  | debug => 4
  | trace => 5

end Level

inductive LogValue where
  | number (n : Nat)
  | shown (value : String)
  | text (value : String)

inductive Notice where
  | armed (generation : Nat) (target : Instant) (seconds : Nat)
  | cancelled (generation : Nat) (target : Instant)
  | fired (generation : Nat)
  | stale (generation : Nat)
  | ignoredRefresh (phase : Phase)
  | ignoredCalendar (phase : Phase)
  | ignoredLink (phase : Phase) (link : Link)
  | initializedAgain (phase : Phase)
  | dangling (field : String)
  | resolved (reference : Instant) (board : Board)
  | unpublished (fault : Fault)
  | noBoundary
  | unscheduled (cause : FeedFault)
  | wakeFailed (fault : Fault)
  | aborted (phase : Phase) (fault : Fault)
  | statusChanged (status : Status)
  | statusUnreported (fault : Fault)
  | disposed
  | linkChanged (before after : Link)
  | calendarReplaced (count : Nat)
  | fileLoaded (path : String) (count : Nat)
  | calendarLoaded (path : String) (count : Nat)
  | calendarUnloadable (path : String) (error : String)
  | updateFailed (fault : Fault)
  | starting (path : String) (lead : LeadTime)
  | initializationFailed (fault : Fault)
  | stopping
  | boardPublished (board : Board)
  | channelUpdated (channel : Channel) (reading : Reading)
  | statusPublished (status : Status)
  | lagged (count : Nat)

namespace Notice

def level : Notice → Level
  | stale _ => .trace
  | armed .. | cancelled .. | fired _ | ignoredRefresh _ | ignoredCalendar _ | ignoredLink ..
  | initializedAgain _ | resolved .. | noBoundary | aborted .. | disposed | calendarReplaced _
  | fileLoaded .. | boardPublished _ => .debug
  | statusChanged _ | linkChanged .. | calendarLoaded .. | starting .. | stopping
  | channelUpdated .. | statusPublished _ => .info
  | dangling _ | unpublished _ | unscheduled _ | wakeFailed _ | statusUnreported _
  | calendarUnloadable .. | updateFailed _ | lagged _ => .warn
  | initializationFailed _ => .error

def origin : Notice → String
  | armed .. | cancelled .. => "livecal_app::rescheduler"
  | linkChanged .. | calendarReplaced _ => "livecal_adapter_static_calendar::bridge"
  | fileLoaded .. => "livecal_adapter_static_calendar::loader"
  | calendarLoaded .. | calendarUnloadable .. => "livecald::source"
  | updateFailed _ | starting .. | initializationFailed _ | stopping | boardPublished _
  | channelUpdated .. | statusPublished _ | lagged _ => "livecald"
  | fired _ | stale _ | ignoredRefresh _ | ignoredCalendar _ | ignoredLink .. | initializedAgain _
  | dangling _ | resolved .. | unpublished _ | noBoundary | unscheduled _ | wakeFailed _
  | aborted .. | statusChanged _ | statusUnreported _ | disposed => "livecal_app::live_event"

def message : Notice → String
  | armed .. => "wake-up armed"
  | cancelled .. => "wake-up cancelled"
  | fired _ => "wake-up fired"
  | stale _ => "stale wake-up ignored"
  | ignoredRefresh _ => "ignoring refresh"
  | ignoredCalendar _ => "ignoring calendar update"
  | ignoredLink .. => "ignoring bridge status change"
  | initializedAgain _ => "live event initialized again"
  | dangling _ => "text event field is set without a value type"
  | resolved .. => "live state resolved"
  | unpublished _ => "failed to publish live state"
  | noBoundary => "no upcoming event boundary, waiting for a calendar update"
  | unscheduled _ => "could not schedule the next state update"
  | wakeFailed _ => "scheduled state update failed"
  | aborted .. => "live event cycle aborted"
  | statusChanged _ => "live event status changed"
  | statusUnreported _ => "failed to report live event status"
  | disposed => "live event disposed"
  | linkChanged .. => "bridge status changed"
  | calendarReplaced _ => "calendar replaced"
  | fileLoaded .. => "calendar file loaded"
  | calendarLoaded .. => "calendar loaded"
  | calendarUnloadable .. => "unable to load calendar"
  | updateFailed _ => "live event update failed"
  | starting .. => "livecald starting"
  | initializationFailed _ => "live event initialization failed"
  | stopping => "shutting down"
  | boardPublished _ => "live state published"
  | channelUpdated .. => "channel updated"
  | statusPublished _ => "live event status"
  | lagged _ => "update logger lagged behind"

def titleOf (name : String) : Option Event → List (String × LogValue)
  | some event => [(name, .text event.title)]
  | none => []

def values : Notice → List (String × LogValue)
  | armed generation target seconds =>
      [("generation", .number generation), ("target", .shown target.shown),
        ("delay_secs", .number seconds)]
  | cancelled generation target =>
      [("generation", .number generation), ("target", .shown target.shown)]
  | fired generation | stale generation => [("generation", .number generation)]
  | ignoredRefresh phase | ignoredCalendar phase | initializedAgain phase =>
      [("phase", .shown phase.name)]
  | ignoredLink phase link => [("phase", .shown phase.name), ("status", .shown link.label)]
  | dangling field => [("field", .shown ("Some(" ++ Quoted.quote field ++ ")"))]
  | resolved reference board =>
      ("reference", .shown reference.shown) ::
        titleOf "current" board.current ++ titleOf "next" board.next
  | unpublished fault | wakeFailed fault | statusUnreported fault | updateFailed fault
  | initializationFailed fault => [("reason", .shown fault.reason)]
  | noBoundary | disposed | stopping => []
  | unscheduled cause => [("err", .shown cause.message)]
  | aborted phase fault => [("phase", .shown phase.name), ("reason", .shown fault.reason)]
  | statusChanged status | statusPublished status => [("status", .shown status.text)]
  | linkChanged before after => [("from", .shown before.label), ("to", .shown after.label)]
  | calendarReplaced count => [("events", .number count)]
  | fileLoaded path count => [("path", .shown path), ("count", .number count)]
  | calendarLoaded path count => [("path", .shown path), ("events", .number count)]
  | calendarUnloadable path error => [("path", .shown path), ("error", .text error)]
  | starting path lead => [("events_file", .shown path), ("offset", .shown lead.text)]
  | boardPublished board => [("state", .shown (String.ofList board.toJson.print))]
  | channelUpdated channel reading =>
      [("channel", .shown channel.name), ("value", .shown reading.shown)]
  | lagged count => [("skipped", .number count)]

end Notice

end NowNext
