import NowNext.Event.Basic

set_option autoImplicit false

namespace NowNext

inductive SetupFault where
  | incompleteFilter
  | unknownField (name : String)
  | unknownComparison (name : String)
  | invalidPattern
  | missingFeed
deriving DecidableEq

def SetupFault.message : SetupFault → String
  | .incompleteFilter => "text filter settings incomplete"
  | .unknownField name => "text event field `" ++ name ++ "` not recognized"
  | .unknownComparison name => "text value type `" ++ name ++ "` not recognized"
  | .invalidPattern => "text filter value is not a valid regular expression"
  | .missingFeed => "a live event requires a calendar bridge"

inductive FeedFault where
  | noCalendar
  | offline
  | inconsistent (t : Instant)
deriving DecidableEq

def FeedFault.message : FeedFault → String
  | .noCalendar => "calendar has not been retrieved yet"
  | .offline => "calendar bridge is offline"
  | .inconsistent t => "calendar reported an event at " ++ t.shown ++ " but returned none"

inductive Fault where
  | setup (cause : SetupFault)
  | feed (cause : FeedFault)
  | event (cause : EventFault)
  | publishing (reason : String)
  | disposed
deriving DecidableEq

namespace Fault

def message : Fault → String
  | .setup _ => "configuration error"
  | .feed _ => "communication error"
  | .event _ => "validation error"
  | .publishing _ => "failed to publish live state"
  | .disposed => "live event controller has been disposed"

def reason : Fault → String
  | .setup cause => cause.message
  | .feed cause => cause.message
  | .event cause => cause.message
  | .publishing reason => reason
  | .disposed => message .disposed

end Fault

end NowNext
