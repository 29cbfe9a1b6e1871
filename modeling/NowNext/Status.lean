import NowNext.Fault
import NowNext.Json.Value

set_option autoImplicit false

namespace NowNext

inductive OfflineCause where
  | feedOffline
  | setup
  | communication
deriving DecidableEq

namespace OfflineCause

def name : OfflineCause → String
  | .feedOffline => "bridge_offline"
  | .setup => "configuration_error"
  | .communication => "communication_error"

def label : OfflineCause → String
  | .feedOffline => "BridgeOffline"
  | .setup => "ConfigurationError"
  | .communication => "CommunicationError"

def ofName? (name : String) : Option OfflineCause :=
  [feedOffline, setup, communication].find? fun cause => cause.name == name

end OfflineCause

inductive Status where
  | unknown
  | online
  | offline (cause : OfflineCause) (reason : Option String)
deriving DecidableEq

namespace Status

def cause? : Status → Option OfflineCause
  | .offline cause _ => some cause
  | _ => none

def ofSetupFault (cause : SetupFault) : Status := .offline .setup (some cause.message)

def ofFeedFault : FeedFault → Status
  | .offline => .offline .feedOffline none
  | cause => .offline .communication (some cause.message)

def ofFault : Fault → Status
  | .setup cause => ofSetupFault cause
  | .feed cause => ofFeedFault cause
  | fault => .offline .communication (some fault.reason)

def toJson : Status → Json
  | .unknown => .ofMembers [("status", .ofText "unknown")]
  | .online => .ofMembers [("status", .ofText "online")]
  | .offline cause reason =>
      .ofMembers [("status", .ofText "offline"), ("detail", .ofText cause.name),
        ("reason", .ofTextOption reason)]

def text : Status → String
  | .unknown => "UNKNOWN"
  | .online => "ONLINE"
  | .offline cause none => "OFFLINE (" ++ cause.label ++ ")"
  | .offline cause (some reason) => "OFFLINE (" ++ cause.label ++ "): " ++ reason

end Status

end NowNext
