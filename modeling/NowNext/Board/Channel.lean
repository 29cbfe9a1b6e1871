import NowNext.Board.Basic

set_option autoImplicit false

namespace NowNext

inductive Channel where
  | presence
  | currentTitle
  | currentStart
  | currentFinish
  | currentDescription
  | currentLocation
  | currentComment
  | currentContact
  | nextTitle
  | nextStart
  | nextFinish
  | nextDescription
  | nextLocation
  | nextComment
  | nextContact
deriving DecidableEq

-- Of one event: its title, start, finish, description, location, comment and contact.
abbrev EventChannels := Vector Channel 7

namespace Channel

def all : List Channel :=
  [presence, currentTitle, currentStart, currentFinish, currentDescription, currentLocation, currentComment,
    currentContact, nextTitle, nextStart, nextFinish, nextDescription, nextLocation, nextComment, nextContact]

def current : EventChannels :=
  #v[currentTitle, currentStart, currentFinish, currentDescription, currentLocation, currentComment, currentContact]

def next : EventChannels :=
  #v[nextTitle, nextStart, nextFinish, nextDescription, nextLocation, nextComment, nextContact]

def name : Channel → String
  | presence => "current_presence"
  | currentTitle => "current_title"
  | currentStart => "current_start"
  | currentFinish => "current_end"
  | currentDescription => "current_description"
  | currentLocation => "current_location"
  | currentComment => "current_comment"
  | currentContact => "current_contact"
  | nextTitle => "next_title"
  | nextStart => "next_start"
  | nextFinish => "next_end"
  | nextDescription => "next_description"
  | nextLocation => "next_location"
  | nextComment => "next_comment"
  | nextContact => "next_contact"

end Channel

inductive Reading where
  | switch (on : Bool)
  | text (value : String)
  | instant (value : Instant)
  | undefined
deriving DecidableEq

namespace Reading

def shown : Reading → String
  | switch true => "ON"
  | switch false => "OFF"
  | text value => value
  | instant value => value.text .offset
  | undefined => "UNDEF"

def toJson : Reading → Json
  | switch on => .ofMembers [("type", .ofText "switch"), ("value", .bool on)]
  | text value => .ofMembers [("type", .ofText "text"), ("value", .ofText value)]
  | instant value =>
      .ofMembers [("type", .ofText "date_time"), ("value", .ofText (value.text .compact))]
  | undefined => .ofMembers [("type", .ofText "undef")]

def ofText? : Option String → Reading
  | some value => text value
  | none => undefined

end Reading

namespace EventChannels

def readings (channels : EventChannels) : Option Event → List (Channel × Reading)
  | some event =>
      [(channels[0], .text event.title), (channels[1], .instant event.start), (channels[2], .instant event.finish),
        (channels[3], .ofText? event.description), (channels[4], .ofText? event.location),
        (channels[5], .ofText? event.comment), (channels[6], .ofText? event.contact)]
  | none => channels.toList.map fun channel => (channel, .undefined)

end EventChannels

namespace Board

def readings (board : Board) : List (Channel × Reading) :=
  (.presence, .switch board.isPresent) ::
    Channel.current.readings board.current ++ Channel.next.readings board.next

end Board

end NowNext
