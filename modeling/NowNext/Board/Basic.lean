import NowNext.Event.Written
import NowNext.Json.Printer

set_option autoImplicit false

namespace NowNext

structure Board where
  current : Option Event := none
  next : Option Event := none
deriving DecidableEq

namespace Board

def blank : Board := {}

def isPresent (board : Board) : Bool := board.current.isSome

def toJson (board : Board) : Json :=
  .ofMembers [("current", (board.current.map Event.toJson).getD .null),
    ("next", (board.next.map Event.toJson).getD .null)]

end Board

end NowNext
