import NowNext.Calendar.Agenda
import NowNext.Log.Notice

set_option autoImplicit false

namespace NowNext

structure Feed (C : Type) where
  link : Link := .unknown
  calendar : Option C := none

namespace Feed

variable {C : Type}

def setLink (feed : Feed C) (link : Link) : Feed C × List Notice :=
  if feed.link = link then (feed, [])
  else ({ feed with link }, [.linkChanged feed.link link])

def replace (feed : Feed Agenda) (agenda : Agenda) : Feed Agenda × List Notice :=
  ({ feed with calendar := some agenda }, [.calendarReplaced agenda.size])

end Feed

end NowNext
