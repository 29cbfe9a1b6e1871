import NowNext.Board.Basic
import NowNext.Calendar.Basic

set_option autoImplicit false

namespace NowNext.Board

variable {C : Type} [Calendar C]

-- The board that the calendar gives. Having no calendar is not the same as having no events.
def resolve (calendar : Option C) (t : Instant) (filter : Option Filter) : Except FeedFault Board :=
  match calendar with
  | some calendar => .ok ⟨Calendar.current calendar t filter, Calendar.next calendar t filter⟩
  | none => .error .noCalendar

def presentEnd (calendar : C) (t : Instant) : Except FeedFault (Option Instant) :=
  if Calendar.isPresent calendar t then
    match Calendar.current calendar t none with
    | some event => .ok (some event.finish)
    | none => .error (.inconsistent t)
  else .ok none

def earlier : Option Instant → Option Instant → Option Instant
  | some a, some b => some (min a b)
  | some a, none => some a
  | none, b => b

-- The next bound of an event. Filters play no part: an event that is hidden still ends, and what
-- follows it may be shown.
def nextBoundary (calendar : Option C) (t : Instant) : Except FeedFault (Option Instant) :=
  match calendar with
  | some calendar => do
      let finish ← presentEnd calendar t
      .ok (earlier finish ((Calendar.next calendar t none).map (·.start)))
  | none => .error .noCalendar

end NowNext.Board
