import NowNext.Text.Decimal
import NowNext.Time.Instant

set_option autoImplicit false

namespace NowNext

-- Signed seconds; a positive lead makes an event current that long before it starts.
structure LeadTime where
  seconds : Int := 0
deriving DecidableEq

namespace LeadTime

def isZero (lead : LeadTime) : Bool := lead.seconds == 0

-- Spans of time are bounded, too: this many milliseconds either way.
def longestMillis : Nat := 9223372036854775807

def span? (lead : LeadTime) : Option Int :=
  if (lead.seconds * 1000).natAbs ≤ longestMillis then some (lead.seconds * nanosPerSecond) else none

def apply (lead : LeadTime) (clock : Instant) : Instant :=
  (lead.span?.bind clock.plus?).getD (if 0 ≤ lead.seconds then Instant.last else Instant.first)

def text (lead : LeadTime) : String := String.ofList (signed lead.seconds ++ ['s'])

end LeadTime

end NowNext
