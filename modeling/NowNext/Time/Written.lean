import NowNext.Text.Decimal
import NowNext.Time.Date
import NowNext.Time.Instant

set_option autoImplicit false

namespace NowNext

structure InstantForm where
  separator : Char
  zone : List Char

namespace InstantForm

def compact : InstantForm := ⟨'T', ['Z']⟩

def display : InstantForm := ⟨' ', [' ', 'U', 'T', 'C']⟩

def offset : InstantForm := ⟨'T', ['+', '0', '0', ':', '0', '0']⟩

end InstantForm

namespace Instant

def yearText (year : Int) : List Char :=
  if 0 ≤ year ∧ year ≤ 9999 then padded 4 year.toNat
  else (if year < 0 then '-' else '+') :: padded 4 year.natAbs

def fractionText (nanos : Nat) : List Char :=
  if nanos = 0 then []
  else if nanos % 1000000 = 0 then '.' :: padded 3 (nanos / 1000000)
  else if nanos % 1000 = 0 then '.' :: padded 6 (nanos / 1000)
  else '.' :: padded 9 nanos

def date (t : Instant) : Date := Date.ofDays (t.seconds / secondsPerDay)

def written (form : InstantForm) (t : Instant) : List Char :=
  let date := t.date
  let second := t.secondOfDay.toNat
  let leap := if t.isLeap then 1 else 0
  yearText date.year ++ ['-'] ++ padded 2 date.month ++ ['-'] ++ padded 2 date.day ++
    [form.separator] ++ padded 2 (second / 3600) ++ [':'] ++ padded 2 (second / 60 % 60) ++ [':'] ++
    padded 2 (second % 60 + leap) ++ fractionText (t.nanos - leap * nanosPerSecond) ++ form.zone

def text (form : InstantForm) (t : Instant) : String := String.ofList (t.written form)

def shown (t : Instant) : String := t.text .display

end Instant

end NowNext
