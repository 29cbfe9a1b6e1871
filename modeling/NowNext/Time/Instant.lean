/-!
Points in time with nanoseconds and leap seconds. A leap second is a second `:60`: it shares the
count of the second `:59` before it and is told from it by its nanoseconds, which start at 10⁹.
-/

set_option autoImplicit false

namespace NowNext

def nanosPerSecond : Nat := 1000000000
def nanosPerMilli : Nat := 1000000
def secondsPerDay : Nat := 86400

-- Seconds from 1970-01-01T00:00:00Z to -262143-01-01T00:00:00Z.
def firstSecond : Int := -8334601228800

-- Seconds from 1970-01-01T00:00:00Z to +262142-12-31T23:59:59Z.
def lastSecond : Int := 8210266876799

structure Instant where
  seconds : Int
  nanos : Nat
  seconds_ge : firstSecond ≤ seconds
  seconds_le : seconds ≤ lastSecond
  nanos_lt : nanos < 2 * nanosPerSecond
  leap_last : nanosPerSecond ≤ nanos → seconds % 60 = 59
deriving DecidableEq

namespace Instant

def of? (seconds : Int) (nanos : Nat) : Option Instant :=
  if valid : firstSecond ≤ seconds ∧ seconds ≤ lastSecond ∧ nanos < 2 * nanosPerSecond ∧
      (nanosPerSecond ≤ nanos → seconds % 60 = 59) then
    some ⟨seconds, nanos, valid.1, valid.2.1, valid.2.2.1, valid.2.2.2⟩
  else none

def first : Instant := ⟨firstSecond, 0, by decide, by decide, by decide, by decide⟩

def last : Instant := ⟨lastSecond, 999999999, by decide, by decide, by decide, by decide⟩

def isLeap (t : Instant) : Bool := nanosPerSecond ≤ t.nanos

def rank (t : Instant) : Int := t.seconds * (2 * nanosPerSecond : Nat) + t.nanos

instance : LE Instant := ⟨fun a b => a.rank ≤ b.rank⟩
instance : LT Instant := ⟨fun a b => a.rank < b.rank⟩
instance (a b : Instant) : Decidable (a ≤ b) := inferInstanceAs (Decidable (a.rank ≤ b.rank))
instance (a b : Instant) : Decidable (a < b) := inferInstanceAs (Decidable (a.rank < b.rank))
instance : Min Instant := ⟨fun a b => if a ≤ b then a else b⟩

theorem rank_injective (a b : Instant) (same : a.rank = b.rank) : a = b := by
  obtain ⟨s, n, _, _, ns, _⟩ := a
  obtain ⟨s', n', _, _, ns', _⟩ := b
  simp only [rank, nanosPerSecond] at same ns ns'
  have : s = s' := by omega
  have : n = n' := by omega
  simp_all

theorem not_lt (a b : Instant) : ¬ a < b ↔ b ≤ a := Int.not_lt

theorem le_trans (a b c : Instant) (ab : a ≤ b) (bc : b ≤ c) : a ≤ c := Int.le_trans ab bc

theorem le_total (a b : Instant) : a ≤ b ∨ b ≤ a := Int.le_total a.rank b.rank

def count (t : Instant) : Int := t.seconds * nanosPerSecond + t.nanos

def ofCount? (n : Int) : Option Instant := of? (n / nanosPerSecond) (n % nanosPerSecond).toNat

-- `t` moved by `delta` nanoseconds. A leap second that is left forwards takes no time of its own;
-- one that is left backwards is the second after `:59`.
def plus? (t : Instant) (delta : Int) : Option Instant :=
  if t.isLeap then
    if nanosPerSecond ≤ delta ∨ 0 < delta ∧ 2 * nanosPerSecond ≤ t.nanos + delta then
      ofCount? (t.count - nanosPerSecond + delta)
    else if delta ≤ -nanosPerSecond then ofCount? (t.count + delta)
    else of? t.seconds (t.nanos + delta).toNat
  else ofCount? (t.count + delta)

def plusMillis (t : Instant) (millis : Nat) : Instant :=
  (t.plus? (millis * nanosPerMilli : Nat)).getD last

def secondOfDay (t : Instant) : Int := t.seconds % secondsPerDay

-- Nanoseconds from `b` to `a`. A leap second in between counts when the time of day passes it.
def minus (a b : Instant) : Int :=
  let leaps : Int :=
    if b.secondOfDay < a.secondOfDay then (if b.isLeap then 1 else 0)
    else if a.secondOfDay < b.secondOfDay then (if a.isLeap then -1 else 0)
    else 0
  a.count - b.count + leaps * nanosPerSecond

def wait (now target : Instant) : Nat := (target.minus now).toNat

end Instant

end NowNext
