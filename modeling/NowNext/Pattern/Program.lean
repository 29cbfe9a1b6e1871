set_option autoImplicit false

namespace NowNext

-- A program as far as it is built: how many states it has, and the bytes that are taken by ways out
-- of states with several of them.
structure Tally where
  states : Nat := 0
  ways : Nat := 0

namespace Tally

def limit : Nat := 10485760

def state : Nat := 32

def branch : Nat := 4

def edge : Nat := 8

def bytes (tally : Tally) : Nat := tally.states * state + tally.ways

def fits (tally : Tally) : Bool := tally.bytes ≤ limit

end Tally

abbrev Step := Tally → Option Tally

namespace Step

def add (states ways : Nat) : Step := fun tally =>
  let next : Tally := ⟨tally.states + states, tally.ways + ways⟩
  if next.fits then some next else none

def andThen (a b : Step) : Step := fun tally => (a tally).bind b

def all : List Step → Step
  | [] => some
  | a :: rest => andThen a (all rest)

def iterate (a : Step) : Nat → Step
  | 0, tally => some tally
  | count + 1, tally =>
      match a tally with
      | some tally => iterate a count tally
      | none => none

def choice : List Step → Step
  | a :: b :: rest =>
      all ([a, b, add 2 (Tally.branch * (rest.length + 2))] ++ rest)
  | steps => all steps

def optional (a : Step) : Step := all [add 1 (2 * Tally.branch), a, add 1 0]

def anyTimes (takesSome : Bool) (a : Step) : Step :=
  if takesSome then andThen (add 1 (2 * Tally.branch)) a
  else andThen a (add 3 (4 * Tally.branch))

def times (takesSome : Bool) (a : Step) (least : Nat) : Option Nat → Step
  | none =>
      if least = 0 then anyTimes takesSome a
      else andThen (iterate a least) (add 1 (2 * Tally.branch))
  | some most =>
      if least = 0 && most = 1 then optional a
      else if least = most then iterate a least
      else all [if least = 0 then add 1 0 else iterate a least, add 1 0,
        iterate (andThen (add 1 (2 * Tally.branch)) a) (most - least)]

end Step

end NowNext
