import NowNext.Pattern.CharClass

set_option autoImplicit false

namespace NowNext

abbrev ByteRange := Nat × Nat

abbrev ByteRanges := List ByteRange

namespace ByteRanges

-- The sequences of the numbers from `first` to `last`, whose last `groups` groups of six bits take a
-- byte each. A sequence is for numbers that differ in their last groups only and are complete there.
def spread (lead : Nat) : Nat → Nat → Nat → List ByteRanges
  | 0, first, last => [[(lead + first, lead + last)]]
  | groups + 1, first, last =>
      let unit := Nat.pow 64 (groups + 1)
      let high := first / unit
      let low := last / unit
      let whole := List.replicate (groups + 1) (0x80, 0xBF)
      if high = low then
        (spread 0x80 groups (first % unit) (last % unit)).map ((lead + high, lead + high) :: ·)
      else
        let startsWhole := first % unit = 0
        let endsWhole := last % unit = unit - 1
        let left := if startsWhole then [] else
          (spread 0x80 groups (first % unit) (unit - 1)).map ((lead + high, lead + high) :: ·)
        let right := if endsWhole then [] else
          (spread 0x80 groups 0 (last % unit)).map ((lead + low, lead + low) :: ·)
        let start := if startsWhole then high else high + 1
        let stop := if endsWhole then low + 1 else low
        left ++ (if start < stop then [(lead + start, lead + stop - 1) :: whole] else []) ++ right

def lengths : List (Nat × Nat × Nat × Nat) :=
  [(0, 0, 0x7F, 0), (1, 0x80, 0x7FF, 0xC0), (2, 0x800, 0xFFFF, 0xE0), (3, 0x10000, 0x10FFFF, 0xF0)]

def ofRanges (ranges : Unicode.Ranges) : List ByteRanges :=
  ranges.flatMap fun (first, last) => lengths.flatMap fun (groups, low, high, lead) =>
    if max first low ≤ min last high then spread lead groups (max first low) (min last high)
    else []

def groupByHead : List ByteRanges → List (ByteRange × List ByteRanges)
  | [] => []
  | [] :: rest => groupByHead rest
  | (range :: tail) :: rest =>
      match groupByHead rest with
      | (other, tails) :: groups =>
          if range = other then (range, tail :: tails) :: groups
          else (range, [tail]) :: (other, tails) :: groups
      | [] => [(range, [tail])]

end ByteRanges

end NowNext
