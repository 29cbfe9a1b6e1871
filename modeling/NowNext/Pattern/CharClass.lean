import NowNext.Unicode.Fold
import NowNext.Unicode.Word

set_option autoImplicit false

namespace NowNext

inductive CharClass where
  | listed (ranges : Unicode.Ranges)
  | caseless (c : Char)
  | folded (inner : CharClass)
  | complement (inner : CharClass)
  | either (a b : CharClass)
  | both (a b : CharClass)
deriving DecidableEq

namespace CharClass

def none : CharClass := .listed []
def all : CharClass := .complement none
def single (c : Char) : CharClass := .listed [(c.toNat, c.toNat)]
def word : CharClass := .listed Unicode.wordRanges
def nonWord : CharClass := .complement word

def difference (a b : CharClass) : CharClass := .both a (.complement b)

def exclusive (a b : CharClass) : CharClass := .either (difference a b) (difference b a)

def union (classes : List CharClass) : CharClass := classes.foldl .either none

def contains : CharClass → Char → Bool
  | listed ranges, c => ranges.contains c
  | caseless d, c => Unicode.sameFold d c
  | folded inner, c =>
      inner.contains c || (Unicode.orbit c.toNat).any fun n => inner.contains (Char.ofNat n)
  | complement inner, c => !inner.contains c
  | either a b, c => a.contains c || b.contains c
  | both a b, c => a.contains c && b.contains c

def mergeInto (first last : Nat) : Unicode.Ranges → Unicode.Ranges
  | [] => [(first, last)]
  | range :: ranges =>
      if range.1 ≤ last + 1 then mergeInto first (max last range.2) ranges
      else (first, last) :: mergeInto range.1 range.2 ranges

def merge : Unicode.Ranges → Unicode.Ranges
  | [] => []
  | (first, last) :: ranges => mergeInto first last ranges

def normalize (ranges : Unicode.Ranges) : Unicode.Ranges :=
  merge (ranges.mergeSort fun a b => a.1 ≤ b.1)

def gaps (next : Nat) : Unicode.Ranges → Unicode.Ranges
  | [] => if next ≤ 0x10FFFF then [(next, 0x10FFFF)] else []
  | (first, last) :: ranges =>
      (if next < first then [(next, first - 1)] else []) ++ gaps (last + 1) ranges

def cutSurrogates (ranges : Unicode.Ranges) : Unicode.Ranges :=
  ranges.flatMap fun (first, last) =>
    if last < 0xD800 || 0xDFFF < first then [(first, last)]
    else (if first < 0xD800 then [(first, 0xD7FF)] else []) ++
      (if 0xDFFF < last then [(0xE000, last)] else [])

def intersect (a b : Unicode.Ranges) : Unicode.Ranges :=
  gaps 0 (normalize (gaps 0 a ++ gaps 0 b))

def toRanges : CharClass → Unicode.Ranges
  | listed ranges => normalize ranges
  | caseless c => normalize ((Unicode.orbit c.toNat).map fun n => (n, n))
  | folded inner =>
      let ranges := inner.toRanges
      let inside := fun n => ranges.any fun range => range.1 ≤ n && n ≤ range.2
      let cases := (Unicode.foldRuns.map fun run => (run.first, run.last)) ++
        Unicode.foldRuns.map fun run => (run.target, run.target + run.last - run.first)
      if ranges.any fun range => cases.any fun other => range.1 ≤ other.2 && other.1 ≤ range.2 then
        normalize (ranges ++ ((Unicode.caseNumbers.filter fun n =>
          (Unicode.orbit n).any inside).map fun n => (n, n)))
      else ranges
  | complement inner => gaps 0 inner.toRanges
  | either a b => normalize (a.toRanges ++ b.toRanges)
  | both a b => intersect a.toRanges b.toRanges

end CharClass

end NowNext
