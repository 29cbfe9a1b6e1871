import NowNext.Text.Hex

set_option autoImplicit false

namespace NowNext.Unicode

abbrev Ranges := List (Nat × Nat)

namespace Ranges

def contains (ranges : Ranges) (c : Char) : Bool :=
  ranges.any fun range => range.1 ≤ c.toNat && c.toNat ≤ range.2

def hexNumber (text : List Char) : Nat := text.foldl (fun n c => 16 * n + (hexValue? c).getD 0) 0

-- Ranges as tables spell them: for each range its distance from the end of the one before, and
-- after `-` how many numbers follow the first.
def ofWords (next : Nat) : List (List Char) → Ranges
  | [] => []
  | word :: words =>
      let first := next + hexNumber (word.takeWhile (· ≠ '-'))
      let last := first + hexNumber ((word.dropWhile (· ≠ '-')).drop 1)
      (first, last) :: ofWords (last + 1) words

def ofLines (lines : List String) : Ranges :=
  ofWords 0 (lines.flatMap fun line => line.toList.splitOn ' ')

end Ranges

structure NamedSet where
  names : List String
  lines : List String

namespace NamedSet

def ranges (set : NamedSet) : Ranges := Ranges.ofLines set.lines

def find? (sets : List NamedSet) (name : String) : Option NamedSet :=
  sets.find? fun set => set.names.contains name

end NamedSet

end NowNext.Unicode
