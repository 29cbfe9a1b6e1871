import NowNext.Pattern.Basic

/-!
Searching a text for a pattern. A set of places is a number whose bit `i` stands for the place before
the `i`th character; `Pattern.ends` maps the places where a match may start to those where it ends,
so that a search takes no longer for ambiguous patterns.
-/

set_option autoImplicit false

namespace NowNext.Pattern

def placesFrom (test : Nat → Bool) (i : Nat) : Nat → Nat
  | 0 => 0
  | count + 1 => (if test i then 2 ^ i else 0) ||| placesFrom test (i + 1) count

def charPlaces (text : List Char) (cls : CharClass) : Nat :=
  placesFrom (fun i => text[i]?.any cls.contains) 0 text.length

def lookPlaces (text : List Char) (condition : Look) : Nat :=
  placesFrom (fun i => condition.holds (before? text i) text[i]?) 0 (text.length + 1)

def iterate (step : Nat → Nat) : Nat → Nat → Nat
  | 0, places => places
  | count + 1, places =>
      let next := step places
      if next = places then places else iterate step count next

def reach (step : Nat → Nat) : Nat → Nat → Nat
  | 0, places => places
  | count + 1, places =>
      let next := places ||| step places
      if next = places then places else reach step count next

def ends (text : List Char) : Pattern → Nat → Nat
  | empty, places => places
  | chars cls, places => (places &&& charPlaces text cls) <<< 1
  | look condition, places => places &&& lookPlaces text condition
  | seq a b, places => ends text b (ends text a places)
  | alt a b, places => ends text a places ||| ends text b places
  | times p least most, places =>
      let start := iterate (ends text p) least places
      match most with
      | none => reach (ends text p) (text.length + 1) start
      | some most => if most < least then 0 else reach (ends text p) (most - least) start
  | group _ p, places => ends text p places

def allPlaces (text : List Char) : Nat := Nat.pow 2 (text.length + 1) - 1

def isIn (p : Pattern) (text : List Char) : Bool := p.ends text (allPlaces text) != 0

end NowNext.Pattern
