import NowNext.Pattern.Basic

/-!
The shape of a pattern that its search program follows: characters in a row are one text, branches
that are all characters or all sets are one set, and what all branches begin with stands once in
front of them.
-/

set_option autoImplicit false

namespace NowNext

inductive Outline where
  | empty
  | text (chars : List Char)
  | set (ranges : Unicode.Ranges)
  | look (condition : Look)
  | times (p : Outline) (least : Nat) (most : Option Nat)
  | group (p : Outline)
  | concat (parts : List Outline)
  | choice (branches : List Outline)

namespace Outline

mutual

-- Equal outlines. Two groups are never equal, since each is a place of its own.
def same : Outline → Outline → Bool
  | empty, empty => true
  | text a, text b => a == b
  | set a, set b => a == b
  | look a, look b => a == b
  | times p least most, times q least' most' => p.same q && least == least' && most == most'
  | concat ps, concat qs => sameAll ps qs
  | choice ps, choice qs => sameAll ps qs
  | _, _ => false

def sameAll : List Outline → List Outline → Bool
  | [], [] => true
  | p :: ps, q :: qs => p.same q && sameAll ps qs
  | _, _ => false

end

mutual

def takesNothing : Outline → Bool
  | empty => true
  | text _ => false
  | set _ => false
  | look _ => true
  | times p _ _ => p.takesNothing
  | group p => p.takesNothing
  | concat ps => allTakeNothing ps
  | choice ps => allTakeNothing ps

def allTakeNothing : List Outline → Bool
  | [] => true
  | p :: ps => p.takesNothing && allTakeNothing ps

end

mutual

def isPossible : Outline → Bool
  | set ranges => !ranges.isEmpty
  | times p _ _ => p.isPossible
  | group p => p.isPossible
  | concat ps => allPossible ps
  | choice ps => allPossible ps
  | _ => true

def allPossible : List Outline → Bool
  | [] => true
  | p :: ps => p.isPossible && allPossible ps

end

mutual

def takesSome : Outline → Bool
  | empty => false
  | text _ => true
  | set ranges => !ranges.isEmpty
  | look _ => false
  | times p least _ => least != 0 && p.takesSome
  | group p => p.takesSome
  | concat ps => allPossible ps && anyTakesSome ps
  | choice ps => allTakeSome ps

def anyTakesSome : List Outline → Bool
  | [] => false
  | p :: ps => p.takesSome || anyTakesSome ps

def allTakeSome : List Outline → Bool
  | [] => true
  | p :: ps => p.takesSome && allTakeSome ps

end

mutual

def isAtStart : Outline → Bool
  | look condition => condition == .textStart
  | times p least _ => least != 0 && p.isAtStart
  | group p => p.isAtStart
  | concat ps => partsAtStart ps
  | choice ps => allAtStart ps
  | _ => false

def partsAtStart : List Outline → Bool
  | [] => false
  | p :: ps => p.isAtStart || (p.takesNothing && partsAtStart ps)

def allAtStart : List Outline → Bool
  | [] => true
  | p :: ps => p.isAtStart && allAtStart ps

end

mutual

def isAtEnd : Outline → Bool
  | look condition => condition == .textEnd
  | times p least _ => least != 0 && p.isAtEnd
  | group p => p.isAtEnd
  | concat ps => partsAtEnd ps
  | choice ps => allAtEnd ps
  | _ => false

def partsAtEnd : List Outline → Bool
  | [] => false
  | p :: ps => partsAtEnd ps || (allTakeNothing ps && p.isAtEnd)

def allAtEnd : List Outline → Bool
  | [] => true
  | p :: ps => p.isAtEnd && allAtEnd ps

end

def ofRanges (ranges : Unicode.Ranges) : Outline :=
  match ranges with
  | [(first, last)] => if first = last then .text [Char.ofNat first] else .set ranges
  | _ => .set ranges

def joinPart : Outline → List Outline → List Outline
  | .empty, parts => parts
  | .text a, .text b :: parts => .text (a ++ b) :: parts
  | p, parts => p :: parts

def flattenParts (parts : List Outline) : List Outline :=
  parts.flatMap fun
    | .concat inner => inner
    | p => [p]

def ofParts (parts : List Outline) : Outline :=
  match (flattenParts parts).foldr joinPart [] with
  | [] => .empty
  | [p] => p
  | parts => .concat parts

def flattenBranches (branches : List Outline) : List Outline :=
  branches.flatMap fun
    | .choice inner => inner
    | p => [p]

def char? : Outline → Option Nat
  | .text [c] => some c.toNat
  | _ => none

def ranges? : Outline → Option Unicode.Ranges
  | .set ranges => some ranges
  | _ => none

def asSet? (branches : List Outline) : Option Outline :=
  match branches.mapM char? with
  | some numbers => some (ofRanges (CharClass.normalize (numbers.map fun n => (n, n))))
  | none => (branches.mapM ranges?).map fun sets => ofRanges (CharClass.normalize sets.flatten)

def shared : List Outline → List Outline → List Outline
  | p :: ps, q :: qs => if p.same q then p :: shared ps qs else []
  | _, _ => []

def parts? : Outline → Option (List Outline)
  | .concat parts => some parts
  | _ => none

def takeShared? (branches : List Outline) : Option (List Outline × List Outline) :=
  match branches.mapM parts? with
  | some (first :: others) =>
      match others.foldl shared first with
      | [] => none
      | front => some (front, (first :: others).map fun parts => ofParts (parts.drop front.length))
  | _ => none

def ofDistinct (branches : List Outline) : Outline :=
  match flattenBranches branches with
  | [p] => p
  | branches => (asSet? branches).getD (.choice branches)

def ofBranches (branches : List Outline) : Outline :=
  match ofDistinct branches with
  | .choice branches =>
      match takeShared? branches with
      | some (front, rests) => ofParts (front ++ [ofDistinct rests])
      | none => .choice branches
  | p => p

def ofBranchParts : List (List Outline) → Outline
  | [parts] => ofParts parts
  | branches => ofBranches (branches.map ofParts)

def partsOf : List (List Outline) → List Outline
  | [parts] => parts
  | branches => [ofBranchParts branches]

def ofTimes (p : Outline) (least : Nat) (most : Option Nat) : Outline :=
  let (least, most) :=
    if p.takesNothing then (min least 1, some (min (most.getD 1) 1)) else (least, most)
  if most = some 0 then .empty
  else if least = 1 && most = some 1 then p
  else .times p least most

end Outline

namespace Pattern

def branchParts : Pattern → List (List Outline)
  | empty => [[.empty]]
  | chars cls => [[.ofRanges (CharClass.cutSurrogates cls.toRanges)]]
  | look condition => [[.look condition]]
  | seq a b => [Outline.partsOf a.branchParts ++ Outline.partsOf b.branchParts]
  | alt a b => Outline.partsOf a.branchParts :: b.branchParts
  | times p least most => [[.ofTimes (.ofBranchParts p.branchParts) least most]]
  | group captures p =>
      let inner := Outline.ofBranchParts p.branchParts
      [[if captures then .group inner else inner]]

def outline (p : Pattern) : Outline := .ofBranchParts p.branchParts

end Pattern

end NowNext
