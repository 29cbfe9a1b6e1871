import NowNext.Pattern.CharClass

set_option autoImplicit false

namespace NowNext

inductive WordEdge where
  | boundary
  | noBoundary
  | start
  | finish
  | startHalf
  | finishHalf
deriving DecidableEq

inductive Look where
  | textStart
  | textEnd
  | lineStart (crlf : Bool)
  | lineEnd (crlf : Bool)
  | word (edge : WordEdge) (isWord : CharClass)
deriving DecidableEq

namespace WordEdge

def holds : WordEdge → Bool → Bool → Bool
  | boundary, before, after => before != after
  | noBoundary, before, after => before == after
  | start, before, after => !before && after
  | finish, before, after => before && !after
  | startHalf, before, _ => !before
  | finishHalf, _, after => !after

end WordEdge

namespace Look

-- Whether the condition holds between two characters, of which one is missing at an end of the
-- text. Where a line feed follows a carriage return, `crlf` lines neither end nor start between.
def holds : Look → Option Char → Option Char → Bool
  | textStart, before, _ => before.isNone
  | textEnd, _, after => after.isNone
  | lineStart crlf, before, after =>
      before.isNone || before == some '\n' ||
        (crlf && before == some '\r' && after != some '\n')
  | lineEnd false, _, after => after.isNone || after == some '\n'
  | lineEnd true, before, after =>
      after.isNone || after == some '\r' || (after == some '\n' && before != some '\r')
  | word edge isWord, before, after => edge.holds (before.any isWord.contains) (after.any isWord.contains)

end Look

inductive Pattern where
  | empty
  | chars (cls : CharClass)
  | look (condition : Look)
  | seq (a b : Pattern)
  | alt (a b : Pattern)
  | times (p : Pattern) (least : Nat) (most : Option Nat)
  | group (captures : Bool) (p : Pattern)

namespace Pattern

def nothing : Pattern := .chars .none

def ofList (parts : List Pattern) : Pattern :=
  match parts.reverse with
  | [] => .empty
  | last :: parts => parts.foldl (fun rest part => .seq part rest) last

def anyOf (choices : List Pattern) : Pattern :=
  match choices.reverse with
  | [] => nothing
  | last :: choices => choices.foldl (fun rest choice => .alt choice rest) last

def before? (text : List Char) (i : Nat) : Option Char := if i = 0 then none else text[i - 1]?

inductive Matches (text : List Char) : Pattern → Nat → Nat → Prop where
  | empty {i : Nat} (inside : i ≤ text.length) : Matches text .empty i i
  | chars {cls : CharClass} {i : Nat} {c : Char} (at_place : text[i]? = some c)
      (member : cls.contains c) : Matches text (.chars cls) i (i + 1)
  | look {condition : Look} {i : Nat} (inside : i ≤ text.length)
      (holds : condition.holds (before? text i) text[i]?) : Matches text (.look condition) i i
  | seq {a b : Pattern} {i j k : Nat} (left : Matches text a i j) (right : Matches text b j k) :
      Matches text (.seq a b) i k
  | altLeft {a b : Pattern} {i j : Nat} (left : Matches text a i j) : Matches text (.alt a b) i j
  | altRight {a b : Pattern} {i j : Nat} (right : Matches text b i j) : Matches text (.alt a b) i j
  | timesNone {p : Pattern} {most : Option Nat} {i : Nat} (inside : i ≤ text.length) :
      Matches text (.times p 0 most) i i
  | timesMore {p : Pattern} {least : Nat} {most : Option Nat} {i j k : Nat} (more : most ≠ some 0)
      (once : Matches text p i j) (rest : Matches text (.times p (least - 1) (most.map (· - 1))) j k) :
      Matches text (.times p least most) i k
  | group {captures : Bool} {p : Pattern} {i j : Nat} (inner : Matches text p i j) :
      Matches text (.group captures p) i j

end Pattern

end NowNext
