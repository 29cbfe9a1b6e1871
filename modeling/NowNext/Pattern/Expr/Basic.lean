set_option autoImplicit false

namespace NowNext

-- The switches of an expression. `swapGreed` changes which match is found and never whether.
inductive Flag where
  | caseless
  | multiLine
  | dotAll
  | swapGreed
  | unicode
  | crlf
  | spaced
deriving DecidableEq

def Flag.ofChar? : Char → Option Flag
  | 'i' => some .caseless
  | 'm' => some .multiLine
  | 's' => some .dotAll
  | 'U' => some .swapGreed
  | 'u' => some .unicode
  | 'R' => some .crlf
  | 'x' => some .spaced
  | _ => none

structure FlagChange where
  on : List Flag := []
  off : List Flag := []

namespace FlagChange

def apply (change : FlagChange) (flag : Flag) (old : Bool) : Bool :=
  (old || change.on.contains flag) && !change.off.contains flag

end FlagChange

structure Literal where
  char : Char
  isByte : Bool := false

inductive LetterClass where
  | digit
  | space
  | word

inductive NameQuery where
  | alone (name : String)
  | valued (property value : String)

inductive ClassAtom where
  | letter (kind : LetterClass) (negated : Bool)
  | query (name : NameQuery) (negated : Bool)

inductive SetOp where
  | intersection
  | difference
  | symmetricDifference

inductive SetExpr where
  | literal (lit : Literal)
  | range (first last : Literal)
  | ascii (ranges : List (Nat × Nat)) (negated : Bool)
  | atom (cls : ClassAtom)
  | bracketed (negated : Bool) (inner : SetExpr)
  | union (items : List SetExpr)
  | op (kind : SetOp) (left right : SetExpr)

inductive Assertion where
  | lineStart
  | lineEnd
  | textStart
  | textEnd
  | wordBoundary
  | noWordBoundary
  | wordStart
  | wordEnd
  | wordStartHalf
  | wordEndHalf

inductive Expr where
  | empty
  | flags (change : FlagChange)
  | literal (lit : Literal)
  | dot
  | assertion (kind : Assertion)
  | atom (cls : ClassAtom)
  | set (negated : Bool) (inner : SetExpr)
  | times (e : Expr) (least : Nat) (most : Option Nat)
  | group (captures : Bool) (change : FlagChange) (e : Expr)
  | alternation (branches : List Expr)
  | concat (parts : List Expr)

namespace SetExpr

def ofItems : List SetExpr → SetExpr
  | [item] => item
  | items => .union items

mutual

def depth : SetExpr → Nat
  | bracketed _ inner => inner.depth + 1
  | union [] => 0
  | union items => depths items + 1
  | op _ left right => max left.depth right.depth + 1
  | _ => 0

def depths : List SetExpr → Nat
  | [] => 0
  | item :: items => max item.depth (depths items)

end

end SetExpr

namespace Expr

def ofParts : List Expr → Expr
  | [] => .empty
  | [part] => part
  | parts => .concat parts

def ofBranches : List Expr → Expr
  | [branch] => branch
  | branches => .alternation branches

mutual

def depth : Expr → Nat
  | set _ inner => inner.depth + 1
  | times e _ _ => e.depth + 1
  | group _ _ e => e.depth + 1
  | alternation branches => depths branches + 1
  | concat parts => depths parts + 1
  | _ => 0

def depths : List Expr → Nat
  | [] => 0
  | e :: es => max e.depth (depths es)

end

def maxDepth : Nat := 250

end Expr

end NowNext
