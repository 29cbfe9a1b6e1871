import NowNext.Log.Notice
import NowNext.Text.Blank
import NowNext.Unicode.Latest

set_option autoImplicit false

namespace NowNext

structure Directive where
  target : Option (List Char)
  detail : Nat
deriving DecidableEq

namespace Directive

def levelNames : List (String × Nat) :=
  [("off", 0), ("error", 1), ("warn", 2), ("info", 3), ("debug", 4), ("trace", 5)]

def detail? (written : List Char) : Option Nat :=
  let number := if written.head? = some '+' then written.tail else written
  match ofDigits? number with
  | some n => if n ≤ Level.trace.detail then some n else none
  | none => levelNames.lookup (String.ofList (written.map Char.toLower))

def canBegin (c : Char) : Bool := ['-', ':', '_'].contains c || Unicode.isAlphanumeric c

-- A level, a target, or both with an equals sign between them. A target alone is written whole
-- and may begin with blanks; blanks are never skipped.
def ofChars? (written : List Char) : Option Directive :=
  if !(skipBlanks written).head?.any canBegin then none
  else
    match written.dropWhile (· ≠ '=') with
    | [] =>
        some (match detail? written with
          | some detail => ⟨none, detail⟩
          | none => ⟨some written, Level.trace.detail⟩)
    | _ :: level =>
        let target := some (written.takeWhile (· ≠ '='))
        if written.head?.any isBlank then none
        else if level.isEmpty then some ⟨target, Level.trace.detail⟩
        else (detail? level).map (⟨target, ·⟩)

def rank (directive : Directive) : Nat :=
  match directive.target with
  | some target => target.length + 1
  | none => 0

def covers (directive : Directive) (origin : List Char) : Bool :=
  directive.target.all fun target => target.isPrefixOf origin

end Directive

abbrev Directives := List Directive

namespace Directives

def ofString? (written : String) : Option Directives :=
  ((written.toList.splitOn ',').filter (!·.isEmpty)).mapM Directive.ofChars?

def decisive? (origin : List Char) : Directives → Option Directive
  | [] => none
  | directive :: rest =>
      match decisive? origin rest with
      | some later =>
          some (if directive.covers origin && later.rank < directive.rank then directive else later)
      | none => if directive.covers origin then some directive else none

def allow (directives : Directives) (notice : Notice) : Bool :=
  (decisive? notice.origin.toList directives).any fun directive =>
    notice.level.detail ≤ directive.detail

end Directives

end NowNext
