import NowNext.Pattern.Expr.Reader
import NowNext.Pattern.Size

set_option autoImplicit false

namespace NowNext

structure Flags where
  caseless : Bool := false
  multiLine : Bool := false
  dotAll : Bool := false
  unicode : Bool := true
  crlf : Bool := false

namespace Flags

def change (flags : Flags) (change : FlagChange) : Flags where
  caseless := change.apply .caseless flags.caseless
  multiLine := change.apply .multiLine flags.multiLine
  dotAll := change.apply .dotAll flags.dotAll
  unicode := change.apply .unicode flags.unicode
  crlf := change.apply .crlf flags.crlf

end Flags

namespace CharClass

def foldedAscii (cls : CharClass) : CharClass :=
  .listed (((List.range 0x80).filter fun n =>
    let c := Char.ofNat n
    cls.contains c || cls.contains c.toLower || cls.contains c.toUpper).map fun n => (n, n))

def asciiDigit : CharClass := .listed [(0x30, 0x39)]
def asciiSpace : CharClass := .listed [(0x09, 0x0D), (0x20, 0x20)]
def asciiWord : CharClass := .listed [(0x30, 0x39), (0x41, 0x5A), (0x5F, 0x5F), (0x61, 0x7A)]

def ofNamed : Unicode.Named → CharClass
  | .ranges ranges => .listed ranges
  | .union parts => .union (parts.map .listed)
  | .complement parts => .complement (.union (parts.map .listed))

def digit : CharClass := ((Unicode.category? "nd").map ofNamed).getD asciiDigit

def space : CharClass := .listed blankRanges

end CharClass

namespace Flags

def fold (flags : Flags) (cls : CharClass) : CharClass :=
  if flags.caseless then
    if flags.unicode then .folded cls else cls.foldedAscii
  else cls

-- The complement of an ASCII class has bytes that are no characters.
def negate? (flags : Flags) (negated : Bool) (cls : CharClass) : Option CharClass :=
  if negated then
    if flags.unicode then some (.complement cls) else none
  else some cls

def foldNegate? (flags : Flags) (negated : Bool) (cls : CharClass) : Option CharClass :=
  flags.negate? negated (flags.fold cls)

def allows (flags : Flags) (literal : Literal) : Bool :=
  flags.unicode || !literal.isByte || literal.char.toNat < 0x80

def setChar? (flags : Flags) (literal : Literal) : Option Char :=
  if flags.unicode || literal.char.toNat < 0x80 then some literal.char else none

end Flags

namespace LetterClass

def charClass : LetterClass → Bool → CharClass
  | digit, true => .digit
  | space, true => .space
  | word, true => .word
  | digit, false => .asciiDigit
  | space, false => .asciiSpace
  | word, false => .asciiWord

end LetterClass

namespace ClassAtom

def charClass? (flags : Flags) : ClassAtom → Option CharClass
  | letter kind negated => flags.negate? negated (kind.charClass flags.unicode)
  | query name negated => do
      if !flags.unicode then none
      let named ← match name with
        | .alone name => Unicode.named? name
        | .valued property value => Unicode.valued? property value
      flags.foldNegate? negated (.ofNamed named)

end ClassAtom

namespace SetExpr

def combine (flags : Flags) : SetOp → CharClass → CharClass → CharClass
  | .intersection, left, right => .both (flags.fold left) (flags.fold right)
  | .difference, left, right => .difference (flags.fold left) (flags.fold right)
  | .symmetricDifference, left, right => .exclusive (flags.fold left) (flags.fold right)

mutual

def charClass? (flags : Flags) : SetExpr → Option CharClass
  | literal lit => (flags.setChar? lit).map .single
  | range first last => do
      let first ← flags.setChar? first
      let last ← flags.setChar? last
      some (.listed [(first.toNat, last.toNat)])
  | ascii ranges negated => flags.foldNegate? negated (.listed ranges)
  | atom cls => cls.charClass? flags
  | bracketed negated inner => do flags.foldNegate? negated (← charClass? flags inner)
  | union items => (unionClass? flags items)
  | op kind left right => do
      some (combine flags kind (← charClass? flags left) (← charClass? flags right))

def unionClass? (flags : Flags) : List SetExpr → Option CharClass
  | [] => some .none
  | [item] => charClass? flags item
  | item :: items => do some (.either (← charClass? flags item) (← unionClass? flags items))

end

end SetExpr

namespace Flags

def literalClass (flags : Flags) (c : Char) : CharClass :=
  if flags.caseless then
    if flags.unicode then .caseless c
    else if c.toNat < 0x80 then (CharClass.single c).foldedAscii
    else .single c
  else .single c

def dotClass (flags : Flags) : CharClass :=
  if flags.dotAll then .all
  else if flags.crlf then .complement (.listed [(0x0A, 0x0A), (0x0D, 0x0D)])
  else .complement (.single '\n')

def wordClass (flags : Flags) : CharClass := if flags.unicode then .word else .asciiWord

end Flags

namespace Assertion

def look (flags : Flags) : Assertion → Look
  | lineStart => if flags.multiLine then .lineStart flags.crlf else .textStart
  | lineEnd => if flags.multiLine then .lineEnd flags.crlf else .textEnd
  | textStart => .textStart
  | textEnd => .textEnd
  | wordBoundary => .word .boundary flags.wordClass
  | noWordBoundary => .word .noBoundary flags.wordClass
  | wordStart => .word .start flags.wordClass
  | wordEnd => .word .finish flags.wordClass
  | wordStartHalf => .word .startHalf flags.wordClass
  | wordEndHalf => .word .finishHalf flags.wordClass

end Assertion

namespace Expr

mutual

def pattern? (flags : Flags) : Expr → Option (Pattern × Flags)
  | empty => some (.empty, flags)
  | .flags change => some (.empty, flags.change change)
  | literal lit =>
      if flags.allows lit then some (.chars (flags.literalClass lit.char), flags) else none
  | dot => if flags.unicode then some (.chars flags.dotClass, flags) else none
  | assertion kind => some (.look (kind.look flags), flags)
  | atom named => (named.charClass? flags).map fun cls => (.chars cls, flags)
  | set negated inner => do
      let cls ← inner.charClass? flags
      let cls ← flags.foldNegate? negated cls
      some (.chars cls, flags)
  | times e least most => do
      let (p, _) ← pattern? flags e
      some (.times p least most, flags)
  | group captures change e => do
      let (p, _) ← pattern? (flags.change change) e
      some (.group captures p, flags)
  | alternation branches => do
      let (ps, flags) ← patterns? flags branches
      some (.anyOf ps, flags)
  | concat parts => do
      let (ps, flags) ← patterns? flags parts
      some (.ofList ps, flags)

def patterns? (flags : Flags) : List Expr → Option (List Pattern × Flags)
  | [] => some ([], flags)
  | e :: es => do
      let (p, flags) ← pattern? flags e
      let (ps, flags) ← patterns? flags es
      some (p :: ps, flags)

end

end Expr

namespace Pattern

def ofString? (text : String) : Option Pattern := do
  let e ← Expr.ofString? text
  let (p, _) ← e.pattern? {}
  if p.fits then some p else none

end Pattern

end NowNext
