import NowNext.Pattern.Expr.Basic
import NowNext.Text.Blank
import NowNext.Text.Decimal
import NowNext.Text.Hex
import NowNext.Unicode.Latest
import NowNext.Unicode.Query

set_option autoImplicit false

namespace NowNext.Expr

structure Cursor where
  text : List Char
  spaced : Bool := false
  names : List String := []

abbrev Reader := StateT Cursor Option

namespace Reader

def rest : Reader (List Char) := Cursor.text <$> get

def goTo (text : List Char) : Reader Unit := modify fun cursor => { cursor with text }

def peek : Reader Char := do
  match ← rest with
  | c :: _ => pure c
  | [] => failure

def drop : Reader Unit := do goTo ((← rest).drop 1)

def next : Reader Char := do
  let c ← peek
  drop
  pure c

def require (condition : Bool) : Reader Unit := if condition then pure () else failure

def expect (c : Char) : Reader Unit := do require ((← next) == c)

def skipComments : Nat → List Char → List Char
  | 0, text => text
  | fuel + 1, text =>
      match skipBlanks text with
      | '#' :: text => skipComments fuel ((text.dropWhile (· ≠ '\n')).drop 1)
      | text => text

def skipSpaced : Reader Unit := do
  let cursor ← get
  if cursor.spaced then goTo (skipComments (cursor.text.length + 1) cursor.text)

def dropSpaced : Reader Unit := do
  drop
  skipSpaced

def takeSpaced (test : Char → Bool) : Nat → Reader (List Char)
  | 0 => pure []
  | fuel + 1 => do
      match ← rest with
      | c :: _ =>
          if test c then do
            dropSpaced
            pure (c :: (← takeSpaced test fuel))
          else pure []
      | [] => pure []

def takeAll (test : Char → Bool) : Reader (List Char) := do
  takeSpaced test (← rest).length

def upToBrace : Reader (List Char) := do
  let chars ← takeAll (· ≠ '}')
  require ((← peek) == '}')
  pure chars

def maxCount : Nat := 4294967295

def countDigits : Reader (List Char) := do
  goTo (skipBlanks (← rest))
  let digits ← takeAll isDigit
  goTo (skipBlanks (← rest))
  skipSpaced
  pure digits

def ofCount (digits : List Char) : Reader Nat := do
  require (!digits.isEmpty && ofDigits digits ≤ maxCount)
  pure (ofDigits digits)

def count : Reader (Nat × Option Nat) := do
  dropSpaced
  let least ← countDigits
  if (← peek) == ',' then
    dropSpaced
    if (← peek) == '}' then
      drop
      pure (← ofCount least, none)
    else
      let least ← ofCount least
      let most ← ofCount (← countDigits)
      expect '}'
      require (least ≤ most)
      pure (least, some most)
  else
    let least ← ofCount least
    expect '}'
    pure (least, some least)

def dropLazy : Reader Unit := do
  if (← rest).head? == some '?' then drop

def charOf (digits : List Char) : Reader Char := do
  match (ofHex? digits).bind charOf? with
  | some c => pure c
  | none => failure

def hexFixed : Nat → Reader (List Char)
  | 0 => pure []
  | 1 => do
      let c ← peek
      dropSpaced
      pure [c]
  | width + 1 => do
      let c ← peek
      dropSpaced
      pure (c :: (← hexFixed width))

def hexLiteral (width : Nat) : Reader Literal := do
  dropSpaced
  if (← peek) == '{' then
    dropSpaced
    let digits ← upToBrace
    dropSpaced
    require (!digits.isEmpty)
    pure ⟨← charOf digits, false⟩
  else
    let c ← charOf (← hexFixed width)
    pure ⟨c, width == 2⟩

def splitAt? (mark : List Char) : List Char → Option (List Char × List Char)
  | [] => none
  | c :: text =>
      if mark.isPrefixOf (c :: text) then some ([], (c :: text).drop mark.length)
      else (splitAt? mark text).map fun (left, right) => (c :: left, right)

def nameQuery (negated : Bool) : Reader ClassAtom := do
  dropSpaced
  if (← peek) == '{' then
    dropSpaced
    let name ← upToBrace
    drop
    let valued := fun (parts : List Char × List Char) =>
      NameQuery.valued (String.ofList parts.1) (String.ofList parts.2)
    match splitAt? ['!', '='] name with
    | some parts => pure (.query (valued parts) !negated)
    | none =>
        match (splitAt? [':'] name).orElse fun _ => splitAt? ['='] name with
        | some parts => pure (.query (valued parts) negated)
        | none => pure (.query (.alone (String.ofList name)) negated)
  else
    let c ← peek
    require (c ≠ '\\')
    dropSpaced
    pure (.query (.alone (String.singleton c)) negated)

inductive Primitive where
  | literal (lit : Literal)
  | atom (cls : ClassAtom)
  | assertion (kind : Assertion)

def isMeta (c : Char) : Bool :=
  ['\\', '.', '+', '*', '?', '(', ')', '|', '[', ']', '{', '}', '^', '$', '#', '&', '-', '~'].contains c

def isEscapable (c : Char) : Bool :=
  isMeta c || (c.toNat < 0x80 && !c.isAlphanum && c ≠ '<' && c ≠ '>')

def wordBoundary? (name : List Char) : Option Assertion :=
  match String.ofList name with
  | "start" => some .wordStart
  | "end" => some .wordEnd
  | "start-half" => some .wordStartHalf
  | "end-half" => some .wordEndHalf
  | _ => none

def isBoundaryChar (c : Char) : Bool := c.isAlpha || c == '-'

-- A word boundary, after which a special kind may stand in braces. Braces that start otherwise are
-- a repetition.
def boundary : Reader Assertion := do
  let here ← rest
  if here.head? ≠ some '{' then pure .wordBoundary
  else
    dropSpaced
    if isBoundaryChar (← peek) then
      let name ← takeAll isBoundaryChar
      expect '}'
      match wordBoundary? name with
      | some kind => pure kind
      | none => failure
    else
      goTo here
      pure .wordBoundary

def escape : Reader Primitive := do
  drop
  let c ← peek
  match c with
  | 'x' => .literal <$> hexLiteral 2
  | 'u' => .literal <$> hexLiteral 4
  | 'U' => .literal <$> hexLiteral 8
  | 'p' => .atom <$> nameQuery false
  | 'P' => .atom <$> nameQuery true
  | _ =>
      drop
      let special := fun (c : Char) => (pure (.literal ⟨c, false⟩) : Reader Primitive)
      if isEscapable c then special c
      else match c with
        | 'd' => pure (.atom (.letter .digit false))
        | 's' => pure (.atom (.letter .space false))
        | 'w' => pure (.atom (.letter .word false))
        | 'D' => pure (.atom (.letter .digit true))
        | 'S' => pure (.atom (.letter .space true))
        | 'W' => pure (.atom (.letter .word true))
        | 'a' => special '\x07'
        | 'f' => special '\x0c'
        | 't' => special '\t'
        | 'n' => special '\n'
        | 'r' => special '\r'
        | 'v' => special '\x0b'
        | 'A' => pure (.assertion .textStart)
        | 'z' => pure (.assertion .textEnd)
        | 'b' => .assertion <$> boundary
        | 'B' => pure (.assertion .noWordBoundary)
        | '<' => pure (.assertion .wordStart)
        | '>' => pure (.assertion .wordEnd)
        | _ => failure

def asciiClass? (name : List Char) : Option (List (Nat × Nat)) :=
  match String.ofList name with
  | "alnum" => some [(0x30, 0x39), (0x41, 0x5A), (0x61, 0x7A)]
  | "alpha" => some [(0x41, 0x5A), (0x61, 0x7A)]
  | "ascii" => some [(0, 0x7F)]
  | "blank" => some [(0x09, 0x09), (0x20, 0x20)]
  | "cntrl" => some [(0, 0x1F), (0x7F, 0x7F)]
  | "digit" => some [(0x30, 0x39)]
  | "graph" => some [(0x21, 0x7E)]
  | "lower" => some [(0x61, 0x7A)]
  | "print" => some [(0x20, 0x7E)]
  | "punct" => some [(0x21, 0x2F), (0x3A, 0x40), (0x5B, 0x60), (0x7B, 0x7E)]
  | "space" => some [(0x09, 0x0D), (0x20, 0x20)]
  | "upper" => some [(0x41, 0x5A)]
  | "word" => some [(0x30, 0x39), (0x41, 0x5A), (0x5F, 0x5F), (0x61, 0x7A)]
  | "xdigit" => some [(0x30, 0x39), (0x41, 0x46), (0x61, 0x66)]
  | _ => none

def readAscii? (text : List Char) : Option (SetExpr × List Char) := do
  match text with
  | '[' :: ':' :: text =>
      let (negated, text) := match text with
        | '^' :: text => (true, text)
        | _ => (false, text)
      let ranges ← asciiClass? (text.takeWhile (· ≠ ':'))
      match text.dropWhile (· ≠ ':') with
      | ':' :: ']' :: text => some (.ascii ranges negated, text)
      | _ => none
  | _ => none

def peekSecond : Reader (Option Char) := do
  let cursor ← get
  let text := cursor.text.drop 1
  if cursor.spaced then
    match skipBlanks text with
    | '#' :: text => pure (skipBlanks text).head?
    | text => pure text.head?
  else pure text.head?

def setPrimitive : Reader Primitive := do
  if (← peek) == '\\' then escape else .literal <$> (⟨·, false⟩) <$> next

def setItem : Primitive → Reader SetExpr
  | .literal lit => pure (.literal lit)
  | .atom cls => pure (.atom cls)
  | .assertion _ => failure

def setRange : Reader SetExpr := do
  let first ← setPrimitive
  skipSpaced
  let isRange ← if (← peek) == '-' then do
      let second ← peekSecond
      pure (second ≠ some ']' && second ≠ some '-')
    else pure false
  if isRange then
    dropSpaced
    let last ← setPrimitive
    match first, last with
    | .literal first, .literal last =>
        require (first.char ≤ last.char)
        pure (.range first last)
    | _, _ => failure
  else setItem first

def repeatHyphens : Nat → Reader (List SetExpr)
  | 0 => pure []
  | fuel + 1 => do
      if (← peek) == '-' then
        dropSpaced
        pure (.literal ⟨'-', false⟩ :: (← repeatHyphens fuel))
      else pure []

def setStart : Reader (Bool × List SetExpr) := do
  dropSpaced
  let negated := (← peek) == '^'
  if negated then dropSpaced
  let hyphens ← repeatHyphens (← rest).length
  if hyphens.isEmpty && (← peek) == ']' then
    dropSpaced
    let _ ← peek
    pure (negated, [.literal ⟨']', false⟩])
  else
    let _ ← peek
    pure (negated, hyphens)

def closeOp (waiting : Option (SetOp × SetExpr)) (items : List SetExpr) : SetExpr :=
  let right := SetExpr.ofItems items.reverse
  match waiting with
  | some (op, left) => .op op left right
  | none => right

def setOp? : List Char → Option (SetOp × List Char)
  | '&' :: '&' :: text => some (.intersection, text)
  | '-' :: '-' :: text => some (.difference, text)
  | '~' :: '~' :: text => some (.symmetricDifference, text)
  | _ => none

def setRest : Nat → Option (SetOp × SetExpr) → List SetExpr → Reader SetExpr
  | 0, _, _ => failure
  | fuel + 1, waiting, items => do
      skipSpaced
      let text ← rest
      match ← peek with
      | '[' =>
          match readAscii? text with
          | some (ascii, text) => do
              goTo text
              setRest fuel waiting (ascii :: items)
          | none => do
              let (negated, start) ← setStart
              let inner ← setRest fuel none start.reverse
              setRest fuel waiting (.bracketed negated inner :: items)
      | ']' => do
          drop
          pure (closeOp waiting items)
      | _ =>
          match setOp? text with
          | some (op, text) => do
              goTo text
              setRest fuel (some (op, closeOp waiting items)) []
          | none => do
              let item ← setRange
              setRest fuel waiting (item :: items)

def set : Reader Expr := do
  let (negated, start) ← setStart
  let inner ← setRest ((← rest).length + 1) none start.reverse
  pure (.set negated inner)

def flagChange : Nat → Bool → FlagChange → Reader FlagChange
  | 0, _, _ => failure
  | fuel + 1, minus, change => do
      match ← peek with
      | ':' | ')' => do
          require (!minus || !change.off.isEmpty)
          pure change
      | '-' => do
          require !minus
          drop
          flagChange fuel true change
      | c =>
          match Flag.ofChar? c with
          | some flag => do
              require (!change.on.contains flag && !change.off.contains flag)
              drop
              flagChange fuel minus
                (if minus then { change with off := flag :: change.off }
                  else { change with on := flag :: change.on })
          | none => failure

def isNameStart (c : Char) : Bool := c == '_' || Unicode.isLetter c

def isNameChar (c : Char) : Bool :=
  c == '_' || c == '.' || c == '[' || c == ']' || Unicode.isAlphanumeric c

def groupName : Reader Unit := do
  let text ← rest
  let name := text.takeWhile (· ≠ '>')
  require (name.head?.any isNameStart && (name.drop 1).all isNameChar)
  goTo (text.drop name.length)
  expect '>'
  let cursor ← get
  let name := String.ofList name
  require (!cursor.names.contains name)
  modify fun cursor => { cursor with names := name :: cursor.names }

inductive GroupStart where
  | switches (change : FlagChange)
  | opened (captures : Bool) (change : FlagChange)

def groupStart : Reader GroupStart := do
  skipSpaced
  match ← rest with
  | '?' :: 'P' :: '<' :: text => do
      goTo text
      groupName
      pure (.opened true {})
  | '?' :: '<' :: text => do
      require (text.head? ≠ some '=' && text.head? ≠ some '!')
      goTo text
      groupName
      pure (.opened true {})
  | '?' :: text => do
      goTo text
      let change ← flagChange (text.length + 1) false {}
      if (← next) == ')' then
        require (!change.on.isEmpty || !change.off.isEmpty)
        pure (.switches change)
      else pure (.opened false change)
  | _ => pure (.opened true {})

def repeatLast (least : Nat) (most : Option Nat) : List Expr → Reader (List Expr)
  | [] | .empty :: _ | .flags _ :: _ => failure
  | e :: parts => pure (.times e least most :: parts)

def setSpaced (spaced : Bool) : Reader Unit := modify fun cursor => { cursor with spaced }

def ofPrimitive : Primitive → Expr
  | .literal lit => .literal lit
  | .atom cls => .atom cls
  | .assertion kind => .assertion kind

def branches : Nat → List Expr → List Expr → Reader Expr
  | 0, _, _ => failure
  | fuel + 1, parts, done => do
      skipSpaced
      match ← rest with
      | [] | ')' :: _ => pure (ofBranches ((ofParts parts.reverse :: done).reverse))
      | '|' :: _ => do
          drop
          branches fuel [] (ofParts parts.reverse :: done)
      | '(' :: _ => do
          drop
          let spaced := (← get).spaced
          match ← groupStart with
          | .switches change => do
              setSpaced (change.apply .spaced spaced)
              branches fuel (.flags change :: parts) done
          | .opened captures change => do
              setSpaced (change.apply .spaced spaced)
              let inner ← branches fuel [] []
              expect ')'
              setSpaced spaced
              branches fuel (.group captures change inner :: parts) done
      | '[' :: _ => do
          let e ← set
          branches fuel (e :: parts) done
      | '?' :: _ => do
          let parts ← repeatLast 0 (some 1) parts
          drop
          dropLazy
          branches fuel parts done
      | '*' :: _ => do
          let parts ← repeatLast 0 none parts
          drop
          dropLazy
          branches fuel parts done
      | '+' :: _ => do
          let parts ← repeatLast 1 none parts
          drop
          dropLazy
          branches fuel parts done
      | '{' :: _ => do
          let (least, most) ← count
          let parts ← repeatLast least most parts
          skipSpaced
          dropLazy
          branches fuel parts done
      | '\\' :: _ => do
          let primitive ← escape
          branches fuel (ofPrimitive primitive :: parts) done
      | '.' :: _ => do
          drop
          branches fuel (.dot :: parts) done
      | '^' :: _ => do
          drop
          branches fuel (.assertion .lineStart :: parts) done
      | '$' :: _ => do
          drop
          branches fuel (.assertion .lineEnd :: parts) done
      | c :: _ => do
          drop
          branches fuel (.literal ⟨c, false⟩ :: parts) done

end Reader

def ofString? (text : String) : Option Expr := do
  let text := text.toList
  let (e, cursor) ← (Reader.branches (text.length + 1) [] []).run { text }
  if cursor.text.isEmpty && e.depth ≤ maxDepth then some e else none

end NowNext.Expr
