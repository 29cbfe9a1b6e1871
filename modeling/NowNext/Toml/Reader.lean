import NowNext.Toml.Scalar
import NowNext.Toml.Table

set_option autoImplicit false

namespace NowNext.Toml

abbrev Reader := StateT (List Char) Option

namespace Reader

def peek? : Reader (Option Char) := List.head? <$> get

def peek : Reader Char := do
  match ← get with
  | c :: _ => pure c
  | [] => failure

def drop : Reader Unit := modify (·.drop 1)

def expect (c : Char) : Reader Unit := do
  if (← peek) = c then drop else failure

def ofRead {α : Type} (read? : List Char → Option (α × List Char)) : Reader α := read?

def isSpace (c : Char) : Bool := c = ' ' || c = '\t'

def spaces : Reader Unit := modify (·.dropWhile isSpace)

def isPlain (c : Char) : Bool := c = '\t' || (0x20 ≤ c.toNat && c.toNat ≠ 0x7F)

def newline : Reader Unit := fun input =>
  match input with
  | '\n' :: rest | '\r' :: '\n' :: rest => some ((), rest)
  | _ => none

def comment : Reader Unit := do
  expect '#'
  modify (·.dropWhile isPlain)

def lineEnd : Reader Unit := do
  spaces
  if (← peek?) = some '#' then comment
  if (← get).isEmpty then pure () else newline

def skipLines : Nat → Reader Unit
  | 0 => spaces
  | fuel + 1 => do
      spaces
      match ← peek? with
      | some '#' => do
          comment
          newline
          skipLines fuel
      | some '\n' | some '\r' => do
          newline
          skipLines fuel
      | _ => pure ()

def blanksAndLines : Reader Unit := do skipLines (← get).length

def hexChar (width : Nat) : Reader Char := fun input => do
  let digits := input.take width
  if digits.length = width then
    let c ← (ofHex? digits).bind charOf?
    some (c, input.drop width)
  else none

def escape : Reader Char := do
  let c ← peek
  drop
  match c with
  | 'b' => pure '\x08'
  | 'f' => pure '\x0c'
  | 'n' => pure '\n'
  | 'r' => pure '\r'
  | 't' => pure '\t'
  | '\\' => pure '\\'
  | '"' => pure '"'
  | 'u' => hexChar 4
  | 'U' => hexChar 8
  | _ => failure

def basicChars : Nat → Reader (List Char)
  | 0 => failure
  | fuel + 1 => do
      let c ← peek
      drop
      if c = '"' then pure []
      else if c = '\\' then do
        let c ← escape
        pure (c :: (← basicChars fuel))
      else if isPlain c then pure (c :: (← basicChars fuel))
      else failure

def basicString : Reader String := do
  expect '"'
  String.ofList <$> basicChars ((← get).length + 1)

def literalString : Reader String := do
  expect '\''
  let input ← get
  let chars := input.takeWhile fun c => isPlain c && c ≠ '\''
  set (input.drop chars.length)
  expect '\''
  pure (String.ofList chars)

def isContinued (input : List Char) : Bool :=
  match (input.drop 1).dropWhile isSpace with
  | '\n' :: _ | '\r' :: '\n' :: _ => true
  | _ => false

def dropBlankLines : Nat → List Char → List Char
  | 0, input => input
  | fuel + 1, input =>
      match input.dropWhile isSpace with
      | '\n' :: rest | '\r' :: '\n' :: rest => dropBlankLines fuel rest
      | input => input

-- The characters of a text in several lines, up to three closing quotes. One or two quotes before
-- those belong to the text.
def linesChars (quote : Char) (escapes : Bool) : Nat → Reader (List Char)
  | 0 => failure
  | fuel + 1 => do
      let input ← get
      let quotes := (input.takeWhile (· = quote)).length
      if 3 ≤ quotes then do
        let extra := min (quotes - 3) 2
        set (input.drop (3 + extra))
        pure (List.replicate extra quote)
      else
        match input with
        | [] => failure
        | '\r' :: '\n' :: rest => do
            set rest
            pure ('\n' :: (← linesChars quote escapes fuel))
        | c :: rest =>
            if c = '\\' && escapes then
              if isContinued input then do
                set (dropBlankLines rest.length rest)
                linesChars quote escapes fuel
              else do
                drop
                let c ← escape
                pure (c :: (← linesChars quote escapes fuel))
            else if c = '\n' || isPlain c then do
              set rest
              pure (c :: (← linesChars quote escapes fuel))
            else failure

def linesString (quote : Char) : Reader String := do
  modify fun input =>
    match input with
    | '\n' :: rest | '\r' :: '\n' :: rest => rest
    | _ => input
  String.ofList <$> linesChars quote (quote = '"') ((← get).length + 1)

def string : Reader String := do
  match ← get with
  | '"' :: '"' :: '"' :: rest => do
      set rest
      linesString '"'
  | '\'' :: '\'' :: '\'' :: rest => do
      set rest
      linesString '\''
  | '"' :: _ => basicString
  | _ => literalString

def isBareKey (c : Char) : Bool := c.isAlphanum || c = '-' || c = '_'

def keyPart : Reader String := do
  match ← peek with
  | '"' => basicString
  | '\'' => literalString
  | _ => do
      let input ← get
      let chars := input.takeWhile isBareKey
      set (input.drop chars.length)
      if chars.isEmpty then failure else pure (String.ofList chars)

def keyParts : Nat → Reader (List String)
  | 0 => failure
  | fuel + 1 => do
      spaces
      let part ← keyPart
      spaces
      if (← peek?) = some '.' then do
        drop
        pure (part :: (← keyParts fuel))
      else pure [part]

def maxDepth : Nat := 80

def key : Reader (List String × String) := do
  let parts ← keyParts ((← get).length + 1)
  if parts.length < maxDepth then pure (parts.dropLast, parts.getLastD "") else failure

def items (value : Reader Toml) : Nat → Reader (List Toml)
  | 0 => failure
  | fuel + 1 => do
      blanksAndLines
      if (← peek) = ']' then do
        drop
        pure []
      else
        let item ← value
        blanksAndLines
        match ← peek with
        | ',' => do
            drop
            pure (item :: (← items value fuel))
        | ']' => do
            drop
            pure [item]
        | _ => failure

def entry (value : Reader Toml) : Reader (List String × String × Toml) := do
  let (path, key) ← key
  expect '='
  spaces
  pure (path, key, ← value)

def inlineEntries (value : Reader Toml) : Nat → Entries → Reader Entries
  | 0, _ => failure
  | fuel + 1, entries => do
      let (path, key, value_) ← entry value
      let entries ← (entries.set path key value_ : Option Entries)
      spaces
      match ← peek with
      | ',' => do
          drop
          inlineEntries value fuel entries
      | '}' => do
          drop
          pure entries
      | _ => failure

def value : Nat → Reader Toml
  | 0 => do
      match ← peek with
      | '"' | '\'' => .text <$> string
      | _ => ofRead readPlain?
  | depth + 1 => do
      match ← peek with
      | '[' => do
          drop
          .list <$> items (value depth) ((← get).length + 1)
      | '{' => do
          drop
          spaces
          if (← peek) = '}' then do
            drop
            pure (.table [])
          else
            let entries ← inlineEntries (value depth) ((← get).length + 1) []
            pure (.table (Entries.values entries))
      | '"' | '\'' => .text <$> string
      | _ => ofRead readPlain?

def line (document : Document) : Reader Document := do
  match ← get with
  | '[' :: '[' :: rest => do
      set rest
      let (path, last) ← key
      expect ']'
      expect ']'
      lineEnd
      (document.openMember (path ++ [last]) : Option Document)
  | '[' :: rest => do
      set rest
      let (path, last) ← key
      expect ']'
      lineEnd
      (document.openTable (path ++ [last]) : Option Document)
  | _ => do
      let (path, key, value) ← entry (value (maxDepth - 1))
      lineEnd
      (document.setKey path key value : Option Document)

def lines : Nat → Document → Reader Document
  | 0, document => pure document
  | fuel + 1, document => do
      spaces
      match ← peek? with
      | none => pure document
      | some '#' => do
          lineEnd
          lines fuel document
      | some '\n' | some '\r' => do
          newline
          lines fuel document
      | _ => do lines fuel (← line document)

end Reader

def ofString? (input : String) : Option (List (String × Toml)) := do
  let input := match input.toList with
    | '\uFEFF' :: rest => rest
    | input => input
  let (document, _) ← (Reader.lines (input.length + 1) {}).run input
  some (Entries.values (← document.finish))

end NowNext.Toml
