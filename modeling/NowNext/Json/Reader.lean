import NowNext.Json.Value
import NowNext.Text.Hex
import NowNext.Text.Decimal

set_option autoImplicit false

namespace NowNext.Json

def isSpace (c : Char) : Bool := c = ' ' || c = '\t' || c = '\n' || c = '\r'

def skipSpace (input : List Char) : List Char := input.dropWhile isSpace

def plainEscape? : Char → Option Char
  | '"' => some '"'
  | '\\' => some '\\'
  | '/' => some '/'
  | 'b' => some '\x08'
  | 'f' => some '\x0c'
  | 'n' => some '\n'
  | 'r' => some '\r'
  | 't' => some '\t'
  | _ => none

inductive Unit16 where
  | char (c : Char)
  | unit (n : Nat)

def join? : List Unit16 → Option (List Char)
  | [] => some []
  | .char c :: rest => (join? rest).map (c :: ·)
  | .unit high :: .unit low :: rest =>
      if 0xD800 ≤ high ∧ high < 0xDC00 ∧ 0xDC00 ≤ low ∧ low < 0xE000 then
        (join? rest).map (Char.ofNat (0x10000 + (high - 0xD800) * 0x400 + (low - 0xDC00)) :: ·)
      else do
        let c ← charOf? high
        (join? (.unit low :: rest)).map (c :: ·)
  | .unit n :: rest => do
      let c ← charOf? n
      (join? rest).map (c :: ·)

def readUnits? : List Char → Option (List Unit16 × List Char)
  | [] => none
  | '"' :: rest => some ([], rest)
  | '\\' :: 'u' :: a :: b :: c :: d :: rest => do
      let n ← ofHex? [a, b, c, d]
      let (units, rest) ← readUnits? rest
      some (.unit n :: units, rest)
  | '\\' :: e :: rest => do
      let c ← plainEscape? e
      let (units, rest) ← readUnits? rest
      some (.char c :: units, rest)
  | c :: rest =>
      if c.toNat < 0x20 then none else do
        let (units, rest) ← readUnits? rest
        some (.char c :: units, rest)

def readText? (input : List Char) : Option (Option String × List Char) := do
  let (units, rest) ← readUnits? input
  some ((join? units).map String.ofList, rest)

def skipDigits? (input : List Char) : Option (List Char) :=
  (takeDigits? input.length input).map (·.2)

def skipWhole? : List Char → Option (List Char)
  | '0' :: rest => some rest
  | input => skipDigits? input

def skipDecimals? : List Char → Option (List Char)
  | '.' :: rest => skipDigits? rest
  | input => some input

def skipExponent? : List Char → Option (List Char)
  | 'e' :: '+' :: rest | 'e' :: '-' :: rest | 'E' :: '+' :: rest | 'E' :: '-' :: rest
  | 'e' :: rest | 'E' :: rest => skipDigits? rest
  | input => some input

def skipNumber? (input : List Char) : Option (List Char) := do
  let input ← skipWhole? (match input with | '-' :: rest => rest | _ => input)
  skipExponent? (← skipDecimals? input)

mutual

-- A value and what follows it. `depth` bounds the nesting; the length of the input is enough.
def readValue? : Nat → List Char → Option (Json × List Char)
  | 0, _ => none
  | depth + 1, input =>
      match skipSpace input with
      | 'n' :: 'u' :: 'l' :: 'l' :: rest => some (.null, rest)
      | 't' :: 'r' :: 'u' :: 'e' :: rest => some (.bool true, rest)
      | 'f' :: 'a' :: 'l' :: 's' :: 'e' :: rest => some (.bool false, rest)
      | '"' :: rest => (readText? rest).map fun (value, rest) => (.text value, rest)
      | '[' :: rest =>
          match skipSpace rest with
          | ']' :: rest => some (.list [], rest)
          | rest => (readItems? depth rest).map fun (items, rest) => (.list items, rest)
      | '{' :: rest =>
          match skipSpace rest with
          | '}' :: rest => some (.object [], rest)
          | rest => (readMembers? depth rest).map fun (members, rest) => (.object members, rest)
      | input => (skipNumber? input).map fun rest => (.number, rest)

def readItems? : Nat → List Char → Option (List Json × List Char)
  | 0, _ => none
  | depth + 1, input => do
      let (item, rest) ← readValue? depth input
      match skipSpace rest with
      | ',' :: rest => (readItems? depth rest).map fun (items, rest) => (item :: items, rest)
      | ']' :: rest => some ([item], rest)
      | _ => none

def readMembers? : Nat → List Char → Option (List (Option String × Json) × List Char)
  | 0, _ => none
  | depth + 1, input =>
      match skipSpace input with
      | '"' :: rest => do
          let (key, rest) ← readText? rest
          match skipSpace rest with
          | ':' :: rest =>
              let (value, rest) ← readValue? depth rest
              match skipSpace rest with
              | ',' :: rest =>
                  (readMembers? depth rest).map fun (members, rest) => ((key, value) :: members, rest)
              | '}' :: rest => some ([(key, value)], rest)
              | _ => none
          | _ => none
      | _ => none

end

def ofString? (input : String) : Option Json := do
  let input := input.toList
  let (value, rest) ← readValue? (2 * input.length + 2) input
  if (skipSpace rest).isEmpty then some value else none

end NowNext.Json
