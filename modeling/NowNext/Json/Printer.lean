import NowNext.Json.Value
import NowNext.Text.Hex

set_option autoImplicit false

namespace NowNext.Json

def escape (c : Char) : List Char :=
  if c = '"' then ['\\', '"']
  else if c = '\\' then ['\\', '\\']
  else if c = '\x08' then ['\\', 'b']
  else if c = '\x0c' then ['\\', 'f']
  else if c = '\n' then ['\\', 'n']
  else if c = '\r' then ['\\', 'r']
  else if c = '\t' then ['\\', 't']
  else if c.toNat < 0x20 then
    ['\\', 'u', '0', '0', Nat.digitChar (c.toNat / 16), Nat.digitChar (c.toNat % 16)]
  else [c]

def printText (value : String) : List Char := '"' :: value.toList.flatMap escape ++ ['"']

def separate : List (List Char) → List Char
  | [] => []
  | [item] => item
  | item :: items => item ++ ',' :: separate items

mutual

def print : Json → List Char
  | .null => ['n', 'u', 'l', 'l']
  | .bool true => ['t', 'r', 'u', 'e']
  | .bool false => ['f', 'a', 'l', 's', 'e']
  | .number => ['0']
  | .text value => printText (value.getD "")
  | .list items => '[' :: separate (printItems items) ++ [']']
  | .object members => '{' :: separate (printMembers members) ++ ['}']

def printItems : List Json → List (List Char)
  | [] => []
  | item :: items => print item :: printItems items

def printMembers : List (Option String × Json) → List (List Char)
  | [] => []
  | (key, value) :: members =>
      (printText (key.getD "") ++ ':' :: print value) :: printMembers members

end

def toString (value : Json) : String := String.ofList value.print

end NowNext.Json
