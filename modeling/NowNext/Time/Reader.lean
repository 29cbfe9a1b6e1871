import NowNext.Text.Blank
import NowNext.Text.Decimal
import NowNext.Time.Date
import NowNext.Time.Instant

set_option autoImplicit false

namespace NowNext.Instant

def readShort? (text : List Char) : Option (Nat × List Char) := do
  let (run, rest) ← takeDigits? 2 (skipBlanks text)
  some (ofDigits run, rest)

def readYear? (text : List Char) : Option (Int × List Char) := do
  match skipBlanks text with
  | '-' :: rest =>
      let (run, rest) ← takeDigits? rest.length rest
      some (-(ofDigits run : Int), rest)
  | '+' :: rest =>
      let (run, rest) ← takeDigits? rest.length rest
      some (ofDigits run, rest)
  | rest =>
      let (run, rest) ← takeDigits? 4 rest
      some (ofDigits run, rest)

def readMark? (mark : Char) (text : List Char) : Option (List Char) :=
  match skipBlanks text with
  | c :: rest => if c = mark then some rest else none
  | [] => none

def readFraction? : List Char → Option (Nat × List Char)
  | '.' :: text => do
      let (run, rest) ← takeDigits? 9 text
      some (ofDigits run * Nat.pow 10 (9 - run.length), rest.dropWhile isDigit)
  | text => some (0, text)

def readHoursMinutes? (text : List Char) : Option (Int × List Char) :=
  match text with
  | h1 :: h2 :: rest =>
      match rest.dropWhile fun c => c = ':' || isBlank c with
      | m1 :: m2 :: rest =>
          if isDigit h1 && isDigit h2 && isDigit m1 && m1 < '6' && isDigit m2 then
            some ((ofDigits [h1, h2] * 3600 + ofDigits [m1, m2] * 60 : Nat), rest)
          else none
      | _ => none
  | _ => none

def readZone? (text : List Char) : Option (Int × List Char) :=
  match text with
  | 'Z' :: rest | 'z' :: rest => some (0, rest)
  | '+' :: rest => readHoursMinutes? rest
  | '-' :: rest | '−' :: rest => (readHoursMinutes? rest).map fun (zone, rest) => (-zone, rest)
  | u :: t :: c :: rest =>
      if [u.toUpper, t.toUpper, c.toUpper] = ['U', 'T', 'C'] then some (0, rest) else none
  | _ => none

def readDate? (text : List Char) : Option (Date × List Char) := do
  let (year, text) ← readYear? text
  let (month, text) ← readShort? (← readMark? '-' text)
  let (day, text) ← readShort? (← readMark? '-' text)
  let date : Date := ⟨year, month, day⟩
  if date.valid then some (date, text) else none

def readTime? (text : List Char) : Option (Nat × Nat × List Char) := do
  let (hour, text) ← readShort? text
  let (minute, text) ← readShort? (← readMark? ':' text)
  let (second, text) ← readShort? (← readMark? ':' text)
  let (nanos, text) ← readFraction? text
  if hour < 24 && minute < 60 && second ≤ 60 then
    let leap := second / 60
    some (hour * 3600 + minute * 60 + second - leap, nanos + leap * nanosPerSecond, text)
  else none

def read? (text : List Char) : Option Instant := do
  let (date, text) ← readDate? text
  match text with
  | 't' :: text | 'T' :: text | ' ' :: text =>
      let (second, nanos, text) ← readTime? text
      let (zone, text) ← readZone? (skipBlanks text)
      if zone.natAbs < secondsPerDay && (skipBlanks text).isEmpty then
        of? (date.toDays * secondsPerDay + second - zone) nanos
      else none
  | _ => none

def ofText? (text : String) : Option Instant := read? text.toList

end NowNext.Instant
