import NowNext.Text.Decimal
import NowNext.Text.Hex
import NowNext.Toml.Value

set_option autoImplicit false

namespace NowNext.Toml

def readDigits? (test : Char → Bool) : List Char → Option (List Char × List Char)
  | '_' :: _ => none
  | input => go input
where
  go : List Char → Option (List Char × List Char)
    | [] => none
    | [c] => if test c then some ([c], []) else none
    | c :: d :: rest =>
        if !test c then none
        else if d = '_' then (go rest).map fun (digits, rest) => (c :: digits, rest)
        else match go (d :: rest) with
          | some (digits, rest) => some (c :: digits, rest)
          | none => if test d then none else some ([c], d :: rest)

def readWhole? : List Char → Option (List Char × List Char)
  | '0' :: rest => some (['0'], rest)
  | input => readDigits? isDigit input

def readSign : List Char → Bool × List Char
  | '-' :: rest => (true, rest)
  | '+' :: rest => (false, rest)
  | input => (false, input)

def maxInteger : Nat := 9223372036854775807

def readBase? (base : Nat) (input : List Char) : Option (Toml × List Char) := do
  let (digits, rest) ← readDigits? (fun c => (hexValue? c).any (· < base)) input
  let n := digits.foldl (fun n c => base * n + (hexValue? c).getD 0) 0
  if n ≤ maxInteger then some (.integer n, rest) else none

def readInteger? : List Char → Option (Toml × List Char)
  | '0' :: 'x' :: rest => readBase? 16 rest
  | '0' :: 'o' :: rest => readBase? 8 rest
  | '0' :: 'b' :: rest => readBase? 2 rest
  | input => do
      let (negative, input) := readSign input
      let (digits, rest) ← readWhole? input
      let n := ofDigits digits
      if negative then if n ≤ maxInteger + 1 then some (.integer (-(n : Int)), rest) else none
      else if n ≤ maxInteger then some (.integer n, rest) else none

-- The least number that rounds to infinity: halfway past the greatest finite one.
def overflow : Nat := Nat.pow 2 1024 - Nat.pow 2 970

def isFinite (digits : List Char) (exponent : Int) : Bool :=
  let n := ofDigits digits
  let length : Int := (NowNext.digits n).length
  if n = 0 then true
  else if 310 < length + exponent then false
  else if length + exponent < 300 then true
  else if 0 ≤ exponent then n * Nat.pow 10 exponent.toNat < overflow
  else n < overflow * Nat.pow 10 exponent.natAbs

def readExponent? : List Char → Option (Int × List Char)
  | 'e' :: input | 'E' :: input => do
      let (negative, input) := readSign input
      let (digits, rest) ← readDigits? isDigit input
      let n : Int := ofDigits digits
      some (if negative then -n else n, rest)
  | _ => none

def readDecimals? : List Char → Option (List Char × List Char)
  | '.' :: input => readDigits? isDigit input
  | _ => none

def readDecimalFloat? (input : List Char) : Option (Toml × List Char) := do
  let (negative, input) := readSign input
  let (whole, input) ← readWhole? input
  let (decimals, exponent, rest) ←
    match readExponent? input with
    | some (exponent, rest) => some ([], exponent, rest)
    | none => do
        let (decimals, input) ← readDecimals? input
        let (exponent, rest) := (readExponent? input).getD (0, input)
        some (decimals, exponent, rest)
  if negative || isFinite (whole ++ decimals) (exponent - decimals.length) then some (.float, rest)
  else none

def readSpecialFloat? (input : List Char) : Option (Toml × List Char) :=
  match (readSign input).2 with
  | 'i' :: 'n' :: 'f' :: rest | 'n' :: 'a' :: 'n' :: rest => some (.float, rest)
  | _ => none

def readFixed? (width low high : Nat) (input : List Char) : Option (Nat × List Char) :=
  let digits := input.take width
  let n := ofDigits digits
  if digits.length = width && digits.all isDigit && low ≤ n && n ≤ high then
    some (n, input.drop width)
  else none

def readMark? (mark : Char) : List Char → Option (List Char)
  | c :: rest => if c = mark then some rest else none
  | [] => none

def daysIn (year : Nat) : Nat → Nat
  | 2 => if year % 4 = 0 && (year % 100 ≠ 0 || year % 400 = 0) then 29 else 28
  | 4 | 6 | 9 | 11 => 30
  | _ => 31

def skipDate? (input : List Char) : Option (List Char) := do
  let (year, input) ← readFixed? 4 0 9999 input
  let (month, input) ← readFixed? 2 1 12 (← readMark? '-' input)
  let (day, input) ← readFixed? 2 1 31 (← readMark? '-' input)
  if day ≤ daysIn year month then some input else none

def skipTime? (input : List Char) : Option (List Char) := do
  let (_, input) ← readFixed? 2 0 23 input
  let (_, input) ← readFixed? 2 0 59 (← readMark? ':' input)
  let (_, input) ← readFixed? 2 0 60 (← readMark? ':' input)
  match input with
  | '.' :: rest => (takeDigits? rest.length rest).map (·.2)
  | _ => some input

def skipZone? (input : List Char) : Option (List Char) :=
  match input with
  | 'Z' :: rest | 'z' :: rest => some rest
  | '+' :: rest | '-' :: rest => do
      let (_, rest) ← readFixed? 2 0 23 rest
      let (_, rest) ← readFixed? 2 0 59 (← readMark? ':' rest)
      some rest
  | _ => some input

def skipTimeAfterDate? : List Char → Option (List Char)
  | 'T' :: input | 't' :: input | ' ' :: input => do skipZone? (← skipTime? input)
  | _ => none

def readMoment? (input : List Char) : Option (Toml × List Char) :=
  match skipDate? input with
  | some rest => some (.moment, (skipTimeAfterDate? rest).getD rest)
  | none => (skipTime? input).map fun rest => (.moment, rest)

def readPlain? (input : List Char) : Option (Toml × List Char) :=
  match input with
  | 't' :: 'r' :: 'u' :: 'e' :: rest => some (.bool true, rest)
  | 'f' :: 'a' :: 'l' :: 's' :: 'e' :: rest => some (.bool false, rest)
  | _ =>
      (readMoment? input).orElse fun _ => (readDecimalFloat? input).orElse fun _ =>
        (readSpecialFloat? input).orElse fun _ => readInteger? input

end NowNext.Toml
