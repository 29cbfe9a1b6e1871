set_option autoImplicit false

namespace NowNext

def isDigit (c : Char) : Bool := '0' ≤ c && c ≤ '9'

def digitValue (c : Char) : Nat := c.toNat - '0'.toNat

def digits (n : Nat) : List Char := Nat.toDigits 10 n

def padded (width n : Nat) : List Char :=
  let shown := digits n
  List.replicate (width - shown.length) '0' ++ shown

def ofDigits (text : List Char) : Nat := text.foldl (fun n c => 10 * n + digitValue c) 0

def ofDigits? (text : List Char) : Option Nat :=
  if text.isEmpty || !text.all isDigit then none else some (ofDigits text)

def signed (n : Int) : List Char :=
  (if n < 0 then '-' else '+') :: digits n.natAbs

def takeDigits? (limit : Nat) (text : List Char) : Option (List Char × List Char) :=
  let run := (text.take limit).takeWhile isDigit
  if run.isEmpty then none else some (run, text.drop run.length)

end NowNext
