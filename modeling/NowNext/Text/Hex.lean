set_option autoImplicit false

namespace NowNext

def hexValue? (c : Char) : Option Nat :=
  if '0' ≤ c ∧ c ≤ '9' then some (c.toNat - '0'.toNat)
  else if 'a' ≤ c ∧ c ≤ 'f' then some (c.toNat - 'a'.toNat + 10)
  else if 'A' ≤ c ∧ c ≤ 'F' then some (c.toNat - 'A'.toNat + 10)
  else none

def ofHex? (text : List Char) : Option Nat :=
  text.foldlM (fun n c => (hexValue? c).map (16 * n + ·)) 0

def hexDigits (n : Nat) : List Char := Nat.toDigits 16 n

def charOf? (n : Nat) : Option Char :=
  if n.isValidChar then some (Char.ofNat n) else none

end NowNext
