import ConsoleGateway.Text.Utf8

namespace ConsoleGateway.Percent

def upperHexDigit (n : Nat) : Char := if n < 10 then .ofNat (48 + n) else .ofNat (55 + n)

def hexValue? (c : Char) : Option Nat :=
  let n := c.toNat
  if 48 ≤ n ∧ n ≤ 57 then some (n - 48)
  else if 65 ≤ n ∧ n ≤ 70 then some (n - 55)
  else if 97 ≤ n ∧ n ≤ 102 then some (n - 87)
  else none

def escape (b : UInt8) : List Char :=
  ['%', upperHexDigit (b.toNat / 16), upperHexDigit (b.toNat % 16)]

def encode (escaped : Char → Bool) (cs : List Char) : List Char :=
  cs.flatMap fun c => if escaped c then (Utf8.encodeChar c).flatMap escape else [c]

def decodeBytes : List UInt8 → List UInt8
  | [] => []
  | p :: h :: l :: rest =>
    if p = 0x25 then
      match hexValue? (.ofNat h.toNat), hexValue? (.ofNat l.toNat) with
      | some a, some b => .ofNat (16 * a + b) :: decodeBytes rest
      | _, _ => p :: decodeBytes (h :: l :: rest)
    else p :: decodeBytes (h :: l :: rest)
  | p :: rest => p :: decodeBytes rest

def decode (cs : List Char) : List UInt8 := decodeBytes (Utf8.encode cs)

end ConsoleGateway.Percent
