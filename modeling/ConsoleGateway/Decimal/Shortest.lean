namespace ConsoleGateway

structure Decimal where
  coefficient : Nat
  exponent : Int
  deriving DecidableEq, Repr

namespace Decimal

/-- The number `mantissa * 2 ^ exponent`; `atPower` says that the next smaller number is half as
far away as the next larger one. -/
structure Binary where
  mantissa : Nat
  exponent : Int
  atPower : Bool
  deriving DecidableEq, Repr

def hiddenBit : Nat := 0x10000000000000

def Binary.ofFloat (f : Float) : Binary :=
  let bits : Nat := f.toBits.toNat
  let fraction : Nat := bits % hiddenBit
  let biased : Nat := bits / hiddenBit % 0x800
  if biased = 0 then ⟨fraction, -1074, false⟩
  else ⟨hiddenBit + fraction, (biased : Int) - 1075, fraction = 0 ∧ 1 < biased⟩

def power (base : Nat) (e : Int) : Nat := Nat.pow base e.toNat

def digitCount (n : Nat) : Nat := (Nat.toDigits 10 n).length

def leadingExponent (num den : Nat) : Int :=
  if den ≤ num then digitCount (num / den) - 1
  else - (digitCount ((den + num - 1) / num - 1) : Int)

def Binary.onGrid? (b : Binary) (k : Int) : Option Nat :=
  let q := b.exponent - 2
  let num := power 2 q * power 10 (-k)
  let den := power 10 k * power 2 (-q)
  let low := (4 * b.mantissa - if b.atPower then 1 else 2) * num
  let high := (4 * b.mantissa + 2) * num
  let value := 4 * b.mantissa * num
  let inside (c : Nat) : Bool :=
    if b.mantissa % 2 = 0 then low ≤ c * den && c * den ≤ high
    else low < c * den && c * den < high
  let below := value / den
  let above := below + 1
  if inside below && 0 < below then
    if inside above && above * den - value < value - below * den then some above
    else some below
  else if inside above then some above
  else none

def Binary.search (b : Binary) (leading : Int) : Nat → Nat → Decimal
  | _, 0 => ⟨0, 0⟩
  | count, more + 1 =>
    let k := leading + 1 - count
    match b.onGrid? k with
    | some c => ⟨c, k⟩
    | none => b.search leading (count + 1) more

def Binary.shortest (b : Binary) : Decimal :=
  if b.mantissa = 0 then ⟨0, 0⟩
  else
    let num := b.mantissa * power 2 b.exponent
    let den := power 2 (-b.exponent)
    b.search (leadingExponent num den) 1 17

structure Format where
  positional : Int → Bool
  pointZero : Bool

def significant (n : Nat) : List Char :=
  ((Nat.toDigits 10 n).reverse.dropWhile (· = '0')).reverse

def Format.spell (format : Format) (ds : List Char) (e : Int) : List Char :=
  if format.positional e then
    if e < 0 then '0' :: '.' :: List.replicate (-e - 1).toNat '0' ++ ds
    else
      let whole := e.toNat + 1
      if ds.length ≤ whole then
        ds ++ List.replicate (whole - ds.length) '0' ++ if format.pointZero then ['.', '0'] else []
      else ds.take whole ++ '.' :: ds.drop whole
  else
    let exponent := 'e' :: (if e < 0 then '-' else '+') :: (toString e.natAbs).toList
    match ds with
    | [] => '0' :: exponent
    | [d] => d :: exponent
    | d :: rest => d :: '.' :: rest ++ exponent

def Format.write (format : Format) (f : Float) : String :=
  if f.isNaN then "NaN"
  else
    let sign := if 0x8000000000000000 ≤ f.toBits then ['-'] else []
    if f.isInf then .ofList (sign ++ ['i', 'n', 'f'])
    else
      let d := (Binary.ofFloat f).shortest
      if d.coefficient = 0 then .ofList (sign ++ format.spell ['0'] 0)
      else .ofList (sign ++ format.spell (significant d.coefficient)
        (d.exponent + digitCount d.coefficient - 1))

end Decimal

end ConsoleGateway
