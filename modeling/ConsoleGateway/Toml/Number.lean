import ConsoleGateway.Text.Integer
import ConsoleGateway.Text.Percent

namespace ConsoleGateway.Toml

structure DigitRule where
  radix : Nat
  sign : Bool
  leadingZeros : Bool
  deriving DecidableEq, Repr

structure Digits where
  negative : Bool
  digits : List Nat
  deriving DecidableEq, Repr

namespace Digits

def magnitude (d : Digits) (radix : Nat) : Nat := d.digits.foldl (fun n d => n * radix + d) 0

def value (d : Digits) (radix : Nat) : Int :=
  if d.negative then -(d.magnitude radix : Int) else d.magnitude radix

end Digits

def digitValue? (radix : Nat) (c : Char) : Option Nat :=
  (Percent.hexValue? c).bind fun v => if v < radix then some v else none

structure Seen where
  any : Bool := false
  leadingZero : Bool := false
  underscore : Bool := false
  deriving DecidableEq, Repr

namespace DigitRule

def scan (rule : DigitRule) : Seen → List Char → Option (List Nat × List Char)
  | seen, [] => if seen.any && !seen.underscore then some ([], []) else none
  | seen, c :: cs =>
    match digitValue? rule.radix c with
    | some v =>
      if !seen.any && v = 0 then
        (rule.scan { seen with any := true, leadingZero := true } cs).map
          fun (ds, rest) => (v :: ds, rest)
      else if seen.any && seen.leadingZero && !rule.leadingZeros then none
      else
        (rule.scan { seen with any := true, underscore := false } cs).map
          fun (ds, rest) => (v :: ds, rest)
    | none =>
      if c = '_' && !seen.underscore then
        if seen.any then rule.scan { seen with underscore := true } cs else none
      else if seen.any && !seen.underscore then some ([], c :: cs)
      else none

def read (rule : DigitRule) (cs : List Char) : Option (Digits × List Char) :=
  match cs with
  | '-' :: rest =>
    if rule.sign then (rule.scan {} rest).map fun (ds, rest) => (⟨true, ds⟩, rest)
    else none
  | cs => (rule.scan {} cs).map fun (ds, rest) => (⟨false, ds⟩, rest)

end DigitRule

def decimalRule : DigitRule := ⟨10, true, false⟩

def tailRule (sign : Bool) : DigitRule := ⟨10, sign, true⟩

def integerBy? (rule : DigitRule) (cs : List Char) : Option Int :=
  match rule.read cs with
  | some (d, []) =>
    let z := d.value rule.radix
    if Integer.fitsInt64 z then some z else none
  | _ => none

def integer? (cs : List Char) : Option Int :=
  match cs with
  | '0' :: 'x' :: rest => integerBy? ⟨16, false, true⟩ rest
  | '0' :: 'o' :: rest => integerBy? ⟨8, false, true⟩ rest
  | '0' :: 'b' :: rest => integerBy? ⟨2, false, true⟩ rest
  | cs => integerBy? decimalRule cs

def double? (negative : Bool) (digits : List Nat) (exponent : Int) : Option Float :=
  let size := (Digits.mk false digits).magnitude 10
  let signed (f : Float) : Float := if negative then -f else f
  if size = 0 then some (signed 0)
  else
    let count : Int := (digits.dropWhile (· = 0)).length
    if 310 < exponent + count then none
    else if exponent + count < -400 then some (signed 0)
    else
      let f := Float.ofScientific size (exponent < 0) exponent.natAbs
      if f.isInf then none else some (signed f)

end ConsoleGateway.Toml
