import ConsoleGateway.Decimal.Shortest
import ConsoleGateway.Text.Integer

namespace ConsoleGateway.Json

structure Literal where
  negative : Bool
  whole : List Nat
  -- The digits after the point; there is no point when there are none.
  fraction : List Nat
  -- The sign and the digits of the exponent.
  exponent : Option (Bool × List Nat)
  deriving DecidableEq, Repr

inductive Number where
  | natural (n : Nat)
  | negative (z : Int)
  | floating (f : Float)

def accumulate : Nat → List Nat → Nat × Nat
  | s, [] => (s, 0)
  | s, d :: ds =>
    if s * 10 + d < UInt64.size then accumulate (s * 10 + d) ds else (s, ds.length + 1)

def exponentValue? (ds : List Nat) : Option Nat :=
  ds.foldl
    (fun n? d => n?.bind fun n => if n * 10 + d < 0x80000000 then some (n * 10 + d) else none)
    (some 0)

def tenTo (n : Nat) : Float := Float.ofScientific 1 false n

def scale (f : Float) (e : Int) : Option Float :=
  if e < -308 then
    if f == 0 then some f else scale (f / tenTo 308) (e + 308)
  else if e < 0 then some (f / tenTo (-e).toNat)
  else if e ≤ 308 then
    let g := f * tenTo e.toNat
    if g.isInf then none else some g
  else if f == 0 then some f
  else none
termination_by (-e).toNat

def signed (negative : Bool) (f : Float) : Float := if negative then -f else f

def Literal.value? (l : Literal) : Option Number :=
  let (s, excess) := accumulate 0 l.whole
  if excess = 0 ∧ l.fraction = [] ∧ l.exponent = none then
    if !l.negative then some (.natural s)
    else if 0 < s ∧ Integer.fitsInt64 (-s) then some (.negative (-s))
    else some (.floating (-(UInt64.ofNat s).toFloat))
  else
    let (s, dropped) := accumulate s l.fraction
    let base : Int := excess - (l.fraction.length - dropped : Nat)
    let size := (UInt64.ofNat s).toFloat
    match l.exponent with
    | none => (scale size base).map fun f => .floating (signed l.negative f)
    | some (down, ds) =>
      match exponentValue? ds with
      | some e =>
        (scale size (if down then base - e else base + e)).map fun f =>
          .floating (signed l.negative f)
      | none =>
        if s ≠ 0 ∧ !down then none else some (.floating (signed l.negative 0))

def doubleFormat : Decimal.Format := ⟨fun e => -5 ≤ e && e ≤ 15, true⟩

end ConsoleGateway.Json
