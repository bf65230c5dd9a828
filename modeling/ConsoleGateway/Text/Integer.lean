namespace ConsoleGateway.Integer

def isDigit (c : Char) : Bool := 48 ≤ c.toNat && c.toNat ≤ 57

def value (cs : List Char) : Nat := cs.foldl (fun n c => n * 10 + (c.toNat - 48)) 0

def digits? (cs : List Char) : Option Nat :=
  if cs ≠ [] ∧ cs.all isDigit then some (value cs) else none

def natural? : List Char → Option Nat
  | '+' :: cs => digits? cs
  | cs => digits? cs

def integer? : List Char → Option Int
  | '-' :: cs => (digits? cs).map fun n => -(n : Int)
  | cs => (natural? cs).map fun n => (n : Int)

def fitsInt64 (z : Int) : Bool := Int64.minValue.toInt ≤ z && z ≤ Int64.maxValue.toInt

def int64? (s : String) : Option Int64 :=
  (integer? s.toList).bind fun z => if fitsInt64 z then some (.ofInt z) else none

def uint64? (s : String) : Option UInt64 :=
  (natural? s.toList).bind fun n => if n < UInt64.size then some (.ofNat n) else none

end ConsoleGateway.Integer
