namespace ConsoleGateway.Unicode

def inRanges (table : List (Nat × Nat)) (n : Nat) : Bool :=
  table.any fun r => r.1 ≤ n && n ≤ r.2

end ConsoleGateway.Unicode
