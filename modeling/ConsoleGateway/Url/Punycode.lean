namespace ConsoleGateway.Punycode

def digitChar (d : Nat) : Char := if d < 26 then .ofNat (97 + d) else .ofNat (22 + d)

def digitValue? (c : Char) : Option Nat :=
  let n := c.toNat
  if 97 ≤ n ∧ n ≤ 122 then some (n - 97)
  else if 65 ≤ n ∧ n ≤ 90 then some (n - 65)
  else if 48 ≤ n ∧ n ≤ 57 then some (n - 22)
  else none

def threshold (k bias : Nat) : Nat := if k ≤ bias + 1 then 1 else min 26 (k - bias)

def shrink : Nat → Nat → Nat → Nat × Nat
  | 0, delta, k => (delta, k)
  | fuel + 1, delta, k => if 455 < delta then shrink fuel (delta / 35) (k + 36) else (delta, k)

def adapt (delta count : Nat) (first : Bool) : Nat :=
  let delta := if first then delta / 700 else delta / 2
  let delta := delta + delta / count
  let (delta, k) := shrink delta delta 0
  k + 36 * delta / (delta + 38)

def writeNumber (bias : Nat) : Nat → Nat → Nat → List Char
  | 0, _, _ => []
  | fuel + 1, k, q =>
    let t := threshold k bias
    if q < t then [digitChar q]
    else digitChar (t + (q - t) % (36 - t)) :: writeNumber bias fuel (k + 36) ((q - t) / (36 - t))

structure Progress where
  out : List Char
  delta : Nat
  bias : Nat
  handled : Nat

def Progress.pass (basic n : Nat) (p : Progress) (c : Char) : Progress :=
  if c.toNat < n then { p with delta := p.delta + 1 }
  else if c.toNat = n then
    { out := p.out ++ writeNumber p.bias (p.delta + 1) 36 p.delta
      delta := 0
      bias := adapt p.delta (p.handled + 1) (p.handled = basic)
      handled := p.handled + 1 }
  else p

def place (label : List Char) (basic : Nat) : Nat → List Nat → Progress → Progress
  | _, [], p => p
  | start, n :: ns, p =>
    let p := { p with delta := p.delta + (n - start) * (p.handled + 1) }
    let p := label.foldl (Progress.pass basic n) p
    place label basic (n + 1) ns { p with delta := p.delta + 1 }

def insert (n : Nat) : List Nat → List Nat
  | [] => [n]
  | m :: ms => if n < m then n :: m :: ms else if n = m then m :: ms else m :: insert n ms

def encode (label : List Char) : List Char :=
  let ascii := label.filter (·.toNat < 128)
  let others := (label.filter (128 ≤ ·.toNat)).foldl (fun ns c => insert c.toNat ns) []
  let start := if ascii = [] then [] else ascii ++ ['-']
  (place label ascii.length 128 others ⟨start, 0, 72, ascii.length⟩).out

def readNumber (bias : Nat) : Nat → Nat → Nat → List Char → Option (Nat × List Char)
  | _, _, _, [] => none
  | k, weight, i, c :: cs => do
    let d ← digitValue? c
    let i := i + d * weight
    if UInt32.size ≤ i then none
    else
      let t := threshold k bias
      if d < t then some (i, cs) else readNumber bias (k + 36) (weight * (36 - t)) i cs

def insertAll : Nat → List Char → Nat → Nat → Nat → List Char → Option (List Char)
  | 0, _, _, _, _, label => some label
  | _, [], _, _, _, label => some label
  | fuel + 1, cs, n, i, bias, label => do
    let (j, rest) ← readNumber bias 36 1 i cs
    let count := label.length + 1
    let n := n + j / count
    let index := j % count
    if 0x10FFFF < n ∨ (0xD800 ≤ n ∧ n < 0xE000) then none
    else
      let label := label.take index ++ Char.ofNat n :: label.drop index
      insertAll fuel rest n (index + 1) (adapt (j - i) count (i = 0)) label

def splitLast (cs : List Char) : List Char × List Char :=
  let back := cs.reverse
  if back.contains '-' then
    (((back.dropWhile (· ≠ '-')).drop 1).reverse, (back.takeWhile (· ≠ '-')).reverse)
  else ([], cs)

def decode? (cs : List Char) : Option (List Char) :=
  let (ascii, digits) := splitLast cs
  insertAll (digits.length + 1) digits 128 0 72 ascii

end ConsoleGateway.Punycode
