namespace ConsoleGateway.Utf8

def continuation (n : Nat) : UInt8 := .ofNat (0x80 + n % 64)

def encodeChar (c : Char) : List UInt8 :=
  let n := c.toNat
  if n < 0x80 then [.ofNat n]
  else if n < 0x800 then [.ofNat (0xC0 + n / 64), continuation n]
  else if n < 0x10000 then
    [.ofNat (0xE0 + n / 4096), continuation (n / 64), continuation n]
  else
    [.ofNat (0xF0 + n / 262144), continuation (n / 4096), continuation (n / 64), continuation n]

def encode (cs : List Char) : List UInt8 := cs.flatMap encodeChar

/-- A character whose first bytes have been read: the bits so far, the range its next byte must lie
in, and how many bytes are missing. -/
structure Unfinished where
  bits : Nat
  low : Nat
  high : Nat
  missing : Nat
  deriving DecidableEq, Repr

def start (b : UInt8) : List (Option Char) × Option Unfinished :=
  let n := b.toNat
  if n < 0x80 then ([some (Char.ofNat n)], none)
  else if n < 0xC2 then ([none], none)
  else if n < 0xE0 then ([], some ⟨n - 0xC0, 0x80, 0xBF, 1⟩)
  else if n = 0xE0 then ([], some ⟨0, 0xA0, 0xBF, 2⟩)
  else if n = 0xED then ([], some ⟨0xD, 0x80, 0x9F, 2⟩)
  else if n < 0xF0 then ([], some ⟨n - 0xE0, 0x80, 0xBF, 2⟩)
  else if n = 0xF0 then ([], some ⟨0, 0x90, 0xBF, 3⟩)
  else if n < 0xF4 then ([], some ⟨n - 0xF0, 0x80, 0xBF, 3⟩)
  else if n = 0xF4 then ([], some ⟨4, 0x80, 0x8F, 3⟩)
  else ([none], none)

/-- Reads one byte. A byte outside the range breaks off the unfinished character and is read again
on its own. -/
def step : Option Unfinished → UInt8 → List (Option Char) × Option Unfinished
  | none, b => start b
  | some u, b =>
    let n := b.toNat
    if u.low ≤ n ∧ n ≤ u.high then
      let bits := u.bits * 64 + n % 64
      if u.missing ≤ 1 then ([some (Char.ofNat bits)], none)
      else ([], some ⟨bits, 0x80, 0xBF, u.missing - 1⟩)
    else
      let (out, next) := start b
      (none :: out, next)

def readFrom : Option Unfinished → List UInt8 → List (Option Char)
  | none, [] => []
  | some _, [] => [none]
  | state, b :: bs => (step state b).1 ++ readFrom (step state b).2 bs

/-- Reads bytes, with `none` for each longest start of a character that cannot be completed. -/
def read (bs : List UInt8) : List (Option Char) := readFrom none bs

def replacement : Char := '\uFFFD'

def decodeLossy (bs : List UInt8) : List Char := (read bs).map (·.getD replacement)

def decode? (bs : List UInt8) : Option (List Char) :=
  let cs := decodeLossy bs
  if encode cs = bs then some cs else none

@[simp] theorem encode_nil : encode [] = [] := rfl

@[simp] theorem encode_cons (c : Char) (cs : List Char) :
    encode (c :: cs) = encodeChar c ++ encode cs := rfl

@[simp] theorem encode_append (a b : List Char) : encode (a ++ b) = encode a ++ encode b := by
  simp [encode]

end ConsoleGateway.Utf8
