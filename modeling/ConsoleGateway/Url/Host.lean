import ConsoleGateway.Text.Form
import ConsoleGateway.Unicode.Blank
import ConsoleGateway.Unicode.Lowercase
import ConsoleGateway.Url.Error
import ConsoleGateway.Url.Punycode

namespace ConsoleGateway.Url

/-- The host of a url. The domain is empty where a url may do without one. -/
inductive Host where
  | domain (name : List Char)
  | ipv4 (address : Nat)
  | ipv6 (pieces : List Nat)
  deriving DecidableEq, Repr

def isDigit (c : Char) : Bool := 48 ≤ c.toNat && c.toNat ≤ 57

def readBase (base : Nat) (cs : List Char) : Nat :=
  cs.foldl (fun n c => n * base + (Percent.hexValue? c).getD 0) 0

def ipv4Number? (cs : List Char) : Option Nat :=
  match cs with
  | [] => none
  | '0' :: 'x' :: rest => hex rest
  | '0' :: 'X' :: rest => hex rest
  | '0' :: d :: rest =>
    if (d :: rest).all (fun c => 48 ≤ c.toNat && c.toNat ≤ 55) then some (readBase 8 (d :: rest))
    else none
  | cs => if cs.all isDigit then some (readBase 10 cs) else none
where
  hex (cs : List Char) : Option Nat :=
    if cs.all (fun c => (Percent.hexValue? c).isSome) then some (readBase 16 cs) else none

def nameParts (name : List Char) : List (List Char) :=
  let parts := Form.splitOn '.' name
  if parts.getLast? = some [] then parts.dropLast else parts

def endsInNumber (name : List Char) : Bool :=
  match (nameParts name).getLast? with
  | none => false
  | some last => (last ≠ [] && last.all isDigit) || (ipv4Number? last).isSome

def joinIpv4 (numbers : List Nat) : Option Nat :=
  match numbers.getLast? with
  | none => none
  | some last =>
    let others := numbers.dropLast
    if 4 < numbers.length ∨ others.any (255 < ·) ∨ Nat.pow 256 (4 - others.length) ≤ last then none
    else some (others.foldr (fun n (total : Nat × Nat) => (total.1 + n * total.2, total.2 * 256))
      (last, Nat.pow 256 (4 - others.length))).1

def parseIpv4 (name : List Char) : Except Error Nat :=
  match (nameParts name).mapM ipv4Number? with
  | none => .error .invalidIpv4Address
  | some numbers =>
    match joinIpv4 numbers with
    | none => .error .invalidIpv4Address
    | some address => .ok address

structure Pieces where
  done : List Nat
  gap : Option Nat

def dottedQuad? (cs : List Char) : Option (List Nat) :=
  let parts := Form.splitOn '.' cs
  let part? (cs : List Char) : Option Nat :=
    if cs = [] ∨ !cs.all isDigit ∨ (1 < cs.length ∧ cs.head? = some '0') ∨ 3 < cs.length then none
    else
      let n := readBase 10 cs
      if 255 < n then none else some n
  if parts.length = 4 then parts.mapM part? else none

def readPieces : Nat → List Char → Pieces → Option Pieces
  | _, [], p => some p
  | 0, _, _ => none
  | fuel + 1, ':' :: rest, p =>
    if p.done.length = 8 ∨ p.gap.isSome then none
    else readPieces fuel rest ⟨0 :: p.done, some (p.done.length + 1)⟩
  | fuel + 1, cs, p =>
    if p.done.length = 8 then none
    else
      let digits := (cs.take 4).takeWhile fun c => (Percent.hexValue? c).isSome
      match cs.drop digits.length with
      | [] => some ⟨readBase 16 digits :: p.done, p.gap⟩
      | '.' :: _ =>
        if digits = [] ∨ 6 < p.done.length then none
        else match dottedQuad? cs with
          | some [a, b, c, d] => some ⟨(c * 256 + d) :: (a * 256 + b) :: p.done, p.gap⟩
          | _ => none
      | ':' :: rest =>
        if rest = [] then none else readPieces fuel rest ⟨readBase 16 digits :: p.done, p.gap⟩
      | _ => none

def parseIpv6 (cs : List Char) : Except Error (List Nat) :=
  let read := match cs with
    | ':' :: ':' :: rest => readPieces rest.length rest ⟨[0], some 1⟩
    | ':' :: _ => none
    | [_] => none
    | [] => none
    | cs => readPieces cs.length cs ⟨[], none⟩
  match read with
  | some ⟨done, some gap⟩ =>
    let pieces := done.reverse
    .ok (pieces.take gap ++ List.replicate (8 - pieces.length) 0 ++ pieces.drop gap)
  | some ⟨done, none⟩ => if done.length = 8 then .ok done.reverse else .error .invalidIpv6Address
  | none => .error .invalidIpv6Address

def isForbiddenInDomain (c : Char) : Bool :=
  c.toNat ≤ 0x20 || c.toNat = 0x7F
    || ['#', '%', '/', ':', '<', '>', '?', '@', '[', '\\', ']', '^', '|'].contains c

def isForbiddenInHost (c : Char) : Bool :=
  ['\x00', '\t', '\n', '\r', ' ', '#', '/', ':', '<', '>', '?', '@', '[', '\\', ']', '^',
    '|'].contains c

def isIgnoredInDomain (c : Char) : Bool :=
  let n := c.toNat
  n = 0xAD || n = 0x34F || n = 0x200B || n = 0x2060 || n = 0x2064 || n = 0xFEFF
    || (0x180B ≤ n && n ≤ 0x180F && n ≠ 0x180E) || (0xFE00 ≤ n && n ≤ 0xFE0F)

/-- The narrow form of a wide character, and the dot for the full stops of other scripts. -/
def narrow (c : Char) : Char :=
  let n := c.toNat
  if n = 0x3002 ∨ n = 0xFF61 then '.'
  else if 0xFF01 ≤ n ∧ n ≤ 0xFF5E then .ofNat (n - 0xFEE0)
  else c

def foldDomain (cs : List Char) : List Char :=
  ((cs.filter (!isIgnoredInDomain ·)).map narrow).flatMap Unicode.lowercaseChar

def isWide (label : List Char) : Bool := label.any (128 ≤ ·.toNat)

def isForbiddenWide (c : Char) : Bool :=
  let n := c.toNat
  (0x80 ≤ n && n ≤ 0x9F) || Unicode.isBlank c || (0x200C ≤ n && n ≤ 0x200F)
    || (0x202A ≤ n && n ≤ 0x202E) || (0x2066 ≤ n && n ≤ 0x206F) || (0xE000 ≤ n && n ≤ 0xF8FF)
    || (0xFDD0 ≤ n && n ≤ 0xFDEF) || (0xFFF0 ≤ n && n ≤ 0xFFFF) || 0xE0000 ≤ n

def labelToAscii? (label : List Char) : Option (List Char) :=
  if isWide label then
    if label.any isForbiddenWide then none
    else some (['x', 'n', '-', '-'] ++ Punycode.encode label)
  else match label with
    | 'x' :: 'n' :: '-' :: '-' :: rest =>
      match Punycode.decode? rest with
      | some wide =>
        if isWide wide ∧ foldDomain wide = wide ∧ !wide.any isForbiddenWide then some label
        else none
      | none => none
    | label => some label

def joinLabels : List (List Char) → List Char
  | [] => []
  | [label] => label
  | label :: labels => label ++ '.' :: joinLabels labels

def domainToAscii (cs : List Char) : Except Error (List Char) :=
  match (Form.splitOn '.' (foldDomain cs)).mapM labelToAscii? with
  | none => .error .invalidDomainName
  | some labels =>
    let name := joinLabels labels
    if name.any isForbiddenInDomain then .error .invalidDomainName else .ok name

def bracketed? (cs : List Char) : Option (Except Error Host) :=
  match cs with
  | '[' :: rest =>
    some (if rest.getLast? = some ']' then (parseIpv6 rest.dropLast).map .ipv6
      else .error .invalidIpv6Address)
  | _ => none

def parseHost (cs : List Char) : Except Error Host :=
  match bracketed? cs with
  | some host => host
  | none => do
    match Utf8.decode? (Percent.decode cs) with
    | none => .error .invalidDomainName
    | some cs =>
      let name ← domainToAscii cs
      if name = [] then .error .emptyHost
      else if endsInNumber name then return .ipv4 (← parseIpv4 name)
      else return .domain name

def isControl (c : Char) : Bool := c.toNat < 0x20 || 0x7F ≤ c.toNat

def parseOpaqueHost (cs : List Char) : Except Error Host :=
  match bracketed? cs with
  | some host => host
  | none =>
    if cs.any isForbiddenInHost then .error .invalidDomainCharacter
    else .ok (.domain (Percent.encode isControl cs))

def longestZeros (i : Nat) : List Nat → Nat × Nat
  | [] => (i, 0)
  | p :: ps =>
    let here := ((p :: ps).takeWhile (· = 0)).length
    let (start, length) := longestZeros (i + 1) ps
    if length ≤ here then (i, here) else (start, length)

def joinPieces : List Nat → List Char
  | [] => []
  | [p] => Nat.toDigits 16 p
  | p :: ps => Nat.toDigits 16 p ++ ':' :: joinPieces ps

def Host.text : Host → List Char
  | .domain name => name
  | .ipv4 address =>
    let byte (i : Nat) : List Char := (toString (address / Nat.pow 256 i % 256)).toList
    byte 3 ++ '.' :: byte 2 ++ '.' :: byte 1 ++ '.' :: byte 0
  | .ipv6 pieces =>
    let (start, length) := longestZeros 0 pieces
    if length < 2 then '[' :: joinPieces pieces ++ [']']
    else '[' :: joinPieces (pieces.take start) ++ ':' :: ':' ::
      joinPieces (pieces.drop (start + length)) ++ [']']

end ConsoleGateway.Url
