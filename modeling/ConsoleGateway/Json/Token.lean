import ConsoleGateway.Json.Number
import ConsoleGateway.Text.Percent

namespace ConsoleGateway.Json

/-- A text as characters. A byte that is part of no character stands as `none`, and only strings
that nobody reads may hold one. -/
abbrev Input : Type := List (Option Char)

inductive Piece where
  | char (c : Char)
  | unit (u : Nat)
  | stray
  deriving DecidableEq, Repr

inductive Token where
  | openBrace
  | closeBrace
  | openBracket
  | closeBracket
  | colon
  | comma
  | null
  | bool (b : Bool)
  | number (l : Literal)
  | string (ps : List Piece)
  | invalid
  deriving DecidableEq, Repr

def isSpace (c : Char) : Bool := c = ' ' || c = '\t' || c = '\n' || c = '\r'

def shortEscape? : Char → Option Char
  | '"' => some '"'
  | '\\' => some '\\'
  | '/' => some '/'
  | 'b' => some '\x08'
  | 'f' => some '\x0C'
  | 'n' => some '\n'
  | 'r' => some '\r'
  | 't' => some '\t'
  | _ => none

def hexUnit? (a b c d : Char) : Option Nat := do
  let a ← Percent.hexValue? a
  let b ← Percent.hexValue? b
  let c ← Percent.hexValue? c
  let d ← Percent.hexValue? d
  return ((a * 16 + b) * 16 + c) * 16 + d

def stringBody : Input → Option (List Piece × Input)
  | [] => none
  | some '"' :: rest => some ([], rest)
  | some '\\' :: some 'u' :: some a :: some b :: some c :: some d :: rest => do
    let u ← hexUnit? a b c d
    let (ps, rest) ← stringBody rest
    return (.unit u :: ps, rest)
  | some '\\' :: some e :: rest => do
    let c ← shortEscape? e
    let (ps, rest) ← stringBody rest
    return (.char c :: ps, rest)
  | some c :: rest =>
    if c.toNat < 0x20 || c = '\\' then none
    else do
      let (ps, rest) ← stringBody rest
      return (.char c :: ps, rest)
  | none :: rest => do
    let (ps, rest) ← stringBody rest
    return (.stray :: ps, rest)

def isDigit (c : Char) : Bool := 48 ≤ c.toNat && c.toNat ≤ 57

def digitValue (c : Char) : Nat := c.toNat - 48

def digits (cs : Input) : List Nat × Input :=
  ((cs.takeWhile (·.any isDigit)).filterMap (·.map digitValue), cs.dropWhile (·.any isDigit))

def fraction (cs : Input) : Option (List Nat × Input) :=
  match cs with
  | some '.' :: rest =>
    let (ds, rest) := digits rest
    if ds = [] then none else some (ds, rest)
  | _ => some ([], cs)

def exponent (cs : Input) : Option (Option (Bool × List Nat) × Input) :=
  match cs with
  | some c :: rest =>
    if c = 'e' ∨ c = 'E' then
      let (down, rest) := match rest with
        | some '-' :: rest => (true, rest)
        | some '+' :: rest => (false, rest)
        | _ => (false, rest)
      let (ds, rest) := digits rest
      if ds = [] then none else some (some (down, ds), rest)
    else some (none, cs)
  | _ => some (none, cs)

def unsignedNumber (negative : Bool) (cs : Input) : Option (Literal × Input) := do
  let (whole, rest) := digits cs
  if whole = [] ∨ (1 < whole.length ∧ whole.head? = some 0) then none
  else
    let (fraction, rest) ← fraction rest
    let (exponent, rest) ← exponent rest
    return (⟨negative, whole, fraction, exponent⟩, rest)

def numberBody : Input → Option (Literal × Input)
  | some '-' :: rest => unsignedNumber true rest
  | cs => unsignedNumber false cs

def token? : Input → Option (Token × Input)
  | some '{' :: rest => some (.openBrace, rest)
  | some '}' :: rest => some (.closeBrace, rest)
  | some '[' :: rest => some (.openBracket, rest)
  | some ']' :: rest => some (.closeBracket, rest)
  | some ':' :: rest => some (.colon, rest)
  | some ',' :: rest => some (.comma, rest)
  | some 'n' :: some 'u' :: some 'l' :: some 'l' :: rest => some (.null, rest)
  | some 't' :: some 'r' :: some 'u' :: some 'e' :: rest => some (.bool true, rest)
  | some 'f' :: some 'a' :: some 'l' :: some 's' :: some 'e' :: rest => some (.bool false, rest)
  | some '"' :: rest => (stringBody rest).map fun (ps, rest) => (.string ps, rest)
  | cs => (numberBody cs).map fun (l, rest) => (.number l, rest)

def lexUpTo : Nat → Input → List Token
  | 0, _ => []
  | fuel + 1, cs =>
    match cs.dropWhile (·.any isSpace) with
    | [] => []
    | rest =>
      match token? rest with
      | some (t, rest) => t :: lexUpTo fuel rest
      | none => [.invalid]

/-- The tokens of a text; what is no token ends them with `invalid`, behind all that stands before
it. Every token has a character, so the length of the text bounds their number. -/
def lex (cs : Input) : List Token := lexUpTo cs.length cs

def joinSurrogates (high low : Nat) : Nat := 0x10000 + (high - 0xD800) * 0x400 + (low - 0xDC00)

def joinPieces : List Piece → Option (List Char)
  | [] => some []
  | .stray :: _ => none
  | .char c :: ps => (joinPieces ps).map (c :: ·)
  | .unit u :: .unit v :: ps =>
    if 0xD800 ≤ u ∧ u < 0xDC00 then
      if 0xDC00 ≤ v ∧ v < 0xE000 then
        (joinPieces ps).map (Char.ofNat (joinSurrogates u v) :: ·)
      else none
    else if 0xDC00 ≤ u ∧ u < 0xE000 then none
    else (joinPieces (.unit v :: ps)).map (Char.ofNat u :: ·)
  | .unit u :: ps =>
    if 0xD800 ≤ u ∧ u < 0xE000 then none else (joinPieces ps).map (Char.ofNat u :: ·)

end ConsoleGateway.Json
