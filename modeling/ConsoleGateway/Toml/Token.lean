import ConsoleGateway.Text.Percent

namespace ConsoleGateway.Toml

inductive Token where
  | blank (text : List Char)
  | newline
  | comment
  | equals
  | period
  | comma
  | colon
  | plus
  | leftBrace
  | rightBrace
  | leftBracket
  | rightBracket
  | word (text : List Char)
  | string (text : List Char) (multiline : Bool)
  deriving DecidableEq, Repr

def foldLineEnds : List Char → List Char
  | '\r' :: '\n' :: cs => '\n' :: foldLineEnds cs
  | c :: cs => c :: foldLineEnds cs
  | [] => []

def isWordChar (c : Char) : Bool :=
  let n := c.toNat
  (48 ≤ n && n ≤ 57) || (65 ≤ n && n ≤ 90) || (97 ≤ n && n ≤ 122) || c = '-' || c = '_'

def isBlank (c : Char) : Bool := c = ' ' || c = '\t'

def isCommentChar (c : Char) : Bool := c = '\t' || 0x20 ≤ c.toNat

def isStringChar (c : Char) : Bool := c = '\t' || (0x20 ≤ c.toNat && c.toNat ≠ 0x7F)

def charOf? (n : Nat) : Option Char := if h : n.isValidChar then some (.ofNatAux n h) else none

structure Quoting where
  delimiter : Char
  -- Whether backslashes start escapes.
  escapes : Bool
  multiline : Bool
  deriving DecidableEq, Repr

inductive Place where
  | plain
  | escape
  -- Within a numeric escape: the digits missing and the value so far.
  | digits (missing value : Nat)
  -- After a backslash at the end of a line, before the line end.
  | lineEnd
  -- After such a line end, where blanks are skipped.
  | margin
  deriving DecidableEq, Repr

inductive Action where
  | close
  | emit (out : Option Char) (next : Place)
  | refuse
  deriving DecidableEq, Repr

namespace Quoting

def onPlain (q : Quoting) (c : Char) : Action :=
  if c = q.delimiter then .close
  else if q.escapes && c = '\\' then .emit none .escape
  else if c = '\n' then if q.multiline then .emit (some c) .plain else .refuse
  else if isStringChar c then .emit (some c) .plain
  else .refuse

def onEscape (q : Quoting) (c : Char) : Action :=
  if c = '"' ∨ c = '\\' then .emit (some c) .plain
  else if c = 'b' then .emit (some '\x08') .plain
  else if c = 'f' then .emit (some '\x0C') .plain
  else if c = 'n' then .emit (some '\n') .plain
  else if c = 'r' then .emit (some '\r') .plain
  else if c = 't' then .emit (some '\t') .plain
  else if c = 'u' then .emit none (.digits 4 0)
  else if c = 'U' then .emit none (.digits 8 0)
  else if q.multiline && isBlank c then .emit none .lineEnd
  else if q.multiline && c = '\n' then .emit none .margin
  else .refuse

def onDigit (missing value : Nat) (c : Char) : Action :=
  match Percent.hexValue? c with
  | none => .refuse
  | some d =>
    let value := value * 16 + d
    if 1 < missing then .emit none (.digits (missing - 1) value)
    else match charOf? value with
      | some c => .emit (some c) .plain
      | none => .refuse

def act (q : Quoting) : Place → Char → Action
  | .plain, c => q.onPlain c
  | .escape, c => q.onEscape c
  | .digits missing value, c => onDigit missing value c
  | .lineEnd, c =>
    if isBlank c then .emit none .lineEnd
    else if c = '\n' then .emit none .margin
    else .refuse
  | .margin, c => if isBlank c || c = '\n' then .emit none .margin else q.onPlain c

/-- What follows the delimiters that close a string of several lines: up to two more delimiters
belong to the string. `none` when these delimiters close nothing. -/
def closeMultiline (delimiter : Char) : List Char → Option (List Char × List Char)
  | a :: b :: rest =>
    if a = delimiter ∧ b = delimiter then
      let extra := (rest.take 2).takeWhile (· = delimiter)
      some (extra, rest.drop extra.length)
    else none
  | _ => none

def body (q : Quoting) : Place → List Char → Option (List Char × List Char)
  | _, [] => none
  | place, c :: cs =>
    match q.act place c with
    | .refuse => none
    | .emit out next => (q.body next cs).map fun (text, rest) => (out.toList ++ text, rest)
    | .close =>
      if q.multiline then
        match closeMultiline q.delimiter cs with
        | some closed => some closed
        | none => (q.body .plain cs).map fun (text, rest) => (c :: text, rest)
      else some ([], cs)

end Quoting

def string? (delimiter : Char) (escapes : Bool) (cs : List Char) : Option (Token × List Char) :=
  let line : Quoting := ⟨delimiter, escapes, false⟩
  let lines : Quoting := ⟨delimiter, escapes, true⟩
  let finish (multiline : Bool) (read : Option (List Char × List Char)) :
      Option (Token × List Char) :=
    read.map fun (text, rest) => (.string text multiline, rest)
  match cs with
  | a :: b :: rest =>
    if a = delimiter then
      if b = delimiter then
        finish true (lines.body .plain (if rest.head? = some '\n' then rest.drop 1 else rest))
      else some (.string [] false, b :: rest)
    else finish false (line.body .plain cs)
  | [a] => if a = delimiter then some (.string [] false, []) else none
  | [] => none

def token? : List Char → Option (Token × List Char)
  | [] => none
  | c :: cs =>
    if c = '\n' then some (.newline, cs)
    else if isBlank c then some (.blank (c :: cs.takeWhile isBlank), cs.dropWhile isBlank)
    else if c = '#' then some (.comment, cs.dropWhile isCommentChar)
    else if c = '=' then some (.equals, cs)
    else if c = '.' then some (.period, cs)
    else if c = ',' then some (.comma, cs)
    else if c = ':' then some (.colon, cs)
    else if c = '+' then some (.plus, cs)
    else if c = '\x7b' then some (.leftBrace, cs)
    else if c = '\x7d' then some (.rightBrace, cs)
    else if c = '[' then some (.leftBracket, cs)
    else if c = ']' then some (.rightBracket, cs)
    else if c = '\'' then string? c false cs
    else if c = '"' then string? c true cs
    else if isWordChar c then some (.word (c :: cs.takeWhile isWordChar), cs.dropWhile isWordChar)
    else none

def lexUpTo : Nat → List Char → Option (List Token)
  | _, [] => some []
  | 0, _ :: _ => none
  | fuel + 1, cs =>
    match token? cs with
    | none => none
    | some (t, rest) => (lexUpTo fuel rest).map (t :: ·)

def lex? (cs : List Char) : Option (List Token) :=
  let cs := foldLineEnds cs
  let cs := if cs.head? = some '\uFEFF' then cs.drop 1 else cs
  lexUpTo cs.length cs

end ConsoleGateway.Toml
