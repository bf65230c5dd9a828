import ConsoleGateway.Toml.Datetime
import ConsoleGateway.Toml.Number
import ConsoleGateway.Toml.Token
import ConsoleGateway.Toml.Value

namespace ConsoleGateway.Toml

abbrev Reads (α : Type) : Type := List Token → Option (α × List Token)

def skipBlank : List Token → List Token
  | .blank _ :: ts => ts
  | ts => ts

def expect? (t : Token) : List Token → Option (List Token)
  | u :: ts => if u = t then some ts else none
  | [] => none

def endOfLine? : List Token → Option (List Token)
  | [] => some []
  | .newline :: ts => some ts
  | .comment :: [] => some []
  | .comment :: .newline :: ts => some ts
  | _ => none

def keyPart? : Reads String
  | .word text :: ts => some (.ofList text, ts)
  | .string text false :: ts => if text.contains '\n' then none else some (.ofList text, ts)
  | _ => none

def keyTail? : Nat → Reads (List String)
  | 0, _ => none
  | fuel + 1, ts =>
    match skipBlank ts with
    | .period :: ts => do
      let (part, ts) ← keyPart? (skipBlank ts)
      let (parts, ts) ← keyTail? fuel ts
      return (part :: parts, ts)
    | ts => some ([], ts)

def key? (ts : List Token) : Option (List String × List Token) := do
  let (part, rest) ← keyPart? ts
  let (parts, rest) ← keyTail? (rest.length + 1) rest
  return (part :: parts, rest)

def exponent? (suffix : List Char) (ts : List Token) : Option (Int × List Token) :=
  match suffix with
  | [] => some (0, ts)
  | e :: text =>
    if e = 'e' ∨ e = 'E' then
      let whole (read : Option (Digits × List Char)) (ts : List Token) :
          Option (Int × List Token) :=
        match read with
        | some (d, []) => some (d.value 10, ts)
        | _ => none
      match text, ts with
      | [], .plus :: .word w :: ts => whole ((tailRule false).read w) ts
      | [], .word w :: ts => whole ((tailRule false).read w) ts
      | [], _ => none
      | text, ts => whole ((tailRule true).read text) ts
    else none

def float? (word : List Char) (after : Option (List Char)) : Reads Value := fun ts => do
  let (whole, suffix) ← decimalRule.read word
  let (fraction, suffix) ← match after with
    | none => some ([], suffix)
    | some text =>
      if suffix = [] then ((tailRule false).read text).map fun (d, rest) => (d.digits, rest)
      else none
  let (exponent, ts) ← exponent? suffix ts
  let f ← double? whole.negative (whole.digits ++ fraction) (exponent - fraction.length)
  return (.float f, ts)

def number? (word : List Char) (ts : List Token) : Option (Value × List Token) :=
  let isPrefixed := match word with
    | '0' :: c :: _ => c = 'x' || c = 'o' || c = 'b'
    | _ => false
  if isPrefixed then (integer? word).map fun z => (.integer z, ts)
  else if word.contains 'e' || word.contains 'E' then float? word none ts
  else match ts with
    | .period :: .word after :: ts => float? word (some after) ts
    | .period :: _ => none
    | ts =>
      if word = "inf".toList then some (.float (1.0 / 0.0), ts)
      else if word = "-inf".toList then some (.float (-(1.0 / 0.0)), ts)
      else if word = "nan".toList ∨ word = "-nan".toList then some (.float (0.0 / 0.0), ts)
      else (integer? word).map fun z => (.integer z, ts)

def word? : Reads (List Char)
  | .word w :: ts => some (w, ts)
  | _ => none

def optionalWord? (mark : Token) (sign : Char) : Reads (List Char) := fun ts =>
  match ts with
  | t :: rest => if t = mark then (word? rest).map fun (w, ts) => (sign :: w, ts) else some ([], ts)
  | [] => some ([], [])

def clockTail? : Reads (List Char) := fun ts => do
  let (minutes, ts) ← word? ts
  let ts ← expect? .colon ts
  let (seconds, ts) ← word? ts
  let (fraction, ts) ← optionalWord? .period '.' ts
  let (ahead, ts) ← optionalWord? .plus '+' ts
  let (rest, ts) ← optionalWord? .colon ':' ts
  return (minutes ++ ':' :: seconds ++ fraction ++ ahead ++ rest, ts)

def datetime? (word : List Char) (colon : Bool) : Reads Value := fun ts => do
  let start := if colon then word ++ [':'] else word
  let (start, ts) := match ts with
    | .blank [' '] :: .word hour :: ts => (start ++ ' ' :: hour, ts)
    | ts => (start, ts)
  let (text, ts) ←
    if colon then (clockTail? ts).map fun (tail, ts) => (start ++ tail, ts)
    else match ts with
      | .colon :: ts => (clockTail? ts).map fun (tail, ts) => (start ++ ':' :: tail, ts)
      | ts => some (start, ts)
  let t ← Datetime.ofText? text
  return (.datetime t.text, ts)

def holds (part : List Char) : List Char → Bool
  | [] => part.isEmpty
  | c :: cs => part.isPrefixOf (c :: cs) || holds part cs

def looksLikeDate (word : List Char) : Bool :=
  word.contains 'T' || word.contains 't' ||
    ((word.drop 1).contains '-' && !holds ['e', '-'] word && !holds ['E', '-'] word)

def numberOrDate? (word : List Char) : Reads Value := fun ts =>
  if looksLikeDate word then datetime? word false ts
  else match ts with
    | .colon :: ts => datetime? word true ts
    | ts => number? word ts

def ofWord? (word : List Char) : Reads Value := fun ts =>
  if word = "true".toList then some (.boolean true, ts)
  else if word = "false".toList then some (.boolean false, ts)
  else if word = "inf".toList ∨ word = "nan".toList then numberOrDate? word ts
  else match word with
    | c :: _ => if c = '-' ∨ Integer.isDigit c then numberOrDate? word ts else none
    | [] => none

def skipLines? : Nat → List Token → Option (List Token)
  | 0, _ => none
  | fuel + 1, ts =>
    match skipBlank ts with
    | .newline :: ts => skipLines? fuel ts
    | .comment :: ts => do skipLines? fuel (← endOfLine? (.comment :: ts))
    | ts => some ts

mutual

def value? : Nat → Reads Value
  | 0, _ => none
  | fuel + 1, ts =>
    match ts with
    | .string text _ :: ts => some (.string (.ofList text), ts)
    | .word word :: ts => ofWord? word ts
    | .plus :: .word word :: ts => number? word ts
    | .leftBrace :: ts =>
      match skipBlank ts with
      | .rightBrace :: ts => some (.table [], ts)
      | ts => pairs? fuel [] ts
    | .leftBracket :: ts => items? fuel ts
    | _ => none

def pairs? : Nat → List (String × Branch) → Reads Value
  | 0, _, _ => none
  | fuel + 1, entries, ts => do
    let (key, ts) ← key? ts
    let ts ← expect? .equals ts
    let (v, ts) ← value? fuel (skipBlank ts)
    let entries ← Branch.add v key entries
    match skipBlank ts with
    | .rightBrace :: ts => return (.table (Branch.toTable entries), ts)
    | .comma :: ts => pairs? fuel entries (skipBlank ts)
    | _ => none

def items? : Nat → Reads Value
  | 0, _ => none
  | fuel + 1, ts => do
    match ← skipLines? (ts.length + 1) ts with
    | .rightBracket :: ts => return (.array [], ts)
    | ts =>
      let (v, ts) ← value? fuel ts
      match ← skipLines? (ts.length + 1) ts with
      | .rightBracket :: ts => return (.array [v], ts)
      | .comma :: ts =>
        match ← items? fuel ts with
        | (.array vs, ts) => return (.array (v :: vs), ts)
        | _ => none
      | _ => none

end

structure Section where
  -- The header and whether its brackets are doubled; none before the first header.
  header : Option (Bool × List String)
  entries : List (String × Branch)

def header? (ts : List Token) : Option ((Bool × List String) × List Token) := do
  let (doubled, ts) := match ts with
    | .leftBracket :: ts => (true, ts)
    | ts => (false, ts)
  let (key, ts) ← key? (skipBlank ts)
  let ts ← expect? .rightBracket ts
  let ts ← if doubled then expect? .rightBracket ts else some ts
  return ((doubled, key), ← endOfLine? (skipBlank ts))

def line? (ts : List Token) : Option ((List String × Value) × List Token) := do
  let (key, ts) ← key? ts
  let ts ← expect? .equals ts
  let (v, ts) ← value? (ts.length + 1) (skipBlank ts)
  return ((key, v), ← endOfLine? (skipBlank ts))

def sections? : Nat → Section → List Token → Option (List Section)
  | 0, _, _ => none
  | fuel + 1, current, ts => do
    match ← skipLines? (ts.length + 1) ts with
    | [] => return [current]
    | .leftBracket :: ts =>
      let (header, ts) ← header? ts
      return current :: (← sections? fuel ⟨some header, []⟩ ts)
    | ts =>
      let ((key, v), ts) ← line? ts
      let entries ← Branch.add v key current.entries
      sections? fuel { current with entries } ts

def Section.addTo (s : Section) (root : List (String × Node)) : Option (List (String × Node)) :=
  let new := Node.ofTable (Branch.toTable s.entries)
  match s.header with
  | none => Node.join root new
  | some (doubled, path) => Node.place doubled new path root

def Table.ofText? (cs : List Char) : Option Table := do
  let ts ← lex? cs
  let sections ← sections? (ts.length + 1) ⟨none, []⟩ ts
  return Node.toTable (← sections.foldlM (fun root s => s.addTo root) [])

end ConsoleGateway.Toml
