import ConsoleGateway.Text.Integer

namespace ConsoleGateway.Toml

structure Date where
  year : Nat
  month : Nat
  day : Nat
  deriving DecidableEq, Repr

structure TimeOfDay where
  hour : Nat
  minute : Nat
  second : Nat
  fraction : List Char
  deriving DecidableEq, Repr

inductive Offset where
  | utc
  | hours (hours : Int) (minutes : Nat)
  deriving DecidableEq, Repr

structure Datetime where
  date : Option Date
  time : Option TimeOfDay
  offset : Option Offset
  deriving DecidableEq, Repr

namespace Datetime

def two (n : Nat) : List Char := if n < 10 then '0' :: (toString n).toList else (toString n).toList

def four (n : Nat) : List Char :=
  let ds := (toString n).toList
  List.replicate (4 - ds.length) '0' ++ ds

def dateText (d : Date) : List Char := four d.year ++ '-' :: two d.month ++ '-' :: two d.day

def timeText (t : TimeOfDay) : List Char :=
  two t.hour ++ ':' :: two t.minute ++ ':' :: two t.second
    ++ if t.fraction = [] then [] else '.' :: t.fraction

def offsetText : Offset → List Char
  | .utc => ['Z']
  | .hours h m => (if h < 0 then '-' else '+') :: two h.natAbs ++ ':' :: two m

def text (t : Datetime) : String :=
  .ofList ((t.date.map dateText).getD []
    ++ (if t.date.isSome && t.time.isSome then ['T'] else [])
    ++ (t.time.map timeText).getD [] ++ (t.offset.map offsetText).getD [])

def number? : Nat → List Char → Option (Nat × List Char)
  | 0, cs => some (0, cs)
  | _ + 1, [] => none
  | n + 1, c :: cs =>
    if Integer.isDigit c then
      (number? n cs).map fun (rest, cs) => ((c.toNat - 48) * Nat.pow 10 n + rest, cs)
    else none

def expect? (c : Char) : List Char → Option (List Char)
  | d :: cs => if d = c then some cs else none
  | [] => none

def date? (cs : List Char) : Option (Date × List Char) := do
  let (year, cs) ← number? 4 cs
  let cs ← expect? '-' cs
  let (month, cs) ← number? 2 cs
  let cs ← expect? '-' cs
  let (day, cs) ← number? 2 cs
  if 1 ≤ month ∧ month ≤ 12 ∧ 1 ≤ day ∧ day ≤ 31 then return (⟨year, month, day⟩, cs) else none

def fraction? (cs : List Char) : Option (List Char × List Char) :=
  match cs with
  | '.' :: rest =>
    let ds := rest.takeWhile Integer.isDigit
    if ds = [] then none
    else some (((ds.take 9).reverse.dropWhile (· = '0')).reverse, rest.dropWhile Integer.isDigit)
  | cs => some ([], cs)

def time? (cs : List Char) : Option (TimeOfDay × List Char) := do
  let (hour, cs) ← number? 2 cs
  let cs ← expect? ':' cs
  let (minute, cs) ← number? 2 cs
  let cs ← expect? ':' cs
  let (second, cs) ← number? 2 cs
  let (fraction, cs) ← fraction? cs
  if hour ≤ 24 ∧ minute ≤ 59 ∧ second ≤ 59 then return (⟨hour, minute, second, fraction⟩, cs)
  else none

def hours? (sign : Int) (cs : List Char) : Option (Option Offset × List Char) := do
  let (h, cs) ← number? 2 cs
  let cs ← expect? ':' cs
  let (m, cs) ← number? 2 cs
  return (some (.hours (sign * h) m), cs)

def offset? (cs : List Char) : Option (Option Offset × List Char) :=
  match cs with
  | [] => some (none, [])
  | c :: rest =>
    if c = 'Z' ∨ c = 'z' then some (some .utc, rest)
    else if c = '+' then hours? 1 rest
    else if c = '-' then hours? (-1) rest
    else none

def isJoint (c : Char) : Bool := c = 'T' || c = 't' || c = ' '

def ofText? (cs : List Char) : Option Datetime :=
  if cs[2]? = some ':' then do
    match ← time? cs with
    | (time, []) => return ⟨none, some time, none⟩
    | _ => none
  else do
    match ← date? cs with
    | (date, []) => return ⟨some date, none, none⟩
    | (date, c :: cs) =>
      if isJoint c then
        let (time, cs) ← time? cs
        match ← offset? cs with
        | (offset, []) => return ⟨some date, some time, offset⟩
        | _ => none
      else none

end Datetime

end ConsoleGateway.Toml
