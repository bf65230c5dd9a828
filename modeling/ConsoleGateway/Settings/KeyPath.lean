import ConsoleGateway.Settings.Tree
import ConsoleGateway.Text.Integer

namespace ConsoleGateway.Settings

inductive Step where
  | child (key : String)
  -- A position; a negative one counts from the end.
  | index (z : Int)
  deriving DecidableEq, Repr

structure KeyPath where
  head : String
  steps : List Step
  deriving DecidableEq, Repr

namespace KeyPath

def isNameChar (c : Char) : Bool :=
  let n := c.toNat
  (48 ≤ n && n ≤ 57) || (65 ≤ n && n ≤ 90) || (97 ≤ n && n ≤ 122) || c = ' ' || c = '_' || c = '-'

def name? (cs : List Char) : Option (String × List Char) :=
  match cs.takeWhile isNameChar with
  | [] => none
  | text => some (.ofList text, cs.dropWhile isNameChar)

def isPadding (c : Char) : Bool := c = ' ' || c = '\t' || c = '\n' || c = '\r'

def position? (cs : List Char) : Option Int :=
  let inner := ((cs.dropWhile isPadding).reverse.dropWhile isPadding).reverse
  match inner with
  | '+' :: _ => none
  | inner => (Integer.integer? inner).bind fun z =>
    if Integer.fitsInt64 z then some z else none

def steps? : Nat → List Char → Option (List Step)
  | _, [] => some []
  | 0, _ :: _ => none
  | fuel + 1, '.' :: cs => do
    let (name, rest) ← name? cs
    return .child name :: (← steps? fuel rest)
  | fuel + 1, '[' :: cs =>
    match cs.dropWhile (· ≠ ']') with
    | [] => none
    | _ :: rest => do
      let z ← position? (cs.takeWhile (· ≠ ']'))
      return .index z :: (← steps? fuel rest)
  | _ + 1, _ => none

def parse (key : String) : KeyPath :=
  let path := do
    let (head, rest) ← name? key.toList
    return KeyPath.mk head (← steps? rest.length rest)
  path.getD ⟨key, []⟩

end KeyPath

namespace Tree

def items : Tree → List Tree
  | list _ items => items
  | _ => []

def listOrigin : Tree → Option String
  | list origin _ => origin
  | _ => none

def position (z : Int) (length : Nat) : Nat := (if z < 0 then z + length else z).toNat

def setItem (t : Tree) (i : Nat) (new : Tree) : Tree :=
  let items := t.items
  list t.listOrigin ((items ++ List.replicate (i + 1 - items.length) absent).set i new)

def overlayAt (new : Tree) : List Step → Option Tree → Tree
  | [], below => overlay new below
  | .child key :: steps, below =>
    let below := below.getD absent
    below.setEntry key (overlayAt new steps (below.entry? key))
  | [.index z], below =>
    let below := below.getD absent
    below.setItem (position z below.items.length) new
  | .index z :: steps, below =>
    let below := below.getD absent
    let i := position z below.items.length
    below.setItem i (overlayAt new steps below.items[i]?)

def set (root : Tree) (key : String) (new : Tree) : Tree :=
  let path := KeyPath.parse key
  root.setEntry path.head (overlayAt new path.steps (root.entry? path.head))

def addSource (root : Tree) (entries : List (String × Tree)) : Tree :=
  entries.foldl (fun root (key, t) => root.set key t) root

end Tree

end ConsoleGateway.Settings
