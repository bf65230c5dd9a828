import ConsoleGateway.Toml.Value

namespace ConsoleGateway.Settings

inductive Leaf where
  | absent
  | integer (z : Int)
  | boolean (b : Bool)
  | float (f : Float)
  | string (s : String)

/-- Settings below one key. Leaves and lists know the source they come from; tables that have been
laid over each other come from none. -/
inductive Tree where
  | leaf (origin : Option String) (l : Leaf)
  | list (origin : Option String) (items : List Tree)
  | table (origin : Option String) (entries : List (String × Tree))

namespace Tree

def absent : Tree := leaf none .absent

def empty : Tree := table none []

def entry? (t : Tree) (key : String) : Option Tree :=
  match t with
  | table _ entries => entries.lookup key
  | _ => none

def putEntry (key : String) (t : Tree) : List (String × Tree) → List (String × Tree)
  | [] => [(key, t)]
  | (k, old) :: rest => if k = key then (key, t) :: rest else (k, old) :: putEntry key t rest

def setEntry (t : Tree) (key : String) (new : Tree) : Tree :=
  match t with
  | table origin entries => table origin (putEntry key new entries)
  | _ => table none [(key, new)]

mutual

/-- Lays a tree over what is there. A table adds its entries one by one, anything else replaces. -/
def overlay : Tree → Option Tree → Tree
  | table _ entries, below => overlayEntries entries (below.getD empty)
  | t, _ => t

def overlayEntries : List (String × Tree) → Tree → Tree
  | [], below => below
  | (key, t) :: rest, below =>
    overlayEntries rest (below.setEntry key (overlay t (below.entry? key)))

end

mutual

def ofToml (origin : String) : Toml.Value → Tree
  | .string s => leaf (some origin) (.string s)
  | .integer z => leaf (some origin) (.integer z)
  | .float f => leaf (some origin) (.float f)
  | .boolean b => leaf (some origin) (.boolean b)
  | .datetime text => leaf (some origin) (.string text)
  | .array items => list (some origin) (ofItems origin items)
  | .table entries => table (some origin) (ofEntries origin entries)

def ofItems (origin : String) : List Toml.Value → List Tree
  | [] => []
  | v :: vs => ofToml origin v :: ofItems origin vs

def ofEntries (origin : String) : List (String × Toml.Value) → List (String × Tree)
  | [] => []
  | (k, v) :: rest => (k, ofToml origin v) :: ofEntries origin rest

end

end Tree

end ConsoleGateway.Settings
