namespace ConsoleGateway.Toml

inductive Value where
  | string (s : String)
  | integer (z : Int)
  | float (f : Float)
  | boolean (b : Bool)
  -- A point in time, in the form in which it is shown.
  | datetime (text : String)
  | array (items : List Value)
  | table (entries : List (String × Value))

abbrev Table : Type := List (String × Value)

inductive Branch where
  | leaf (v : Value)
  -- A table that only keys with dots have made so far, and that they may add to.
  | dotted (entries : List (String × Branch))

namespace Branch

mutual

def toValue : Branch → Value
  | leaf v => v
  | dotted entries => .table (toTable entries)

def toTable : List (String × Branch) → Table
  | [] => []
  | (k, b) :: rest => (k, toValue b) :: toTable rest

end

def alter (key : String) (change : Option β → Option β) :
    List (String × β) → Option (List (String × β))
  | [] => (change none).map fun b => [(key, b)]
  | (k, b) :: rest =>
    if k = key then (change (some b)).map fun b => (k, b) :: rest
    else (alter key change rest).map ((k, b) :: ·)

def add (v : Value) : List String → List (String × Branch) → Option (List (String × Branch))
  | [], _ => none
  | [key], entries =>
    alter key (fun
      | none => some (leaf v)
      | some _ => none) entries
  | key :: path, entries =>
    alter key (fun
      | none => (add v path []).map dotted
      | some (dotted inner) => (add v path inner).map dotted
      | some (leaf _) => none) entries

end Branch

inductive Node where
  | value (v : Value)
  -- A table of headers; `headed` once a header has named the table itself.
  | table (headed : Bool) (entries : List (String × Node))
  -- The tables that a doubled header has made, the last one apart.
  | tables (done : List (List (String × Node))) (last : List (String × Node))

namespace Node

mutual

def toValue : Node → Value
  | value v => v
  | table _ entries => .table (toTable entries)
  | tables done last => .array (toTables done ++ [.table (toTable last)])

def toTable : List (String × Node) → Table
  | [] => []
  | (k, n) :: rest => (k, toValue n) :: toTable rest

def toTables : List (List (String × Node)) → List Value
  | [] => []
  | entries :: rest => .table (toTable entries) :: toTables rest

end

def ofTable (t : Table) : List (String × Node) := t.map fun (k, v) => (k, value v)

def join (old new : List (String × Node)) : Option (List (String × Node)) :=
  if new.any fun (k, _) => (old.lookup k).isSome then none else some (old ++ new)

def settle (doubled : Bool) (new : List (String × Node)) : Option Node → Option Node
  | none => some (if doubled then tables [] new else table true new)
  | some (table false old) => if doubled then none else (join old new).map (table true)
  | some (tables done last) => if doubled then some (tables (done ++ [last]) new) else none
  | some _ => none

def place (doubled : Bool) (new : List (String × Node)) :
    List String → List (String × Node) → Option (List (String × Node))
  | [], _ => none
  | [key], entries => Branch.alter key (settle doubled new) entries
  | key :: path, entries =>
    Branch.alter key (fun
      | none => (place doubled new path []).map (table false)
      | some (table headed old) => (place doubled new path old).map (table headed)
      | some (tables done last) => (place doubled new path last).map (tables done)
      | some (value _) => none) entries

end Node

end ConsoleGateway.Toml
