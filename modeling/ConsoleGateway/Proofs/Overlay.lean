import Mathlib.Data.List.Nodup
import ConsoleGateway.Settings.KeyPath

namespace ConsoleGateway.Settings.Tree

variable {t new root : Tree} {entries : List (String × Tree)} {key k : String}
  {path path' : List String}

def isTable : Tree → Bool
  | table _ _ => true
  | _ => false

def isEmpty : Tree → Bool
  | table _ [] => true
  | _ => false

def at? : Tree → List String → Option Tree
  | t, [] => some t
  | t, key :: path => (t.entry? key).bind (at? · path)

@[simp] theorem at?_nil (t : Tree) : t.at? [] = some t := by rw [at?]

theorem at?_cons (t : Tree) (key : String) (path : List String) :
    t.at? (key :: path) = (t.entry? key).bind (·.at? path) := by rw [at?]

theorem at?_singleton (t : Tree) (key : String) : t.at? [key] = t.entry? key := by
  rw [at?_cons]
  exact Option.bind_fun_some _

theorem at?_append (t : Tree) (path path' : List String) :
    t.at? (path ++ path') = (t.at? path).bind (·.at? path') := by
  induction path generalizing t with
  | nil => rw [List.nil_append, at?_nil, Option.bind_some]
  | cons key path ih =>
    rw [List.cons_append, at?_cons, at?_cons, Option.bind_assoc]
    exact Option.bind_congr fun t _ => ih t

theorem at?_empty (nonempty : path ≠ []) : empty.at? path = none := by
  cases path with
  | nil => exact absurd rfl nonempty
  | cons key path => rw [at?_cons]; rfl

def Opens : Tree → List String → Prop
  | _, [] => True
  | t, key :: path => ∃ origin entries, t = table origin entries ∧
    (entries.map Prod.fst).Nodup ∧ ∀ u, entries.lookup key = some u → Opens u path

def lay : Option Tree → Option Tree → Option Tree
  | none, below => below
  | some t, below => some (overlay t below)

theorem lookup_putEntry (key : String) (t : Tree) (entries : List (String × Tree)) (k : String) :
    (putEntry key t entries).lookup k = if k = key then some t else entries.lookup k := by
  induction entries with
  | nil => by_cases h : k = key <;> simp [putEntry, List.lookup_cons, h, beq_eq_false_iff_ne.2]
  | cons entry entries ih =>
    obtain ⟨k', old⟩ := entry
    by_cases same : k' = key
    · subst same
      by_cases h : k = k' <;> simp [putEntry, List.lookup_cons, h, beq_eq_false_iff_ne.2]
    · rw [putEntry, if_neg same, List.lookup_cons, List.lookup_cons, ih]
      by_cases h : k = k'
      · subst h
        simp [same]
      · simp [beq_eq_false_iff_ne.2 h]

@[simp] theorem entry?_setEntry (t : Tree) (key : String) (new : Tree) (k : String) :
    entry? (t.setEntry key new) k = if k = key then some new else t.entry? k := by
  cases t with
  | table origin entries => exact lookup_putEntry key new entries k
  | leaf origin l => exact lookup_putEntry key new [] k
  | list origin items => exact lookup_putEntry key new [] k

@[simp] theorem isTable_setEntry (t : Tree) (key : String) (new : Tree) :
    (t.setEntry key new).isTable = true := by
  cases t <;> rfl

theorem lookup_eq_none (missing : key ∉ entries.map Prod.fst) : entries.lookup key = none :=
  List.lookup_eq_none_iff.2 fun entry there =>
    bne_iff_ne.2 fun same => missing (List.mem_map.2 ⟨entry, there, same.symm⟩)

theorem entry?_overlayEntries (distinct : (entries.map Prod.fst).Nodup) (below : Tree)
    (k : String) :
    entry? (overlayEntries entries below) k = lay (entries.lookup k) (below.entry? k) := by
  induction entries generalizing below with
  | nil => rw [overlayEntries]; rfl
  | cons entry entries ih =>
    obtain ⟨key, t⟩ := entry
    rw [List.map_cons, List.nodup_cons] at distinct
    rw [overlayEntries, ih distinct.2, entry?_setEntry, List.lookup_cons]
    by_cases same : k = key
    · subst same
      rw [if_pos rfl, beq_self_eq_true, lookup_eq_none distinct.1]
      rfl
    · rw [if_neg same, beq_eq_false_iff_ne.2 same]

theorem isTable_overlayEntries {below : Tree} (table : below.isTable = true) :
    (overlayEntries entries below).isTable = true := by
  induction entries generalizing below with
  | nil => rw [overlayEntries]; exact table
  | cons entry entries ih =>
    rw [overlayEntries]
    exact ih (isTable_setEntry _ _ _)

theorem isTable_overlay (table : new.isTable = true) {below : Option Tree}
    (tables : ∀ t, below = some t → t.isTable = true) : (overlay new below).isTable = true := by
  cases new with
  | leaf origin l => cases table
  | list origin items => cases table
  | table origin entries =>
    rw [overlay]
    cases below with
    | none => exact isTable_overlayEntries rfl
    | some t => exact isTable_overlayEntries (tables t rfl)

theorem at?_overlay (opens : new.Opens path) (below : Option Tree) :
    (overlay new below).at? path = lay (new.at? path) (below.bind (·.at? path)) := by
  induction path generalizing new below with
  | nil => cases below <;> rfl
  | cons key path ih =>
    obtain ⟨origin, entries, rfl, distinct, inner⟩ := opens
    have under : ( entry? (below.getD empty) key).bind (·.at? path) =
        below.bind (·.at? (key :: path)) := by
      cases below with
      | none => rfl
      | some t => exact (at?_cons t key path).symm
    rw [overlay, at?_cons, at?_cons, entry?_overlayEntries distinct, ← under]
    change _ = lay ((entries.lookup key).bind _) _
    cases found : entries.lookup key with
    | none => rfl
    | some t => exact ih (inner t found) _

def nest : List String → Tree → Tree
  | [], t => t
  | key :: path, t => table none [(key, nest path t)]

theorem overlayAt_child (new : Tree) (path : List String) (below : Option Tree) :
    overlayAt new (path.map .child) below = overlay (nest path new) below := by
  induction path generalizing below with
  | nil => rfl
  | cons key path ih =>
    rw [List.map_cons, overlayAt, nest, overlay, overlayEntries, overlayEntries, ih]
    cases below <;> rfl

theorem set_eq {head : String} (names : KeyPath.parse key = ⟨head, path.map .child⟩)
    (root t : Tree) :
    root.set key t = overlay (nest (head :: path) t) (some root) := by
  rw [set, names]
  dsimp only
  rw [overlayAt_child, nest, overlay, overlayEntries, overlayEntries]
  rfl

theorem at?_nest_self (path : List String) (t : Tree) : (nest path t).at? path = some t := by
  induction path with
  | nil => rfl
  | cons key path ih =>
    rw [nest, at?_cons, entry?, List.lookup_cons_self, Option.bind_some, ih]

theorem entry?_nest (key : String) (path : List String) (t : Tree) (k : String) :
    entry? (nest (key :: path) t) k = if k = key then some (nest path t) else none := by
  by_cases same : k = key <;> simp [nest, entry?, List.lookup_cons, same, beq_eq_false_iff_ne.2]

theorem isTable_of_at?_nest (off : ¬path <+: path') (t : Tree) {u : Tree}
    (there : (nest path t).at? path' = some u) : path' <+: path ∧ u.isTable = true := by
  induction path generalizing path' with
  | nil => exact absurd List.nil_prefix off
  | cons key path ih =>
    cases path' with
    | nil =>
      cases there
      exact ⟨List.nil_prefix, rfl⟩
    | cons k path' =>
      rw [at?_cons, entry?_nest] at there
      by_cases same : k = key
      · subst same
        rw [if_pos rfl, Option.bind_some] at there
        obtain ⟨within, table⟩ := ih (fun h => off (List.cons_prefix_cons.2 ⟨rfl, h⟩)) there
        exact ⟨List.cons_prefix_cons.2 ⟨rfl, within⟩, table⟩
      · rw [if_neg same] at there
        cases there

theorem opens_nest (ends : path <+: path' → path = path') (t : Tree) :
    (nest path t).Opens path' := by
  induction path generalizing path' with
  | nil =>
    cases ends List.nil_prefix
    trivial
  | cons key path ih =>
    cases path' with
    | nil => trivial
    | cons k path' =>
      refine ⟨none, _, rfl, List.nodup_singleton _, fun u found => ?_⟩
      by_cases same : k = key
      · subst same
        cases (List.lookup_cons_self.symm.trans found)
        exact ih fun h => (List.cons.inj (ends (List.cons_prefix_cons.2 ⟨rfl, h⟩))).2
      · rw [List.lookup_cons, beq_eq_false_iff_ne.2 same] at found
        cases found

/-- What wins of all that is given, the topmost first. Empty tables add nothing to others. -/
def winner? (given : List Tree) : Option Tree :=
  (given.find? fun t => !t.isEmpty).or (given.head?.map fun _ => empty)

theorem winner?_cons (bare : t.isTable = true → t.isEmpty = true) (given : List Tree) :
    winner? (t :: given) = lay (some t) (winner? given) := by
  cases t with
  | leaf origin l => rfl
  | list origin items => rfl
  | table origin entries =>
    cases entries with
    | cons entry entries => cases bare rfl
    | nil =>
      have nothing : lay (some (table origin [])) (winner? given) =
          some ((winner? given).getD empty) := by
        rw [lay, overlay, overlayEntries]
      rw [nothing]
      change (given.find? _).or (some empty) = _
      unfold winner?
      cases given.find? fun t => !t.isEmpty with
      | some t => rfl
      | none => cases given <;> rfl

def stack (layers : List Tree) : Tree := layers.foldr (fun t below => overlay t (some below)) empty

theorem at?_stack {layers : List Tree} (nonempty : path ≠ [])
    (opens : ∀ t ∈ layers, t.Opens path)
    (bare : ∀ t ∈ layers, ∀ u, t.at? path = some u → u.isTable = true → u.isEmpty = true) :
    (stack layers).at? path = winner? (layers.filterMap (·.at? path)) := by
  induction layers with
  | nil => exact at?_empty nonempty
  | cons t layers ih =>
    rw [List.forall_mem_cons] at opens bare
    change (overlay t (some (stack layers))).at? path = _
    rw [at?_overlay opens.1, Option.bind_some, ih opens.2 bare.2]
    cases found : t.at? path with
    | none =>
      rw [List.filterMap_cons, found]
      rfl
    | some u =>
      rw [List.filterMap_cons, found]
      exact (winner?_cons (bare.1 u found) _).symm

theorem isTable_at?_stack {layers : List Tree} (opens : ∀ t ∈ layers, t.Opens path)
    (tables : ∀ t ∈ layers, ∀ u, t.at? path = some u → u.isTable = true) {u : Tree}
    (there : (stack layers).at? path = some u) : u.isTable = true := by
  induction layers generalizing u with
  | nil =>
    by_cases nonempty : path = []
    · subst nonempty
      cases there
      rfl
    · rw [show stack [] = empty from rfl, at?_empty nonempty] at there
      cases there
  | cons t layers ih =>
    rw [List.forall_mem_cons] at opens tables
    change (overlay t (some (stack layers))).at? path = _ at there
    rw [at?_overlay opens.1, Option.bind_some] at there
    cases found : t.at? path with
    | none =>
      rw [found] at there
      exact ih opens.2 tables.2 there
    | some v =>
      rw [found] at there
      cases there
      exact isTable_overlay (tables.1 v found) fun below => ih opens.2 tables.2

end ConsoleGateway.Settings.Tree
