import ConsoleGateway.Proofs.DistinctKeys
import ConsoleGateway.Proofs.SettingPaths
import ConsoleGateway.Settings.KeyPath

namespace ConsoleGateway.Settings

variable {t : Tree} {path : List String} {origin : String} {x y : Setting}

namespace Setting

def all : List Setting :=
  [serverAddr, logLevel, readOnly, baseUrl, sessionCookie, timeoutSecs, defaultLanding, ttlSecs,
    cleanupIntervalSecs, staticPath, staticIndex, enableCompression, maxAge, immutable,
    mustRevalidate]

theorem mem_all (x : Setting) : x ∈ all := by cases x <;> decide

theorem eq_of_path_prefix (below : x.path <+: y.path) : x = y :=
  have each : ∀ x ∈ all, ∀ y ∈ all, x.path <+: y.path → x = y := by decide +kernel
  each x x.mem_all y y.mem_all below

theorem not_path_prefix_section (known : path ∈ sections) : ¬x.path <+: path :=
  have each : ∀ x ∈ all, ∀ path ∈ sections, ¬x.path <+: path := by decide +kernel
  each x x.mem_all path known

theorem eq_of_key (same : x.key = y.key) : x = y :=
  have each : ∀ x ∈ all, ∀ y ∈ all, x.key = y.key → x = y := by decide +kernel
  each x x.mem_all y y.mem_all same

theorem parse_key (x : Setting) :
    ∃ head rest, x.path = head :: rest ∧ KeyPath.parse x.key = ⟨head, rest.map .child⟩ := by
  cases x <;> exact ⟨_, _, rfl, by decide +kernel⟩

theorem parse_name {name : String}
    (known : (∃ x : Setting, [name] = x.path) ∨ [name] ∈ sections) :
    KeyPath.parse name = ⟨name, []⟩ := by
  have each : ∀ path ∈ all.map Setting.path ++ sections, ∀ name ∈ path, path = [name] →
      KeyPath.parse name = ⟨name, []⟩ := by decide +kernel
  refine each [name] ?_ name (List.mem_singleton_self _) rfl
  rcases known with ⟨x, same⟩ | known
  · rw [same]
    exact List.mem_append_left _ (List.mem_map_of_mem x.mem_all)
  · exact List.mem_append_right _ known

end Setting

def Tree.Documented (t : Tree) : Prop :=
  ∀ path u, t.at? path = some u →
    (∃ x : Setting, path = x.path) ∨ path ∈ Setting.sections ∧ u.isTable = true

namespace Tree

mutual

def documentedAt (path : List String) : Tree → Bool
  | table _ entries =>
    (Setting.all.any (·.path = path) || path ∈ Setting.sections) && documentedEntries path entries
  | _ => Setting.all.any (·.path = path)

def documentedEntries (path : List String) : List (String × Tree) → Bool
  | [] => true
  | (key, t) :: rest => documentedAt (path ++ [key]) t && documentedEntries path rest

end

theorem documentedAt_of_lookup {entries : List (String × Tree)} {key : String}
    (documented : documentedEntries path entries = true) (found : entries.lookup key = some t) :
    documentedAt (path ++ [key]) t = true := by
  induction entries with
  | nil => cases found
  | cons entry entries ih =>
    rw [documentedEntries, Bool.and_eq_true] at documented
    by_cases same : key = entry.1
    · subst same
      cases List.lookup_cons_self.symm.trans found
      exact documented.1
    · rw [List.lookup_cons, beq_eq_false_iff_ne.2 same] at found
      exact ih documented.2 found

theorem documented_of_documentedAt (documented : documentedAt [] t = true) : t.Documented := by
  have named {path} (known : Setting.all.any (·.path = path) = true) :
      ∃ x : Setting, path = x.path := by
    obtain ⟨x, -, same⟩ := List.any_eq_true.1 known
    exact ⟨x, (of_decide_eq_true same).symm⟩
  suffices below : ∀ path' path t u, documentedAt path t = true → t.at? path' = some u →
      (∃ x : Setting, path ++ path' = x.path) ∨
        path ++ path' ∈ Setting.sections ∧ u.isTable = true from
    fun path u there => below path [] t u documented there
  intro path'
  induction path' with
  | nil =>
    intro path t u documented there
    cases there
    rw [List.append_nil]
    cases t with
    | leaf origin l => exact .inl (named documented)
    | list origin items => exact .inl (named documented)
    | table origin entries =>
      rw [documentedAt, Bool.and_eq_true, Bool.or_eq_true] at documented
      exact documented.1.imp named fun known => ⟨of_decide_eq_true known, rfl⟩
  | cons key path' ih =>
    intro path t u documented there
    rw [at?_cons] at there
    obtain ⟨v, found, below⟩ := Option.bind_eq_some_iff.1 there
    cases t with
    | leaf origin l => cases found
    | list origin items => cases found
    | table origin entries =>
      rw [documentedAt, Bool.and_eq_true] at documented
      have := ih (path ++ [key]) v u (documentedAt_of_lookup documented.2 found) below
      rwa [List.append_assoc] at this

structure IsLayer (t : Tree) : Prop where
  opens : ∀ path, (∃ x : Setting, path = x.path) ∨ path ∈ Setting.sections → t.Opens path
  bare : ∀ x : Setting, ∀ u, t.at? x.path = some u → u.isTable = true → u.isEmpty = true
  tables : ∀ path ∈ Setting.sections, ∀ u, t.at? path = some u → u.isTable = true

theorem at?_nest_of_ne (other : x ≠ y) (t : Tree) : (nest x.path t).at? y.path = none := by
  have off {x y : Setting} (other : x ≠ y) : ¬x.path <+: y.path :=
    fun below => other (Setting.eq_of_path_prefix below)
  rw [Option.eq_none_iff_forall_ne_some]
  exact fun u there => off (Ne.symm other) (isTable_of_at?_nest (off other) t there).1

theorem isLayer_nest (x : Setting) (other : t.isTable = false) : (nest x.path t).IsLayer where
  opens path known := by
    refine opens_nest (fun below => ?_) t
    rcases known with ⟨y, rfl⟩ | known
    · rw [Setting.eq_of_path_prefix below]
    · exact absurd below (Setting.not_path_prefix_section known)
  bare y u there table := by
    by_cases same : x = y
    · subst same
      rw [at?_nest_self] at there
      cases there
      rw [other] at table
      cases table
    · rw [at?_nest_of_ne same] at there
      cases there
  tables path known u there :=
    (isTable_of_at?_nest (Setting.not_path_prefix_section known) t there).2

theorem lookup_ofEntries (origin : String) (entries : Toml.Table) (key : String) :
    (ofEntries origin entries).lookup key = (entries.lookup key).map (ofToml origin) := by
  induction entries with
  | nil => rfl
  | cons entry entries ih =>
    rw [ofEntries, List.lookup_cons, List.lookup_cons]
    split
    · rfl
    · exact ih

theorem keys_ofEntries (origin : String) (entries : Toml.Table) :
    (ofEntries origin entries).map Prod.fst = entries.map Prod.fst := by
  induction entries with
  | nil => rfl
  | cons entry entries ih => rw [ofEntries, List.map_cons, List.map_cons, ih]

theorem opens_ofToml {v : Toml.Value} (keyed : v.IsKeyed)
    (tables : ∀ path' u, path' <+: path → path' ≠ path → (ofToml origin v).at? path' = some u →
      u.isTable = true) : (ofToml origin v).Opens path := by
  induction path generalizing v with
  | nil => trivial
  | cons key path ih =>
    have table := tables [] _ List.nil_prefix (by simp) (at?_nil _)
    cases keyed with
    | single other => cases v <;> simp_all [ofToml, isTable, Toml.Value.isTable]
    | @table entries distinct each =>
      refine ⟨some origin, _, by rw [ofToml], (keys_ofEntries origin entries).symm ▸ distinct, ?_⟩
      intro u found
      rw [lookup_ofEntries] at found
      obtain ⟨v, there, rfl⟩ := Option.map_eq_some_iff.1 found
      obtain ⟨before, after, split, -⟩ := List.lookup_eq_some_iff.1 there
      have keyed : v.IsKeyed := each key v (by simp [split])
      refine ih keyed fun path' u below other found' => ?_
      have shorter : key :: path' <+: key :: path := List.cons_prefix_cons.2 ⟨rfl, below⟩
      refine tables (key :: path') u shorter (by simpa using other) ?_
      rw [at?_cons, ofToml, entry?, lookup_ofEntries, found, Option.bind_some, found']

theorem isLayer_ofToml {v : Toml.Value} (keyed : v.IsKeyed)
    (documented : (ofToml origin v).Documented) : (ofToml origin v).IsLayer where
  opens path known := by
    refine opens_ofToml keyed fun path' u below other there => ?_
    rcases documented path' u there with ⟨y, rfl⟩ | ⟨-, table⟩
    · rcases known with ⟨x, rfl⟩ | known
      · exact absurd (Setting.eq_of_path_prefix below ▸ rfl) other
      · exact absurd below (Setting.not_path_prefix_section known)
    · exact table
  bare x u there table := by
    cases u with
    | leaf origin l => cases table
    | list origin items => cases table
    | table origin' entries =>
      cases entries with
      | nil => rfl
      | cons entry entries =>
        have inner : (ofToml origin v).at? (x.path ++ [entry.1]) = some entry.2 := by
          rw [at?_append, there, Option.bind_some, at?_singleton]
          exact List.lookup_cons_self
        rcases documented _ _ inner with ⟨y, same⟩ | ⟨known, -⟩
        · have := Setting.eq_of_path_prefix (same ▸ List.prefix_append x.path [entry.1])
          rw [this] at same
          simp at same
        · exact absurd (List.prefix_append _ _) (Setting.not_path_prefix_section known)
  tables path known u there := by
    rcases documented path u there with ⟨x, rfl⟩ | ⟨-, table⟩
    · exact absurd List.prefix_rfl (Setting.not_path_prefix_section known)
    · exact table

end Tree

end ConsoleGateway.Settings
