import ConsoleGateway.Proofs.Documented
import ConsoleGateway.Proofs.FileNames

namespace ConsoleGateway.Settings

variable {origin : String} {x : Setting}

namespace Tree

/-- A source lays trees over what there is, which have what the source gives for each setting. -/
def Lays (entries : List (String × Tree)) (given : Setting → Option Tree) : Prop :=
  ∃ layers : List Tree,
    (∀ root, addSource root entries = layers.foldr (fun t below => overlay t (some below)) root) ∧
    (∀ t ∈ layers, t.IsLayer) ∧
    ∀ x : Setting, layers.filterMap (·.at? x.path) = (given x).toList

theorem lays_nil : Lays [] fun _ => none := ⟨[], fun _ => rfl, nofun, fun _ => rfl⟩

theorem addSource_file {entries : List (String × Tree)}
    (names : ∀ entry ∈ entries, KeyPath.parse entry.1 = ⟨entry.1, []⟩) (root : Tree) :
    addSource root entries = overlayEntries entries root := by
  induction entries generalizing root with
  | nil => rw [overlayEntries]; rfl
  | cons entry entries ih =>
    obtain ⟨here, later⟩ := List.forall_mem_cons.1 names
    rw [overlayEntries, ← ih later]
    change addSource (root.set entry.1 entry.2) entries = _
    rw [set, here]
    rfl

theorem lays_file {entries : Toml.Table} (keyed : (Toml.Value.table entries).IsKeyed)
    (documented : (ofToml origin (.table entries)).Documented) :
    Lays (ofEntries origin entries) fun x => (ofToml origin (.table entries)).at? x.path := by
  refine ⟨[ofToml origin (.table entries)], fun root => ?_, ?_, fun x => ?_⟩
  · rw [addSource_file]
    · rw [List.foldr_cons, List.foldr_nil, ofToml, overlay]
      rfl
    · intro entry there
      obtain ⟨u, inner⟩ := Option.isSome_iff_exists.1
        (List.lookup_isSome_iff.2 ⟨entry, there, beq_self_eq_true entry.1⟩)
      rw [lookup_eq (some origin), ← ofToml] at inner
      exact Setting.parse_name ((documented _ _ inner).imp_right And.left)
  · exact List.forall_mem_singleton.2 (isLayer_ofToml keyed documented)
  · cases found : (ofToml origin (.table entries)).at? x.path <;> simp [found]

theorem lays_environment {entries : List (String × Tree)}
    (known : ∀ entry ∈ entries, ∃ x : Setting, entry.1 = x.key)
    (single : ∀ entry ∈ entries, entry.2.isTable = false)
    (apart : (entries.map Prod.fst).Nodup) : Lays entries fun x => entries.lookup x.key := by
  induction entries with
  | nil => exact lays_nil
  | cons entry entries ih =>
    obtain ⟨name, t⟩ := entry
    rw [List.map_cons, List.nodup_cons] at apart
    rw [List.forall_mem_cons] at known single
    obtain ⟨⟨x, same⟩, known⟩ := known
    obtain ⟨leaf, single⟩ := single
    obtain rfl : name = x.key := same
    obtain ⟨layers, lays, each, has⟩ := ih known single apart.2
    obtain ⟨head, rest, whole, names⟩ := x.parse_key
    refine ⟨layers ++ [nest x.path t], fun root => ?_, fun u listed => ?_, fun y => ?_⟩
    · rw [List.foldr_append, whole, List.foldr_cons, List.foldr_nil, ← set_eq names, ← lays]
      rfl
    · rcases List.mem_append.1 listed with there | there
      · exact each u there
      · cases List.mem_singleton.1 there
        exact isLayer_nest x leaf
    · rw [List.filterMap_append, has]
      change (entries.lookup y.key).toList ++ _ = (List.lookup y.key ((x.key, t) :: entries)).toList
      by_cases same : x = y
      · subst same
        rw [lookup_eq_none apart.1, List.lookup_cons_self, List.filterMap_cons, at?_nest_self]
        rfl
      · have other : (y.key == x.key) = false :=
          beq_eq_false_iff_ne.2 fun again => same (Setting.eq_of_key again.symm)
        rw [List.lookup_cons, other, List.filterMap_cons, at?_nest_of_ne same]
        exact List.append_nil _

end Tree

open ConsoleGateway.Settings.Tree (stack winner? Lays)

namespace Surroundings

/-- What a file has, if it is there and well-formed. -/
def tree? (s : Surroundings) (name : String) : Option Tree :=
  (s.file? name).bind fun content => (Toml.Table.ofText? content.toList).map fun entries =>
    .ofToml (s.shownName name) (.table entries)

/-- Files of some names that are well-formed as far as they are there, and an environment that
sets nothing twice, all of them with documented settings only. -/
structure IsProper (s : Surroundings) (names : List String) : Prop where
  files : ∀ name ∈ names, ∀ content, s.file? name = some content →
    ∃ t, s.tree? name = some t ∧ t.Documented
  known : ∀ entry ∈ environmentSettings s, ∃ x : Setting, entry.1 = x.key
  apart : ((environmentSettings s).map Prod.fst).Nodup

theorem isProper_of_checked {s : Surroundings} {names : List String}
    (files : ∀ name ∈ names, (s.file? name).isNone = true ∨
      (s.tree? name).any (Tree.documentedAt []) = true)
    (known : ∀ entry ∈ environmentSettings s, Setting.all.any (·.key = entry.1) = true)
    (apart : ((environmentSettings s).map Prod.fst).Nodup) : s.IsProper names where
  files name among content found := by
    rcases files name among with missing | documented
    · rw [found] at missing
      cases missing
    · obtain ⟨t, made, documented⟩ := (Option.any_eq_true _ _).1 documented
      exact ⟨t, made, Tree.documented_of_documentedAt documented⟩
  known entry there := by
    obtain ⟨x, -, same⟩ := List.any_eq_true.1 (known entry there)
    exact ⟨x, (of_decide_eq_true same).symm⟩
  apart := apart

/-- What a file gives for a setting, by the name before its extension. A name that ends in a slash
leaves nothing but the extension, and that is no file of settings. -/
def fileGives? (s : Surroundings) (dir stem : String) (x : Setting) : Option Tree :=
  if stem.toList.getLast? = some '/' then none
  else (s.tree? (joinName dir (stem ++ ".toml"))).bind (·.at? x.path)

def given (s : Surroundings) (dir mode : String) (x : Setting) : List Tree :=
  [(environmentSettings s).lookup x.key, s.fileGives? dir "local" x, s.fileGives? dir mode x,
    s.fileGives? dir "default" x].filterMap id

variable {s : Surroundings} {names : List String}

theorem lays_environmentSettings (proper : s.IsProper names) :
    Lays (environmentSettings s) fun x => (environmentSettings s).lookup x.key := by
  refine Tree.lays_environment proper.known (fun entry there => ?_) proper.apart
  obtain ⟨⟨name, value⟩, -, made⟩ := List.mem_filterMap.1 there
  obtain ⟨key, -, rfl⟩ := Option.map_eq_some_iff.1 made
  rfl

theorem lays_fileSettings (proper : s.IsProper names) (dir stem : String) (some : stem ≠ "")
    (among : joinName dir (stem ++ ".toml") ∈ names) :
    ∃ entries, fileSettings s (joinName dir (stem ++ ".toml")) = .ok entries ∧
      Lays entries (s.fileGives? dir stem) := by
  by_cases slash : stem.toList.getLast? = .some '/'
  · have bare := (hasExtension_joinName dir stem).not.2 fun h => h.2 slash
    have gives : s.fileGives? dir stem = fun _ => none := funext fun x => if_pos slash
    rw [fileSettings, if_neg bare, gives]
    exact ⟨[], rfl, Tree.lays_nil⟩
  · have extension := (hasExtension_joinName dir stem).2 ⟨some, slash⟩
    have gives : s.fileGives? dir stem =
        fun x => (s.tree? (joinName dir (stem ++ ".toml"))).bind (·.at? x.path) :=
      funext fun x => if_neg slash
    rw [fileSettings, if_pos extension, gives]
    cases found : s.file? (joinName dir (stem ++ ".toml")) with
    | none =>
      refine ⟨[], rfl, ?_⟩
      rw [tree?, found]
      exact Tree.lays_nil
    | some content =>
      obtain ⟨t, made, documented⟩ := proper.files _ among content found
      rw [made]
      rw [tree?, found, Option.bind_some] at made
      obtain ⟨entries, read, rfl⟩ := Option.map_eq_some_iff.1 made
      have keyed := Toml.Value.isKeyed_table.2 (Toml.Table.keyed_of_ofText? read)
      refine ⟨Tree.ofEntries _ entries, ?_, Tree.lays_file keyed documented⟩
      simp only [read]

end Surroundings

/-- What is made of what is given for a setting. -/
def Setting.ofGiven (x : Setting) : Option Tree → Except ConversionError x.Value
  | none => .ok (x.get {})
  | some t => x.convert t

theorem taken_eq (x : Setting) (o : Option Tree) : Setting.taken x.path x.convert (x.get {}) o =
    (x.ofGiven o).mapError fun e => x.path.foldr .under e := by
  cases o <;> rfl

theorem merge_eq {sources : List (List (String × Tree))} {given : List (Setting → Option Tree)}
    (lay : List.Forall₂ Lays sources given) : ∃ layers : List Tree,
      merge sources = stack layers ∧ (∀ t ∈ layers, t.IsLayer) ∧
      ∀ x : Setting, layers.filterMap (·.at? x.path) = given.reverse.filterMap (· x) := by
  suffices above : ∀ below : List Tree, ∃ layers : List Tree,
      sources.foldl Tree.addSource (stack below) = stack (layers ++ below) ∧
      (∀ t ∈ layers, t.IsLayer) ∧
      ∀ x : Setting, layers.filterMap (·.at? x.path) = given.reverse.filterMap (· x) by
    obtain ⟨layers, made, rest⟩ := above []
    exact ⟨layers, by rw [List.append_nil] at made; exact made, rest⟩
  induction lay with
  | nil => exact fun below => ⟨[], rfl, nofun, fun _ => rfl⟩
  | @cons source gives sources given lays _ ih =>
    intro below
    obtain ⟨lower, laid, each, has⟩ := lays
    obtain ⟨upper, made, each', has'⟩ := ih (lower ++ below)
    refine ⟨upper ++ lower, ?_, fun t there => ?_, fun x => ?_⟩
    · rw [List.append_assoc, ← made, List.foldl_cons, laid, stack, stack, List.foldr_append]
    · exact (List.mem_append.1 there).elim (each' t) (each t)
    · rw [List.filterMap_append, has', has, List.reverse_cons, List.filterMap_append,
        List.filterMap_cons]
      cases gives x <;> rfl

theorem config_stack {layers : List Tree} (each : ∀ t ∈ layers, t.IsLayer) :
    config (stack layers) = Setting.collect fun x => (x.ofGiven
      (winner? (layers.filterMap (·.at? x.path)))).mapError fun e => x.path.foldr .under e := by
  have tables : ∀ path ∈ Setting.sections, ∀ u, (stack layers).at? path = some u →
      u.isTable = true := fun path known u there =>
    Tree.isTable_at?_stack (fun t h => (each t h).opens path (.inr known))
      (fun t h => (each t h).tables path known) there
  rw [config_eq tables]
  congr 1
  funext x
  have nonempty : x.path ≠ [] := by cases x <;> nofun
  rw [Setting.ofTree, Tree.at?_stack nonempty (fun t h => (each t h).opens x.path (.inl ⟨x, rfl⟩))
    (fun t h => (each t h).bare x), taken_eq]

theorem loadFrom_eq {s : Surroundings} {dir mode : String} (named : mode ≠ "")
    (proper : s.IsProper (fileNames dir mode)) :
    loadFrom s dir mode = (Setting.collect fun x => (x.ofGiven
      (winner? (s.given dir mode x))).mapError fun e => x.path.foldr .under e).mapError
        .conversion := by
  have names : fileNames dir mode = [joinName dir ("default" ++ ".toml"),
      joinName dir (mode ++ ".toml"), joinName dir ("local" ++ ".toml")] := rfl
  have file := s.lays_fileSettings proper dir
  rw [names] at file
  obtain ⟨d, read₁, lays₁⟩ := file "default" (by decide) (by simp)
  obtain ⟨m, read₂, lays₂⟩ := file mode named (by simp)
  obtain ⟨l, read₃, lays₃⟩ := file "local" (by decide) (by simp)
  have lays₄ := s.lays_environmentSettings proper
  have read : layers s dir mode = .ok [d, m, l, environmentSettings s] := by
    rw [layers, names, List.mapM_cons, read₁, List.mapM_cons, read₂, List.mapM_cons, read₃]
    rfl
  obtain ⟨stacked, made, each, has⟩ :=
    merge_eq (.cons lays₁ (.cons lays₂ (.cons lays₃ (.cons lays₄ .nil))))
  have given (x : Setting) : stacked.filterMap (·.at? x.path) = s.given dir mode x := has x
  unfold loadFrom
  rw [read]
  change (config (merge _)).mapError _ = _
  rw [made, config_stack each]
  simp only [given]

/-- Each setting has what the topmost layer gives for it, as long as that is no empty table, and
its default if nothing is given. Loading fails exactly when this cannot be converted for some
setting, whatever lies below, and the error names the setting. -/
theorem loadFrom_layered {s : Surroundings} {dir mode : String} (named : mode ≠ "")
    (proper : s.IsProper (fileNames dir mode)) :
    (∀ c, loadFrom s dir mode = .ok c ↔
        ∀ x : Setting, x.ofGiven (winner? (s.given dir mode x)) = .ok (x.get c)) ∧
      (∀ e, loadFrom s dir mode = .error e → ∃ x t e', winner? (s.given dir mode x) = some t ∧
        x.convert t = .error e' ∧ e = .conversion (x.path.foldr .under e')) ∧
      (∀ x t e', winner? (s.given dir mode x) = some t → x.convert t = .error e' →
        ∃ e, loadFrom s dir mode = .error e) ∧
      ∀ s' c c', s'.IsProper (fileNames dir mode) → loadFrom s dir mode = .ok c →
        loadFrom s' dir mode = .ok c' →
          ∀ x, s'.given dir mode x = s.given dir mode x → x.get c' = x.get c := by
  have loads {s : Surroundings} (proper : s.IsProper (fileNames dir mode)) (c : Config) :
      loadFrom s dir mode = .ok c ↔
        ∀ x : Setting, x.ofGiven (winner? (s.given dir mode x)) = .ok (x.get c) := by
    simp only [loadFrom_eq named proper, mapError_eq_ok_iff, Setting.collect_eq_ok_iff]
  refine ⟨loads proper, fun e failed => ?_, fun x t e' wins failed => ?_,
    fun s' c c' proper' loaded loaded' x same => ?_⟩
  · rw [loadFrom_eq named proper] at failed
    obtain ⟨_, collected, rfl⟩ := mapError_eq_error_iff.1 failed
    obtain ⟨x, here⟩ := Setting.collect_eq_error collected
    obtain ⟨e', unconverted, rfl⟩ := mapError_eq_error_iff.1 here
    cases wins : winner? (s.given dir mode x) with
    | none =>
      rw [wins] at unconverted
      cases unconverted
    | some t =>
      rw [wins] at unconverted
      exact ⟨x, t, e', wins, unconverted, rfl⟩
  · cases loaded : loadFrom s dir mode with
    | error e => exact ⟨e, rfl⟩
    | ok c =>
      have converted := (loads proper c).1 loaded x
      rw [wins] at converted
      cases failed.symm.trans converted
  · have here := (loads proper c).1 loaded x
    have there := (loads proper' c').1 loaded' x
    rw [same, here] at there
    exact (Except.ok.inj there).symm

def staged : Surroundings :=
  { files := [
      ("config/default.toml", "log_level = \"warn\"\n[backend]\nbase_url = \"http://core\"\n"),
      ("config/staging.toml", "log_level = \"debug\"\n"),
      ("config/local.toml", "[backend]\ntimeout_secs = \"soon\"\n")]
    environment := [("APP__BACKEND__TIMEOUT_SECS", "5")] }

theorem loadFrom_layered_staged :
    let c : Config :=
      { logLevel := "debug", backend := { baseUrl := "http://core", timeoutSecs := 5 } }
    "staging" ≠ "" ∧ staged.IsProper (fileNames "config" "staging") ∧
      loadFrom staged "config" "staging" = .ok c ∧
      ∀ x : Setting, x.ofGiven (winner? (staged.given "config" "staging" x)) = .ok (x.get c) := by
  intro c
  have named : "staging" ≠ "" := by decide
  have proper : staged.IsProper (fileNames "config" "staging") :=
    Surroundings.isProper_of_checked (by decide +kernel) (by decide +kernel) (by decide +kernel)
  have loaded : loadFrom staged "config" "staging" = .ok c := by decide +kernel
  exact ⟨named, proper, loaded, ((loadFrom_layered named proper).1 c).1 loaded⟩

/-- Directories may have absolute names; messages name their files from the working directory on. -/
example :
    let found : Surroundings :=
      { files := [("/etc/console/local.toml", "[backend]\ntimeout_secs = \"soon\"\n")] }
    loadFrom found "/etc/console" "staging" = .error (.conversion
      (.mismatch (.string "soon") "an integer" (some "backend.timeout_secs")
        (some "../../etc/console/local.toml"))) := by
  decide +kernel

def emptied : Surroundings :=
  { files := [("config/default.toml", "log_level = \"warn\"\n"),
      ("config/local.toml", "log_level = \x7b\x7d\n")] }

def unnamed : Surroundings := { files := [("config/a/.toml", "log_level = \"debug\"\n")] }

/-- An empty table for a word does not hide the word below it, and a file with nothing before its
extension is not read. -/
theorem loadFrom_not_layered :
    (¬∀ (s : Surroundings) (dir mode : String), mode ≠ "" → s.IsProper (fileNames dir mode) →
      ∀ c, loadFrom s dir mode = .ok c →
        ∀ x : Setting, x.ofGiven (s.given dir mode x).head? = .ok (x.get c)) ∧
      unnamed.IsProper (fileNames "config" "a/") ∧ loadFrom unnamed "config" "a/" = .ok {} ∧
      Setting.logLevel.ofGiven ((unnamed.tree? (joinName "config" ("a/" ++ ".toml"))).bind
        (·.at? Setting.logLevel.path)) = .ok "debug" := by
  refine ⟨fun h => ?_, ?_, by decide +kernel, by decide +kernel⟩
  · have proper : emptied.IsProper (fileNames "config" "development") :=
      Surroundings.isProper_of_checked (by decide +kernel) (by decide +kernel) (by decide +kernel)
    have loaded : loadFrom emptied "config" "development" = .ok { logLevel := "warn" } := by
      decide +kernel
    have topmost := h emptied "config" "development" (by decide) proper _ loaded .logLevel
    exact absurd topmost (by decide +kernel)
  · exact
      Surroundings.isProper_of_checked (by decide +kernel) (by decide +kernel) (by decide +kernel)

end ConsoleGateway.Settings
