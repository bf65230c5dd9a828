import Mathlib.Control.Monad.Basic
import ConsoleGateway.Proofs.Overlay
import ConsoleGateway.Settings.Convert

namespace ConsoleGateway.Settings

theorem bind_eq_ok_iff {x : Except ε α} {f : α → Except ε β} {b : β} :
    (x >>= f) = .ok b ↔ ∃ a, x = .ok a ∧ f a = .ok b := by
  cases x with
  | error e => exact ⟨nofun, nofun⟩
  | ok a => exact ⟨fun h => ⟨a, rfl, h⟩, fun ⟨_, same, h⟩ => Except.ok.inj same ▸ h⟩

theorem bind_eq_error_iff {x : Except ε α} {f : α → Except ε β} :
    (x >>= f) = .error e ↔ x = .error e ∨ ∃ a, x = .ok a ∧ f a = .error e := by
  cases x with
  | error e' =>
    refine ⟨fun h => .inl ?_, fun h => h.elim (fun same => ?_) nofun⟩
    · cases h
      rfl
    · cases same
      rfl
  | ok a => exact ⟨fun h => .inr ⟨a, rfl, h⟩, fun h => h.elim nofun fun ⟨_, same, h⟩ =>
      Except.ok.inj same ▸ h⟩

theorem mapError_bind (x : Except ε α) (f : α → Except ε β) (g : ε → ε') :
    (x >>= f).mapError g = x.mapError g >>= fun a => (f a).mapError g := by
  cases x <;> rfl

theorem mapError_eq_ok_iff {x : Except ε α} {g : ε → ε'} {a : α} :
    x.mapError g = .ok a ↔ x = .ok a := by
  cases x with
  | error e => exact ⟨nofun, nofun⟩
  | ok b => exact ⟨fun h => congrArg _ (Except.ok.inj h), fun h => congrArg _ (Except.ok.inj h)⟩

theorem mapError_eq_error_iff {x : Except ε α} {g : ε → ε'} {e : ε'} :
    x.mapError g = .error e ↔ ∃ e', x = .error e' ∧ g e' = e := by
  cases x with
  | error e' =>
    exact ⟨fun h => ⟨e', rfl, Except.error.inj h⟩,
      fun ⟨_, same, h⟩ => congrArg _ (Except.error.inj same ▸ h)⟩
  | ok a => exact ⟨nofun, nofun⟩

inductive Setting where
  | serverAddr
  | logLevel
  | readOnly
  | baseUrl
  | sessionCookie
  | timeoutSecs
  | defaultLanding
  | ttlSecs
  | cleanupIntervalSecs
  | staticPath
  | staticIndex
  | enableCompression
  | maxAge
  | immutable
  | mustRevalidate
  deriving DecidableEq, Repr

namespace Setting

@[reducible] def Value : Setting → Type
  | readOnly | enableCompression | immutable | mustRevalidate => Bool
  | timeoutSecs | cleanupIntervalSecs => UInt64
  | ttlSecs => Int64
  | maxAge => UInt32
  | serverAddr | logLevel | baseUrl | sessionCookie | defaultLanding | staticPath
  | staticIndex => String

def path : Setting → List String
  | serverAddr => ["server_addr"]
  | logLevel => ["log_level"]
  | readOnly => ["read_only"]
  | baseUrl => ["backend", "base_url"]
  | sessionCookie => ["backend", "session_cookie"]
  | timeoutSecs => ["backend", "timeout_secs"]
  | defaultLanding => ["routes", "default_landing"]
  | ttlSecs => ["session", "ttl_secs"]
  | cleanupIntervalSecs => ["session", "cleanup_interval_secs"]
  | staticPath => ["static_files", "path"]
  | staticIndex => ["static_files", "index"]
  | enableCompression => ["static_files", "enable_compression"]
  | maxAge => ["static_files", "cache", "max_age"]
  | immutable => ["static_files", "cache", "immutable"]
  | mustRevalidate => ["static_files", "cache", "must_revalidate"]

def key (x : Setting) : String := ".".intercalate x.path

def sections : List (List String) :=
  [[], ["backend"], ["routes"], ["session"], ["static_files"], ["static_files", "cache"]]

def convert : (x : Setting) → Conversion x.Value
  | readOnly | enableCompression | immutable | mustRevalidate => boolean
  | timeoutSecs | cleanupIntervalSecs => uint64
  | ttlSecs => int64
  | maxAge => uint32
  | serverAddr | logLevel | baseUrl | sessionCookie | defaultLanding | staticPath
  | staticIndex => string

def get : (x : Setting) → Config → x.Value
  | serverAddr, c => c.serverAddr
  | logLevel, c => c.logLevel
  | readOnly, c => c.readOnly
  | baseUrl, c => c.backend.baseUrl
  | sessionCookie, c => c.backend.sessionCookie
  | timeoutSecs, c => c.backend.timeoutSecs
  | defaultLanding, c => c.routes.defaultLanding
  | ttlSecs, c => c.session.ttlSecs
  | cleanupIntervalSecs, c => c.session.cleanupIntervalSecs
  | staticPath, c => c.staticFiles.path
  | staticIndex, c => c.staticFiles.index
  | enableCompression, c => c.staticFiles.enableCompression
  | maxAge, c => c.staticFiles.cache.maxAge
  | immutable, c => c.staticFiles.cache.immutable
  | mustRevalidate, c => c.staticFiles.cache.mustRevalidate

def collect (read : (x : Setting) → Except ε x.Value) : Except ε Config := do
  return {
    serverAddr := ← read serverAddr
    logLevel := ← read logLevel
    readOnly := ← read readOnly
    backend := {
      baseUrl := ← read baseUrl
      sessionCookie := ← read sessionCookie
      timeoutSecs := ← read timeoutSecs }
    routes := { defaultLanding := ← read defaultLanding }
    session := {
      ttlSecs := ← read ttlSecs
      cleanupIntervalSecs := ← read cleanupIntervalSecs }
    staticFiles := {
      path := ← read staticPath
      index := ← read staticIndex
      enableCompression := ← read enableCompression
      cache := {
        maxAge := ← read maxAge
        immutable := ← read immutable
        mustRevalidate := ← read mustRevalidate } } }

variable {read : (x : Setting) → Except ε x.Value} {c : Config} {e : ε}

theorem collect_eq_ok_iff : collect read = .ok c ↔ ∀ x, read x = .ok (x.get c) := by
  constructor
  · intro made
    simp only [collect, bind_eq_ok_iff] at made
    obtain ⟨_, h₁, _, h₂, _, h₃, _, h₄, _, h₅, _, h₆, _, h₇, _, h₈, _, h₉, _, h₁₀, _, h₁₁, _, h₁₂,
      _, h₁₃, _, h₁₄, _, h₁₅, same⟩ := made
    cases same
    intro x
    cases x <;> assumption
  · intro each
    simp only [collect, each]
    rfl

theorem collect_eq_error (failed : collect read = .error e) : ∃ x, read x = .error e := by
  iterate 15
    obtain here | ⟨_, -, failed⟩ := bind_eq_error_iff.1 failed
    · exact ⟨_, here⟩
  cases failed

def taken (path : List String) (convert : Conversion α) (default : α) :
    Option Tree → Except ConversionError α
  | none => .ok default
  | some t => (convert t).mapError fun e => path.foldr .under e

end Setting

open Setting

variable {entries : List (String × Tree)} {t : Tree} {o : Option Tree}

theorem mapError_taken (path path' : List String) (convert : Conversion α) (default : α)
    (o : Option Tree) :
    (taken path' convert default o).mapError (fun e => path.foldr .under e) =
      taken (path ++ path') convert default o := by
  cases o with
  | none => rfl
  | some t =>
    simp only [taken, List.foldr_append]
    cases convert t <;> rfl

namespace Section

@[simp] theorem bind_ofTree (title : String) (origin : Option String)
    (entries : List (String × Tree)) (rest : Section → Except ConversionError α) :
    (ofTree title (.table origin entries) >>= rest) = rest (named entries) := rfl

@[simp] theorem get_named (i : Nat) (name : String) (convert : Conversion α) (default : α) :
    (named entries).get i name convert default =
      taken [name] convert default (entries.lookup name) := by
  rw [get]
  cases entries.lookup name <;> rfl

end Section

def Setting.ofTree (t : Tree) (x : Setting) : Except ConversionError x.Value :=
  taken x.path x.convert (x.get {}) (t.at? x.path)

theorem lookup_eq (origin : Option String) (entries : List (String × Tree)) (name : String) :
    entries.lookup name = (Tree.table origin entries).at? [name] :=
  (Tree.at?_singleton (.table origin entries) name).symm

theorem taken_section {path : List String} (table : ∀ u, t.at? path = some u → u.isTable = true)
    {convert : Conversion α} {default : α} (whole : convert .empty = .ok default) :
    ∃ origin entries,
    taken path convert default (t.at? path) =
      (convert (.table origin entries)).mapError (fun e => path.foldr .under e) ∧
    ∀ name, entries.lookup name = t.at? (path ++ [name]) := by
  have fields (name : String) :
      t.at? (path ++ [name]) = (t.at? path).bind fun u => u.entry? name := by
    rw [Tree.at?_append]
    exact Option.bind_congr fun u _ => u.at?_singleton name
  simp only [fields]
  cases found : t.at? path with
  | none =>
    refine ⟨none, [], ?_, fun name => rfl⟩
    change _ = (convert .empty).mapError _
    rw [whole]
    rfl
  | some u =>
    cases u with
    | leaf origin l => cases table _ found
    | list origin items => cases table _ found
    | table origin entries => exact ⟨origin, entries, rfl, fun name => rfl⟩

theorem taken_backendConfig (table : ∀ u, t.at? ["backend"] = some u → u.isTable = true) :
    taken ["backend"] backendConfig {} (t.at? ["backend"]) = do
      return {
        baseUrl := ← ofTree t baseUrl
        sessionCookie := ← ofTree t sessionCookie
        timeoutSecs := ← ofTree t timeoutSecs } := by
  have whole : backendConfig .empty = .ok {} := rfl
  obtain ⟨origin, entries, same, fields⟩ := taken_section table whole
  simp only [same, backendConfig, Section.bind_ofTree, Section.get_named, mapError_bind,
    mapError_taken, fields]
  rfl

theorem taken_routesConfig (table : ∀ u, t.at? ["routes"] = some u → u.isTable = true) :
    taken ["routes"] routesConfig {} (t.at? ["routes"]) = do
      return { defaultLanding := ← ofTree t defaultLanding } := by
  have whole : routesConfig .empty = .ok {} := rfl
  obtain ⟨origin, entries, same, fields⟩ := taken_section table whole
  simp only [same, routesConfig, Section.bind_ofTree, Section.get_named, mapError_bind,
    mapError_taken, fields]
  rfl

theorem taken_sessionConfig (table : ∀ u, t.at? ["session"] = some u → u.isTable = true) :
    taken ["session"] sessionConfig {} (t.at? ["session"]) = do
      return {
        ttlSecs := ← ofTree t ttlSecs
        cleanupIntervalSecs := ← ofTree t cleanupIntervalSecs } := by
  have whole : sessionConfig .empty = .ok {} := rfl
  obtain ⟨origin, entries, same, fields⟩ := taken_section table whole
  simp only [same, sessionConfig, Section.bind_ofTree, Section.get_named, mapError_bind,
    mapError_taken, fields]
  rfl

theorem taken_cacheConfig
    (table : ∀ u, t.at? ["static_files", "cache"] = some u → u.isTable = true) :
    taken ["static_files", "cache"] cacheConfig {} (t.at? ["static_files", "cache"]) = do
      return {
        maxAge := ← ofTree t maxAge
        immutable := ← ofTree t immutable
        mustRevalidate := ← ofTree t mustRevalidate } := by
  have whole : cacheConfig .empty = .ok {} := rfl
  obtain ⟨origin, entries, same, fields⟩ := taken_section table whole
  simp only [same, cacheConfig, Section.bind_ofTree, Section.get_named, mapError_bind,
    mapError_taken, fields]
  rfl

theorem taken_staticFilesConfig
    (table : ∀ u, t.at? ["static_files"] = some u → u.isTable = true)
    (table' : ∀ u, t.at? ["static_files", "cache"] = some u → u.isTable = true) :
    taken ["static_files"] staticFilesConfig {} (t.at? ["static_files"]) = do
      return {
        path := ← ofTree t staticPath
        index := ← ofTree t staticIndex
        enableCompression := ← ofTree t enableCompression
        cache := {
          maxAge := ← ofTree t maxAge
          immutable := ← ofTree t immutable
          mustRevalidate := ← ofTree t mustRevalidate } } := by
  have whole : staticFilesConfig .empty = .ok {} := rfl
  obtain ⟨origin, entries, same, fields⟩ := taken_section table whole
  simp only [same, staticFilesConfig, Section.bind_ofTree, Section.get_named, mapError_bind,
    mapError_taken, fields, List.cons_append, List.nil_append, taken_cacheConfig table', bind_assoc,
    pure_bind]
  rfl

theorem config_eq (tables : ∀ path ∈ sections, ∀ u, t.at? path = some u → u.isTable = true) :
    config t = collect (ofTree t) := by
  cases t with
  | leaf origin l => cases tables [] (by decide) _ rfl
  | list origin items => cases tables [] (by decide) _ rfl
  | table origin entries =>
    simp only [config, Section.bind_ofTree, Section.get_named, lookup_eq origin,
      taken_backendConfig (tables _ (by decide)), taken_routesConfig (tables _ (by decide)),
      taken_sessionConfig (tables _ (by decide)),
      taken_staticFilesConfig (tables _ (by decide)) (tables _ (by decide)), bind_assoc, pure_bind]
    rfl

end ConsoleGateway.Settings
