import ConsoleGateway.Gateway.Serve
import ConsoleGateway.Proofs.Accounts
import ConsoleGateway.Proofs.Registry

namespace ConsoleGateway

open Journal

abbrev Chronicle := List (ContextId × Entry)

namespace Chronicle

def journal (chronicle : Chronicle) (id : ContextId) : List Entry :=
  (chronicle.filter (·.1 = id)).map Prod.snd

def Covers (lists : Int64 → Option (List ProjectMember)) (chronicle : Chronicle)
    (sessions : ContextId → Session) : Prop :=
  ∀ id, Justifies lists (chronicle.journal id) (sessions id) ∧
    Lawful lists (chronicle.journal id)

variable {lists : Int64 → Option (List ProjectMember)} {chronicle : Chronicle}
  {sessions sessions' : ContextId → Session} {id : ContextId} {entries : List Entry}

theorem journal_append_self :
    journal (chronicle ++ entries.map (id, ·)) id = chronicle.journal id ++ entries := by
  simp [journal, List.filter_map, Function.comp_def]

theorem journal_append_other {other : ContextId} (apart : other ≠ id) :
    journal (chronicle ++ entries.map (id, ·)) other = chronicle.journal other := by
  simp [journal, List.filter_map, Function.comp_def, apart.symm]

theorem covers_nil : Covers lists [] fun _ => {} := fun _ => ⟨.empty, lawful_nil⟩

theorem Covers.write (covers : chronicle.Covers lists sessions) {s : Session}
    (written : ∀ other, sessions' other = if id = other then s else sessions other)
    (justified : Justifies lists (chronicle.journal id ++ entries) s)
    (lawful : Lawful lists (chronicle.journal id ++ entries)) :
    Covers lists (chronicle ++ entries.map (id, ·)) sessions' := by
  intro other
  rw [written]
  by_cases same : id = other
  · rw [if_pos same, ← same, journal_append_self]
    exact ⟨justified, lawful⟩
  · rw [if_neg same, journal_append_other (Ne.symm same)]
    exact covers other

end Chronicle

namespace GatewayState

variable (config : Config) (now : Int) (cookie : Option String) (mode : NavigationMode)
  (target : String) (state : GatewayState MemoryBackend)

def visited : GatewayState MemoryBackend :=
  let found := state.contextFor now cookie
  (found.2.runOn (fun _ => MemoryBackend.handle) found.1 (mode.flow (.ofConfig config) target)).2

def visitEntries : List Entry :=
  let found := state.contextFor now cookie
  let request : NavigationRequest := ⟨.ofConfig config, mode, target⟩
  request.flow.journal request MemoryBackend.handle (found.2.registry.session found.1)
    found.2.backend

def forgotten : List ContextId :=
  match cookie with
  | some value => if endsSession target then (state.registry.find? value).toList else []
  | none => []

def navigationEntries : Chronicle :=
  let left := state.visited config now cookie mode target
  (state.visitEntries config now cookie mode target).map ((state.contextFor now cookie).1, ·) ++
    (left.forgotten cookie target).map fun id => (id, .left (left.registry.session id).clear)

def requestEntries (r : Request) : Chronicle :=
  let cookie := r.session? config
  match Endpoint.ofPath r.path.toList with
  | .apiNavigation =>
    match r.navigationTarget with
    | .error _ => []
    | .ok target => state.navigationEntries config now cookie .navigate target
  | .consolePage => state.navigationEntries config now cookie .load r.target
  | _ => []

variable {state} {chronicle : Chronicle}

theorem navigate_visited :
    (state.navigate config (fun _ => MemoryBackend.handle) now cookie mode target).2 =
      let left := state.visited config now cookie mode target
      match cookie with
      | some value => if endsSession target then left.forget value else left
      | none => left := by
  cases cookie <;> rfl

theorem covers_visited (covers : chronicle.Covers state.backend.listed state.registry.session) :
    let left := state.visited config now cookie mode target
    let entries := state.visitEntries config now cookie mode target
    left.backend.listed = state.backend.listed ∧
      (chronicle ++ entries.map ((state.contextFor now cookie).1, ·)).Covers state.backend.listed
        left.registry.session := by
  intro left entries
  let request : NavigationRequest := ⟨.ofConfig config, mode, target⟩
  let id := (state.contextFor now cookie).1
  let registry := (state.contextFor now cookie).2.registry
  let r := (mode.flow (.ofConfig config) target).run MemoryBackend.handle (registry.session id)
    state.backend
  have found (other : ContextId) : registry.session other = state.registry.session other :=
    SessionRegistry.session_contextFor state.registry now other cookie
  have written (other : ContextId) : left.registry.session other =
      if id = other then r.session else state.registry.session other := by
    have inside : id.number < registry.contexts.length :=
      SessionRegistry.contextFor_lt_length state.registry now cookie
    refine (SessionRegistry.session_setSession registry id other r.session).trans ?_
    simp only [inside, and_true, found]
  obtain ⟨justified, lawful⟩ := covers id
  rw [← found id] at justified
  obtain ⟨justified', lawful', kept⟩ := (request.accounts_flow _ _ justified).run lawful
  rw [request.plain_flow] at justified' kept
  exact ⟨kept, covers.write written justified' lawful'⟩

theorem covers_forget (value : String)
    (covers : chronicle.Covers state.backend.listed state.registry.session) :
    (chronicle ++ (state.registry.find? value).toList.map fun id =>
      (id, Entry.left (state.registry.session id).clear)).Covers state.backend.listed
        (state.forget value).registry.session := by
  have cleared (other : ContextId) := SessionRegistry.session_invalidate state.registry value other
  cases found : state.registry.find? value with
  | none =>
    simp only [found, reduceCtorEq, if_false] at cleared
    intro other
    simpa [forget, cleared] using covers other
  | some id =>
    simp only [found, Option.some.injEq] at cleared
    have justified : Justifies state.backend.listed
        (chronicle.journal id ++ [.left (state.registry.session id).clear])
        (state.registry.session id).clear := .clear _ _ _
    refine covers.write (fun other => (cleared other).trans ?_) justified
      ((covers id).2.look justified)
    split
    · rename_i same
      rw [same]
    · rfl

theorem covers_navigate (covers : chronicle.Covers state.backend.listed state.registry.session) :
    let after := (state.navigate config (fun _ => MemoryBackend.handle) now cookie mode target).2
    after.backend.listed = state.backend.listed ∧
      (chronicle ++ state.navigationEntries config now cookie mode target).Covers
        state.backend.listed after.registry.session := by
  rw [navigate_visited, navigationEntries, ← List.append_assoc]
  obtain ⟨kept, visited⟩ := covers_visited config now cookie mode target covers
  cases cookie with
  | none => exact ⟨kept, by simpa [forgotten] using visited⟩
  | some value =>
    cases ends : endsSession target with
    | false => exact ⟨kept, by simpa [forgotten, ends] using visited⟩
    | true =>
      rw [← kept] at visited ⊢
      exact ⟨rfl, by simpa [forgotten, ends] using covers_forget value visited⟩

theorem covers_contextFor (covers : chronicle.Covers state.backend.listed state.registry.session) :
    chronicle.Covers state.backend.listed (state.contextFor now cookie).2.registry.session := by
  have found (other : ContextId) : (state.contextFor now cookie).2.registry.session other =
      state.registry.session other :=
    SessionRegistry.session_contextFor state.registry now other cookie
  rw [funext found]
  exact covers

theorem covers_serve (files : FileTree) (r : Request)
    (covers : chronicle.Covers state.backend.listed state.registry.session) :
    let after := (state.serve config files (fun _ => MemoryBackend.handle) now r).2
    after.backend.listed = state.backend.listed ∧
      (chronicle ++ state.requestEntries config now r).Covers state.backend.listed
        after.registry.session := by
  have idle : (chronicle ++ []).Covers state.backend.listed state.registry.session := by
    rwa [List.append_nil]
  unfold serve requestEntries
  cases endpoint : Endpoint.ofPath r.path.toList with
  | apiSession =>
    rw [List.append_nil]
    exact ⟨rfl, covers_contextFor now (r.session? config) covers⟩
  | apiNavigation =>
    cases asked : r.navigationTarget with
    | error e => exact ⟨rfl, idle⟩
    | ok target => exact covers_navigate config now _ .navigate target covers
  | consolePage => exact covers_navigate config now _ .load r.target covers
  | apiIndex => exact ⟨rfl, idle⟩
  | apiNothing => exact ⟨rfl, idle⟩
  | staticFile => exact ⟨rfl, idle⟩

end GatewayState

inductive Occasion where
  -- A request comes in, at a time in seconds, and is answered.
  | request (now : Int) (r : Request)
  -- From then on the registry names this user, or nobody.
  | identity (user : Option CurrentUser)

structure Watched where
  state : GatewayState MemoryBackend
  chronicle : Chronicle

namespace Watched

def initial (config : Config) (b : MemoryBackend) : Watched := ⟨.initial config b, []⟩

def step (config : Config) (files : FileTree) (w : Watched) : Occasion → Watched
  | .request now r =>
    ⟨(w.state.serve config files (fun _ => MemoryBackend.handle) now r).2,
      w.chronicle ++ w.state.requestEntries config now r⟩
  | .identity user => { w with state.backend.user := user }

def run (config : Config) (files : FileTree) (w : Watched) (occasions : List Occasion) : Watched :=
  occasions.foldl (step config files) w

structure Sound (lists : Int64 → Option (List ProjectMember)) (w : Watched) : Prop where
  kept : w.state.backend.listed = lists
  covers : w.chronicle.Covers lists w.state.registry.session

variable {config : Config} {files : FileTree} {lists : Int64 → Option (List ProjectMember)}
  {w : Watched}

theorem sound_initial (config : Config) (b : MemoryBackend) :
    (initial config b).Sound b.listed where
  kept := rfl
  covers id := by
    have new : (initial config b).state.registry.session id = {} :=
      SessionRegistry.session_of_length_le _ id (Nat.zero_le _)
    rw [new]
    exact Chronicle.covers_nil id

theorem Sound.step (sound : w.Sound lists) (occasion : Occasion) :
    (w.step config files occasion).Sound lists := by
  obtain ⟨rfl, covers⟩ := sound
  cases occasion with
  | request now r =>
    obtain ⟨kept, covers'⟩ := GatewayState.covers_serve config now files r covers
    exact ⟨kept, covers'⟩
  | identity user => exact ⟨rfl, covers⟩

theorem Sound.run (sound : w.Sound lists) (occasions : List Occasion) :
    (w.run config files occasions).Sound lists := by
  induction occasions generalizing w with
  | nil => exact sound
  | cons occasion occasions ih => exact ih (sound.step occasion)

/-- Whatever requests are answered one after the other, and whoever is signed in at the registry
meanwhile, every session is justified by its journal: it remembers members only along with a user;
the user is the last one whom the registry has named for it; and the members are those of the last
project for which the member guard has started there. -/
theorem run_justified (config : Config) (files : FileTree) (b : MemoryBackend)
    (occasions : List Occasion) (id : ContextId) :
    let w := (initial config b).run config files occasions
    Justifies b.listed (w.chronicle.journal id) (w.state.registry.session id) ∧
      Lawful b.listed (w.chronicle.journal id) :=
  ((sound_initial config b).run occasions).covers id

end Watched

end ConsoleGateway
