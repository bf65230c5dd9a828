import ConsoleGateway.Gateway.Serve
import ConsoleGateway.Proofs.Traffic

/-! The sessions of different browsers. A context keeps the cookie it was made for and is filed
under the key of that cookie only, so a request never holds the context that another cookie finds,
and all that is kept for the other cookie stays as it is. -/

namespace ConsoleGateway

namespace SessionRegistry

def owner? (r : SessionRegistry) (id : ContextId) : Option (Option String) :=
  (r.context? id).map fun ctx => ctx.cookie.map fingerprint

/-- All that is kept for a cookie: which context it finds, and the cookie, the session and the time
that are noted there. -/
def holding (r : SessionRegistry) (cookie : String) : Option (ContextId × Option Context) :=
  (r.find? cookie).map fun id => (id, r.context? id)

def Owned (r : SessionRegistry) : Prop :=
  ∀ key id, (key, id) ∈ r.entries → r.owner? id = some (some key)

def Lends (r : SessionRegistry) (key : Option String) (id : ContextId) : Prop :=
  ∃ owner, r.owner? id = some owner ∧ (owner = none ∨ owner = key)

structure Grows (r r' : SessionRegistry) : Prop where
  owned : r.Owned → r'.Owned
  owner : ∀ id owner, r.owner? id = some owner → r'.owner? id = some owner

/-- The other registry comes of work for one browser, which leaves alone what is kept for others. -/
structure Serves (key : Option String) (r r' : SessionRegistry) : Prop extends Grows r r' where
  others : r.Owned → ∀ other, key ≠ some (fingerprint other) → r'.holding other = r.holding other

variable {r r' r'' : SessionRegistry} {key : Option String} {id : ContextId} {cookie other : String}

theorem Grows.lends (grows : Grows r r') (lent : r.Lends key id) : r'.Lends key id := by
  obtain ⟨owner, owned, own⟩ := lent
  exact ⟨owner, grows.owner id owner owned, own⟩

theorem Serves.refl (key : Option String) (r : SessionRegistry) : Serves key r r :=
  ⟨⟨id, fun _ _ => id⟩, fun _ _ _ => rfl⟩

theorem Serves.trans (first : Serves key r r') (second : Serves key r' r'') : Serves key r r'' where
  owned := second.owned ∘ first.owned
  owner id owner owned := second.owner id owner (first.owner id owner owned)
  others owned other apart :=
    (second.others (first.owned owned) other apart).trans (first.others owned other apart)

theorem Owned.find?_ne (owned : r.Owned) (lent : r.Lends key id)
    (apart : key ≠ some (fingerprint other)) : r.find? other ≠ some id := by
  intro found
  obtain ⟨owner, mine, own⟩ := lent
  rw [owned _ _ (mem_entries_of_find? found)] at mine
  cases mine
  rcases own with nobody | rfl
  · cases nobody
  · exact apart rfl

theorem inside_of_owner? {owner : Option String} (mine : r.owner? id = some owner) :
    id.number < r.contexts.length := by
  apply Nat.lt_of_not_le
  intro outside
  simp [owner?, context?, outside] at mine

theorem context?_modify_ne {id' : ContextId} (f : Context → Context) (apart : id' ≠ id) :
    (r.modify id f).context? id' = r.context? id' := by
  have : id.number ≠ id'.number := fun same => apart (by cases id; cases id'; simp_all)
  simp [modify, context?, this]

theorem owner?_modify {f : Context → Context} (keeps : ∀ ctx, (f ctx).cookie = ctx.cookie)
    (id' : ContextId) : (r.modify id f).owner? id' = r.owner? id' := by
  by_cases same : id' = id
  · subst same
    cases found : r.contexts[id'.number]? <;>
      simp [owner?, modify, context?, found, keeps]
  · rw [owner?, context?_modify_ne f same]
    rfl

theorem serves_modify {f : Context → Context} (keeps : ∀ ctx, (f ctx).cookie = ctx.cookie)
    (lent : r.Lends key id) : Serves key r (r.modify id f) where
  owned owned key' id' filed := by
    rw [owner?_modify keeps]
    exact owned key' id' filed
  owner id' owner mine := by
    rw [owner?_modify keeps]
    exact mine
  others owned other apart := by
    rw [holding, find?_modify]
    apply Option.map_congr
    intro id' found
    have elsewhere : id' ≠ id := by
      rintro rfl
      exact owned.find?_ne lent apart found
    rw [context?_modify_ne f elsewhere]

theorem context?_create (now : Int) (caller : Option String) (inside : id.number < r.contexts.length) :
    (r.create now caller).2.context? id = r.context? id := by
  simp [create, context?, List.getElem?_append_left inside]

theorem owner?_create_self (now : Int) (caller : Option String) :
    (r.create now caller).2.owner? (r.create now caller).1 = some (caller.map fingerprint) := by
  simp [create, owner?, context?]

theorem grows_create (now : Int) (caller : Option String) : Grows r (r.create now caller).2 := by
  have owner (id : ContextId) (owner : Option String) (mine : r.owner? id = some owner) :
      (r.create now caller).2.owner? id = some owner := by
    rw [owner?, context?_create now caller (inside_of_owner? mine)]
    exact mine
  exact ⟨fun owned key id filed => owner id _ (owned key id filed), owner⟩

theorem serves_create (now : Int) (caller : Option String) :
    Serves key r (r.create now caller).2 where
  toGrows := grows_create now caller
  others owned other _ := by
    apply Option.map_congr
    intro id found
    have inside := inside_of_owner? (owned _ _ (mem_entries_of_find? found))
    rw [context?_create now caller inside]

theorem modify_create (now : Int) (caller : Option String) (f : Context → Context) :
    (r.create now caller).2.modify (r.create now caller).1 f =
      { r with contexts := r.contexts ++ [f { cookie := caller, lastActive := now }] } := by
  simp [create, modify, List.modify_eq_take_drop]

theorem serves_register (now : Int) (cookie : String) :
    Serves (some (fingerprint cookie)) r (r.register now cookie).2 where
  owned owned key id filed := by
    rcases List.mem_cons.1 filed with new | old
    · cases new
      exact owner?_create_self now (some cookie)
    · exact (grows_create now (some cookie)).owner id _ (owned key id (List.mem_filter.1 old).1)
  owner := (grows_create now (some cookie)).owner
  others owned other apart := by
    rw [holding, find?_register_other r now cookie other fun same => apart (by rw [same])]
    apply Option.map_congr
    intro id found
    have inside := inside_of_owner? (owned _ _ (mem_entries_of_find? found))
    rw [show (r.register now cookie).2.context? id = (r.create now (some cookie)).2.context? id
      from rfl, context?_create now (some cookie) inside]

theorem serves_contextFor (owned : r.Owned) (now : Int) (caller : Option String) :
    Serves (caller.map fingerprint) r (r.contextFor now caller).2 ∧
      (r.contextFor now caller).2.Lends (caller.map fingerprint) (r.contextFor now caller).1 := by
  rcases r.contextFor_cases now caller with
    ⟨cookie, rfl, -, found, -, kept⟩ | ⟨-, made⟩ | ⟨cookie, rfl, -, made⟩
  · have lent : r.Lends (some (fingerprint cookie)) (r.contextFor now (some cookie)).1 :=
      ⟨_, owned _ _ (mem_entries_of_find? found), .inr rfl⟩
    have work := serves_modify (f := fun ctx => { ctx with lastActive := now }) (fun _ => rfl) lent
    rw [kept]
    exact ⟨work, work.lends lent⟩
  · rw [made]
    exact ⟨serves_create now none, _, owner?_create_self now none, .inl rfl⟩
  · rw [made]
    exact ⟨serves_register now cookie, _, owner?_create_self now (some cookie), .inr rfl⟩

theorem serves_setSession (s : Session) (lent : r.Lends key id) :
    Serves key r (r.setSession id s) :=
  serves_modify (fun _ => rfl) lent

theorem owner?_invalidate (cookie : String) (id : ContextId) :
    (r.invalidate cookie).2.owner? id = r.owner? id := by
  unfold invalidate
  split
  · rename_i found _
    exact owner?_modify (r := r) (f := fun ctx => { ctx with session := ctx.session.clear })
      (fun _ => rfl) id
  · rfl

theorem serves_invalidate (owned : r.Owned) (cookie : String) :
    Serves (some (fingerprint cookie)) r (r.invalidate cookie).2 where
  owned owned key id filed := by
    rw [owner?_invalidate]
    exact owned key id ((r.mem_entries_invalidate cookie id).1 filed).1
  owner id owner mine := by
    rw [owner?_invalidate]
    exact mine
  others _ other apart := by
    have apart' : fingerprint other ≠ fingerprint cookie := fun same => apart (by rw [same])
    rw [holding, find?_invalidate, if_neg apart']
    apply Option.map_congr
    intro id found
    cases mine : r.find? cookie with
    | none => simp [invalidate, mine]
    | some id' =>
      have lent : r.Lends (some (fingerprint cookie)) id' :=
        ⟨_, owned _ _ (mem_entries_of_find? mine), .inr rfl⟩
      have elsewhere : id ≠ id' := by
        rintro rfl
        exact owned.find?_ne lent apart found
      have cleared : (r.invalidate cookie).2.context? id =
          (r.modify id' fun ctx => { ctx with session := ctx.session.clear }).context? id := by
        simp only [invalidate, mine]
        rfl
      rw [cleared, context?_modify_ne _ elsewhere]

theorem grows_cleanupExpired (now : Int) : Grows r (r.cleanupExpired now).2 where
  owned owned key id filed := owned key id (r.mem_entries_cleanupExpired now filed)
  owner _ _ mine := mine

end SessionRegistry

namespace Errand

def key (errand : Errand) : Option String := errand.cookie.map fingerprint

theorem serves_leave {r : SessionRegistry} (owned : r.Owned) (errand : Errand) :
    r.Serves errand.key (errand.leave r) := by
  unfold leave
  split
  · rename_i cookie forgets
    have own : errand.cookie = some cookie := by
      unfold forgets? at forgets
      split at forgets
      · split at forgets
        · exact forgets
        · cases forgets
      · cases forgets
    rw [key, own]
    exact SessionRegistry.serves_invalidate owned cookie
  · exact .refl _ _

end Errand

namespace Traffic

open SessionRegistry

variable {settings : GuardSettings} {w : Traffic} {i : Nat} {task task' : Task} {event : Event}
  {r : SessionRegistry} {other : String}

structure Orderly (w : Traffic) : Prop where
  owned : w.registry.Owned
  lent : ∀ (i : Nat) (task : Task), w.tasks[i]? = some task → ∀ id, task.stage.context? = some id →
    w.registry.Lends task.errand.key id

theorem Orderly.goes (orderly : Orderly w) (here : w.tasks[i]? = some task)
    (goes : Task.Step settings task w.registry event task' r) :
    Serves task.errand.key w.registry r ∧
      ∀ id, task'.stage.context? = some id → r.Lends task.errand.key id := by
  have lent := orderly.lent i task here
  cases goes with
  | begin errand _ now =>
    obtain ⟨work, mine⟩ := serves_contextFor orderly.owned now errand.cookie
    refine ⟨work, fun id at_ => ?_⟩
    cases at_
    exact mine
  | finish errand _ id response => exact ⟨errand.serves_leave orderly.owned, nofun⟩
  | look errand _ id update next =>
    have work := serves_setSession (update (w.registry.session id)) (lent id rfl)
    exact ⟨work, fun id' at_ => work.lends (lent id' at_)⟩
  | tell errand _ id notice next => exact ⟨.refl _ _, lent⟩
  | ask errand _ id call next => exact ⟨.refl _ _, lent⟩
  | hear errand _ id call next answer => exact ⟨.refl _ _, lent⟩

theorem Orderly.step (orderly : Orderly w) (settings : GuardSettings) (move : Move) :
    Orderly (w.step settings move) := by
  rcases step_cases settings w move with
    same | ⟨now, swept⟩ | ⟨i, task, event, task', r, here, goes, recorded⟩
  · rw [same]
    exact orderly
  · rw [swept]
    have grows := w.registry.grows_cleanupExpired now
    exact ⟨grows.owned orderly.owned, fun i task there id at_ =>
      grows.lends (orderly.lent i task there id at_)⟩
  · obtain ⟨work, lent⟩ := orderly.goes here goes
    rw [recorded]
    refine ⟨work.owned orderly.owned, fun j task'' there id at_ => ?_⟩
    rw [task_record here] at there
    split at there
    · cases there
      rw [goes.errand_eq]
      exact lent id at_
    · exact work.lends (orderly.lent j task'' there id at_)

theorem orderly_initial (config : SessionConfig) (errands : List Errand) :
    Orderly (initial (.ofConfig config) errands) := by
  refine ⟨nofun, fun i task there id at_ => ?_⟩
  simp only [initial, List.getElem?_map, Option.map_eq_some_iff] at there
  obtain ⟨errand, -, rfl⟩ := there
  cases at_

theorem orderly_run (settings : GuardSettings) (config : SessionConfig) (errands : List Errand)
    (moves : List Move) : Orderly ((initial (.ofConfig config) errands).run settings moves) :=
  run_induction (fun _ move orderly => orderly.step settings move)
    (orderly_initial config errands) moves

/-- A move is a step of a request that some other browser has put than that of the cookie. -/
def Elsewhere (errands : List Errand) (other : String) (move : Move) : Prop :=
  ∃ i errand, move.request? = some i ∧ errands[i]? = some errand ∧
    errand.key ≠ some (fingerprint other)

theorem Orderly.holding_step (orderly : Orderly w) (settings : GuardSettings) {move : Move}
    (elsewhere : Elsewhere w.errands other move) :
    (w.step settings move).registry.holding other = w.registry.holding other := by
  obtain ⟨i, errand, isStep, put, apart⟩ := elsewhere
  rcases step_request isStep settings w with same | ⟨task, event, task', r, here, goes, recorded⟩
  · rw [same]
  · obtain rfl : task.errand = errand := by simpa [Traffic.errands, here] using put
    rw [recorded]
    exact (orderly.goes here goes).1.others orderly.owned other apart

theorem Orderly.holding_run (orderly : Orderly w) (settings : GuardSettings) (moves : List Move)
    (elsewhere : ∀ move ∈ moves, Elsewhere w.errands other move) :
    (w.run settings moves).registry.holding other = w.registry.holding other := by
  induction moves generalizing w with
  | nil => rfl
  | cons move moves ih =>
    obtain ⟨first, rest⟩ := List.forall_mem_cons.1 elsewhere
    rw [run_cons, ih (orderly.step settings move) (by rw [errands_step]; exact rest)]
    exact orderly.holding_step settings first

end Traffic

namespace GatewayState

open SessionRegistry

variable {state : GatewayState σ} {request : Request}

theorem serves_navigate (owned : state.registry.Owned) (config : Config)
    (handle : BackendHandler σ) (now : Int) (caller : Option String) (mode : NavigationMode)
    (target : String) : state.registry.Serves (caller.map fingerprint)
      (state.navigate config handle now caller mode target).2.registry := by
  obtain ⟨work, lent⟩ := serves_contextFor owned now caller
  rw [Traffic.navigate_eq]
  have written (s : Session) := work.trans (serves_setSession s lent)
  exact (written _).trans (Errand.serves_leave ((written _).owned owned) ⟨caller, .visit mode target⟩)

theorem serves_serve (owned : state.registry.Owned) (config : Config) (files : FileTree)
    (handle : BackendHandler σ) (now : Int) (request : Request) :
    state.registry.Serves ((request.session? config).map fingerprint)
      (state.serve config files handle now request).2.registry := by
  unfold serve
  cases Endpoint.ofPath request.path.toList with
  | apiSession => exact (serves_contextFor owned now (request.session? config)).1
  | apiNavigation =>
    cases request.navigationTarget with
    | error e => exact .refl _ _
    | ok target => exact serves_navigate owned config handle now _ .navigate target
  | consolePage => exact serves_navigate owned config handle now _ .load request.target
  | apiIndex => exact .refl _ _
  | apiNothing => exact .refl _ _
  | staticFile => exact .refl _ _

theorem navigate_stranger (config : Config) (handle : BackendHandler σ) (now : Int)
    (mode : NavigationMode) (target : String) (state : GatewayState σ) :
    ∃ made, (state.navigate config handle now none mode target).2.registry =
      { state.registry with contexts := state.registry.contexts ++ made } := by
  have stays : ∀ r, (⟨none, .visit mode target⟩ : Errand).leave r = r := by
    intro r
    cases ends : endsSession target <;> simp [Errand.leave, Errand.forgets?, ends]
  rw [Traffic.navigate_eq]
  exact ⟨_, (stays _).trans (modify_create now none _)⟩

theorem serve_stranger (config : Config) (files : FileTree) (handle : BackendHandler σ) (now : Int)
    (unknown : request.session? config = none) (state : GatewayState σ) :
    ∃ made, (state.serve config files handle now request).2.registry =
      { state.registry with contexts := state.registry.contexts ++ made } := by
  have idle : ∃ made, state.registry =
      { state.registry with contexts := state.registry.contexts ++ made } := ⟨[], by simp⟩
  unfold serve
  rw [unknown]
  cases Endpoint.ofPath request.path.toList with
  | apiSession => exact ⟨_, rfl⟩
  | apiNavigation =>
    cases request.navigationTarget with
    | error e => exact idle
    | ok target => exact navigate_stranger config handle now .navigate target state
  | consolePage => exact navigate_stranger config handle now .load request.target state
  | apiIndex => exact idle
  | apiNothing => exact idle
  | staticFile => exact idle

theorem serve_session (config : Config) (files : FileTree) (handle : BackendHandler σ) (now : Int)
    (reads : Endpoint.ofPath request.path.toList = .apiSession) (state : GatewayState σ) :
    let served := (state.serve config files handle now request).2
    served.backend = state.backend ∧
      ∀ id, served.registry.session id = state.registry.session id := by
  unfold serve
  rw [reads]
  exact ⟨rfl, fun id => state.registry.session_contextFor now id (request.session? config)⟩

end GatewayState

namespace Traffic

/-- Browsers are kept apart, whatever state requests that are under way have brought the gateway to.
A request leaves alone what is kept for a cookie with another key: whether it finds a context and
which one, the user and the members there, and the count of navigations, by which tokens are
current. A request without a cookie leaves the whole registry alone, but for a context that nobody
finds, and reading a session puts no call and changes no session. Steps of requests that cross each
other keep browsers apart as well. -/
theorem requests_isolated (config : Config) (files : FileTree) (errands : List Errand)
    (moves : List Move) (handle : BackendHandler σ) (b : σ) (now : Int) (request : Request) :
    let w := (initial (.ofConfig config.session) errands).run (.ofConfig config) moves
    let served := (GatewayState.serve config files handle now request ⟨w.registry, b⟩).2
    (∀ cookie other, request.session? config = some cookie →
        fingerprint other ≠ fingerprint cookie →
          served.registry.holding other = w.registry.holding other) ∧
      (request.session? config = none → ∃ made,
        served.registry = { w.registry with contexts := w.registry.contexts ++ made }) ∧
      (Endpoint.ofPath request.path.toList = .apiSession →
        served.backend = b ∧ ∀ id, served.registry.session id = w.registry.session id) ∧
      ∀ (later : List Move) other, (∀ move ∈ later, Elsewhere errands other move) →
        (w.run (.ofConfig config) later).registry.holding other = w.registry.holding other := by
  intro w served
  have orderly : Orderly w := orderly_run (.ofConfig config) config.session errands moves
  have put : w.errands = errands := errands_run _ _ _ _
  refine ⟨fun cookie other mine apart => ?_, fun unknown => ?_, fun reads => ?_,
    fun later other elsewhere => ?_⟩
  · have owned : (⟨w.registry, b⟩ : GatewayState _).registry.Owned := orderly.owned
    have work := GatewayState.serves_serve owned config files handle now request
    rw [mine] at work
    exact work.others orderly.owned other fun same => apart (Option.some.inj same).symm
  · exact GatewayState.serve_stranger config files handle now unknown ⟨w.registry, b⟩
  · exact GatewayState.serve_session config files handle now reads ⟨w.registry, b⟩
  · exact orderly.holding_run (.ofConfig config) later (by rw [put]; exact elsewhere)

def twoBrowsers : List Errand :=
  [⟨some "abc", .visit .load "/harbor/logs"⟩, ⟨some "xyz", .visit .load "/harbor/logs"⟩]

def aliceArrives : List Move :=
  .start 0 0 :: .replicate 4 (.advance 0) ++ .answer 0 (fun
    | .currentUser => .ok ⟨2, "alice", false⟩
    | _ => .error .unauthenticated) :: .replicate 2 (.advance 0)

theorem requests_isolated_alice :
    let w := (initial (.ofConfig {}) twoBrowsers).run {} aliceArrives
    let serve := fun request => (GatewayState.serve {} ⟨[]⟩ (fun _ => MemoryBackend.handle) 0
      request ⟨w.registry, {}⟩).2
    let alice := some (⟨0⟩, some ⟨some "abc", { user := some ⟨2, "alice", false⟩ }, 0⟩)
    let signsOut : Request := .ofTarget "/harbor/sign-in?signout=true" (some "sid=xyz")
    let reads : Request := .ofTarget "/api/session" (some "sid=%20")
    let later := .start 1 5 :: .replicate 4 (.advance 1)
    (signsOut.session? {} = some "xyz" ∧ fingerprint "abc" ≠ fingerprint "xyz" ∧
        (serve signsOut).registry.holding "abc" = alice) ∧
      (reads.session? {} = none ∧ Endpoint.ofPath reads.path.toList = .apiSession ∧
        (serve reads).backend = {} ∧ (serve reads).registry.entries = w.registry.entries) ∧
      (∀ move ∈ later, Elsewhere twoBrowsers "abc" move) ∧
        (w.run {} later).registry.holding "abc" = alice := by
  intro w serve alice signsOut reads later
  have here : w.registry.holding "abc" = alice := by decide +kernel
  have xyz : signsOut.session? {} = some "xyz" := by decide +kernel
  have nobody : reads.session? {} = none := by decide +kernel
  have apart : fingerprint "abc" ≠ fingerprint "xyz" := by decide +kernel
  have elsewhere : ∀ move ∈ later, Elsewhere twoBrowsers "abc" move := by
    intro move hmove
    have isStep : move.request? = some 1 := by
      rcases List.mem_cons.1 hmove with rfl | rest
      · rfl
      · rw [(List.mem_replicate.1 rest).2]
        rfl
    exact ⟨1, _, isStep, rfl, fun same => apart (Option.some.inj same).symm⟩
  obtain ⟨others, -, -, crossing⟩ := requests_isolated {} ⟨[]⟩ twoBrowsers aliceArrives
    (fun _ => MemoryBackend.handle) {} 0 signsOut
  obtain ⟨-, stranger, reading, -⟩ := requests_isolated {} ⟨[]⟩ twoBrowsers aliceArrives
    (fun _ => MemoryBackend.handle) {} 0 reads
  obtain ⟨made, same⟩ := stranger nobody
  have atSession : Endpoint.ofPath reads.path.toList = .apiSession := by decide +kernel
  refine ⟨⟨xyz, apart, (others _ _ xyz apart).trans here⟩,
    ⟨nobody, atSession, (reading atSession).1, ?_⟩, elsewhere, (crossing _ _ elsewhere).trans here⟩
  have unchanged : (serve reads).registry =
      { w.registry with contexts := w.registry.contexts ++ made } := same
  rw [unchanged]

end Traffic

end ConsoleGateway
