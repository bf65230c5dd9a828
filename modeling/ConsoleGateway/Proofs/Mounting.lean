import ConsoleGateway.Proofs.Alone
import ConsoleGateway.Proofs.Matching
import ConsoleGateway.Proofs.Requests

namespace ConsoleGateway

def withSlashes (text : String) (n : Nat) : List Char := text.toList ++ .replicate n '/'

namespace Route

variable {path : String} {route : Route} {params : List (String × String)}

theorem exists_trimmed (cs : List Char) : ∃ n, cs = trimSlashes cs ++ .replicate n '/' := by
  let slashes := cs.reverse.takeWhile (· = '/')
  have all : slashes = .replicate slashes.length '/' :=
    List.eq_replicate_of_mem fun c hc => by simpa using List.mem_takeWhile_imp hc
  have split : slashes ++ cs.reverse.dropWhile (· = '/') = cs.reverse :=
    List.takeWhile_append_dropWhile
  refine ⟨slashes.length, ?_⟩
  calc cs = (slashes ++ cs.reverse.dropWhile (· = '/')).reverse := by
        rw [split, List.reverse_reverse]
    _ = trimSlashes cs ++ slashes.reverse := by rw [List.reverse_append]; rfl
    _ = trimSlashes cs ++ .replicate slashes.length '/' := by
      rw [all, List.reverse_replicate, List.length_replicate]

theorem table_mounted : ∀ route ∈ table, route.pattern = [.literal "reset_password"] ∨
    route.pattern.head? = some (.literal "harbor") := by
  decide

theorem mounted_of_find? (found : find? path = some (route, params)) :
    (∃ n, path.toList = withSlashes "/reset_password" n) ∨
      path.toList = "/harbor".toList ∨ "/harbor/".toList <+: path.toList := by
  obtain ⟨listed, segments, hsegments, hparams⟩ := find?_eq_some found
  obtain ⟨n, whole⟩ := exists_trimmed path.toList
  rw [(segments?_eq_some_iff.1 hsegments).1] at whole
  rcases table_mounted route listed with reset | harbor
  · rw [reset] at hparams
    obtain ⟨rest, rfl, hrest⟩ := params?_literal hparams
    cases rest with
    | nil => exact .inl ⟨n, whole⟩
    | cons segment rest => simp [params?] at hrest
  · obtain ⟨pattern, hpattern⟩ := List.head?_eq_some_iff.1 harbor
    rw [hpattern] at hparams
    obtain ⟨below, rfl, -⟩ := params?_literal hparams
    have start : path.toList = "/harbor".toList ++ (slashed below ++ .replicate n '/') := whole
    right
    rw [start]
    cases below with
    | cons segment below =>
      exact .inr ⟨segment ++ slashed below ++ .replicate n '/', by simp [slashed]⟩
    | nil =>
      cases n with
      | zero => exact .inl (by simp [slashed])
      | succ n => exact .inr ⟨.replicate n '/', by simp [slashed, List.replicate_succ]⟩

end Route

namespace Endpoint

theorem ofPath_resetPassword (n : Nat) :
    ofPath (withSlashes "/reset_password" (n + 1)) = .staticFile := by
  have plain : ∀ c ∈ withSlashes "/reset_password" (n + 1), c.toNat < 0x80 ∧ c ≠ '%' := by
    intro c hc
    rcases List.mem_append.1 hc with word | slash
    · have each : "/reset_password".toList.all (fun c => c.toNat < 0x80 ∧ c ≠ '%') = true := by
        decide
      exact of_decide_eq_true (List.all_eq_true.1 each c word)
    · rw [List.eq_of_mem_replicate slash]
      decide
  have kept := routingPath_append plain []
  rw [List.append_nil] at kept
  rw [ofPath, kept, withSlashes, List.replicate_succ]
  simp [ofRoutingPath, dropText?, isConsolePath, routingPath, unescape, Utf8.decodeLossy,
    Utf8.read, Utf8.readFrom, List.isPrefixOf]

end Endpoint

namespace GatewayState

variable (config : Config) (files : FileTree) (handle : BackendHandler σ) (now : Int)
  (state : GatewayState σ)

/-- A request for the start page or for a page of the table is answered by a visit of that page,
unless slashes follow the path of the page for new passwords. There the gateway looks for a file,
and neither its sessions nor the registry hear of the request. -/
theorem console_mounted {r : Request}
    (console : r.path = "/" ∨ (Route.find? r.path).isSome = true) :
    let visit := state.navigate config handle now (r.session? config) .load r.target
    let slashed := ∃ n, r.path.toList = withSlashes "/reset_password" (n + 1)
    (Endpoint.ofPath r.path.toList = .consolePage ↔ ¬slashed) ∧
      (¬slashed → state.serve config files handle now r =
        (.ofOutcome config files visit.1.1, visit.2)) ∧
      (slashed → state.serve config files handle now r =
        (.staticFile files (Endpoint.routingPath r.path.toList), state)) := by
  intro visit slashed
  have elsewhere (h : slashed) : Endpoint.ofPath r.path.toList = .staticFile := by
    obtain ⟨n, hpath⟩ := h
    rw [hpath, Endpoint.ofPath_resetPassword]
  have mounted (h : ¬slashed) : Endpoint.ofPath r.path.toList = .consolePage := by
    refine Endpoint.ofPath_of_isConsolePath ?_
    rcases console with root | found
    · simp [Endpoint.isConsolePath, root]
    · obtain ⟨⟨route, params⟩, found⟩ := Option.isSome_iff_exists.1 found
      rcases Route.mounted_of_find? found with ⟨n, reset⟩ | harbor | below
      · cases n with
        | zero => simp [Endpoint.isConsolePath, reset, withSlashes]
        | succ n => exact absurd ⟨n, reset⟩ h
      · simp [Endpoint.isConsolePath, harbor]
      · rw [← List.isPrefixOf_iff_prefix] at below
        simp only [Endpoint.isConsolePath, below, Bool.or_true]
  refine ⟨⟨fun atConsole h => ?_, mounted⟩, fun h => ?_, fun h => ?_⟩
  · rw [elsewhere h] at atConsole
    cases atConsole
  · simp only [serve, mounted h]
    rfl
  · simp only [serve, elsewhere h]

theorem console_mounted_users :
    let files : FileTree := ⟨[(["index.html"], "<html>")]⟩
    let page := Request.ofTarget "/harbor/users//?x=1" (some "sid=abc")
    let state : GatewayState MemoryBackend := .initial {} {}
    let reply := state.serve {} files (fun _ => MemoryBackend.handle) 0 page
    (page.path = "/" ∨ (Route.find? page.path).isSome = true) ∧
      Endpoint.ofPath page.path.toList = .consolePage ∧ reply.1.status = 302 ∧
      reply.2.backend.log = [.currentUser] := by
  intro files page state reply
  have console : page.path = "/" ∨ (Route.find? page.path).isSome = true :=
    .inr (by decide +kernel)
  obtain ⟨mounted, visits, -⟩ :=
    console_mounted {} files (fun _ => MemoryBackend.handle) 0 state console
  have elsewhere : ¬∃ n, page.path.toList = withSlashes "/reset_password" (n + 1) := by
    rintro ⟨n, h⟩
    have second : page.path.toList[1]? = some 'h' := by decide
    rw [h] at second
    cases second
  refine ⟨console, mounted.2 elsewhere, ?_⟩
  rw [show reply = _ from visits elsewhere]
  exact ⟨by decide +kernel, by decide +kernel⟩

/-- The table knows the page for new passwords by its path with a slash behind it, and a request
with that path is answered with a file that is not there. -/
theorem resetPassword_unmounted :
    (Route.find? "/reset_password/").isSome = true ∧
      (¬∀ path : String, path = "/" ∨ (Route.find? path).isSome = true →
        Endpoint.ofPath path.toList = .consolePage) ∧
      ((GatewayState.initial {} ({} : MemoryBackend)).serve {} ⟨[(["index.html"], "<html>")]⟩
        (fun _ => MemoryBackend.handle) 0 (.ofTarget "/reset_password/" none)).1.status = 404 := by
  have known : (Route.find? "/reset_password/").isSome = true := by decide +kernel
  refine ⟨known, fun h => ?_, by decide +kernel⟩
  have lost : Endpoint.ofPath "/reset_password/".toList = .staticFile :=
    Endpoint.ofPath_resetPassword 0
  rw [h "/reset_password/" (.inr known)] at lost
  cases lost

end GatewayState

end ConsoleGateway
