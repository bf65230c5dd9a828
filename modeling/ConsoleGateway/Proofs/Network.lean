import Mathlib.Control.Monad.Basic
import ConsoleGateway.Backend.Client
import ConsoleGateway.Gateway.Basic
import ConsoleGateway.Proofs.Run

namespace ConsoleGateway

/-- A network, and the requests it has been sent, the first one first. -/
structure Network where
  world : List Http.SentRequest → Http.World
  sent : List Http.SentRequest := []

namespace BackendClient

variable {client : BackendClient} {cookie : Option String}

def ask (client : BackendClient) (cookie : Option String) (network : Network) (c : BackendCall) :
    c.Answer × Network :=
  let (sent, answer) := client.call (network.world network.sent) cookie c
  (answer, { network with sent := network.sent ++ sent })

def handle (client : BackendClient) : BackendHandler Network := fun cookie c s network =>
  let (answer, network) := client.ask cookie network c
  (answer, s, network)

theorem run_sends {P : Http.SentRequest → Prop}
    (each : ∀ world c, ∀ r ∈ (client.call world cookie c).1, P r) (flow : Flow α) (s : Session)
    (network : Network) : ∃ later,
      (flow.run (client.handle cookie) s network).backend.sent = network.sent ++ later ∧
        ∀ r ∈ later, P r := by
  induction flow generalizing s network with
  | done a => exact ⟨[], by simp [Flow.run], nofun⟩
  | access update next ih => exact ih (update s) (update s) network
  | notify notice next ih => exact ih s network
  | ask c next ih =>
    let asked := client.call (network.world network.sent) cookie c
    obtain ⟨later, sent, rest⟩ :=
      ih asked.2 s { network with sent := network.sent ++ asked.1 }
    refine ⟨asked.1 ++ later, ?_, fun r hr => ?_⟩
    · rw [← List.append_assoc]
      exact sent
    · rcases List.mem_append.1 hr with now | after
      · exact each _ c r now
      · exact rest r after

end BackendClient

namespace Http

variable {world : World} {cookie : Option String} {limit : Nat} {url : Url} {r : SentRequest}

theorem follow_sends (world : World) (cookie : Option String) (limit : Nat) (url : Url) :
    (follow world cookie limit url).1 = [] ∨ ∃ later,
      (follow world cookie limit url).1 = ⟨requestText url, cookie⟩ :: later ∧
        (later = [] ∨ ∃ limit' target cookie', limit = limit' + 1 ∧
          (cookie' = cookie ∨ cookie' = none) ∧
            later = (follow world cookie' limit' target).1) := by
  generalize followed : follow world cookie limit url = result
  unfold follow at followed
  dsimp only at followed
  split at followed
  · exact .inl (by rw [← followed])
  · exact .inl (by rw [← followed])
  · exact .inr ⟨[], by rw [← followed], .inl rfl⟩
  · split at followed
    · exact .inr ⟨[], by rw [← followed], .inl rfl⟩
    · rename_i target _
      split at followed
      · exact .inr ⟨[], by rw [← followed], .inl rfl⟩
      · rename_i limit'
        split at followed
        · refine .inr ⟨_, by rw [← followed], .inr ⟨limit', target, _, rfl, ?_, rfl⟩⟩
          exact (Decidable.em _).imp (fun same => if_pos same) fun other => if_neg other
        · exact .inr ⟨[], by rw [← followed], .inl rfl⟩

theorem cookie_of_mem_follow (sent : r ∈ (follow world cookie limit url).1) :
    r.cookie = cookie ∨ r.cookie = none := by
  induction limit using Nat.strongRecOn generalizing cookie url with
  | ind limit ih =>
    rcases follow_sends world cookie limit url with nothing | ⟨later, sends, more⟩
    · rw [nothing] at sent
      cases sent
    rw [sends, List.mem_cons] at sent
    rcases sent with rfl | sent
    · exact .inl rfl
    rcases more with rfl | ⟨limit', target, cookie', rfl, kept, rfl⟩
    · cases sent
    rcases ih limit' (Nat.lt_succ_self limit') sent with same | dropped
    · exact kept.imp same.trans same.trans
    · exact .inr dropped

theorem head?_follow (world : World) (cookie : Option String) (limit : Nat) (url : Url) :
    (follow world cookie limit url).1.head? =
      if (world (requestText url)).isSent then some ⟨requestText url, cookie⟩ else none := by
  unfold follow
  split
  · rename_i unwritable
    simp [unwritable, Delivery.isSent]
  · rename_i refused
    simp [refused, Delivery.isSent]
  · rename_i dropped
    simp [dropped, Delivery.isSent]
  · rename_i r answered
    have isSent : (Delivery.answered r).isSent = true := rfl
    rw [answered, if_pos isSent]
    split
    · rfl
    split
    · rfl
    split <;> rfl

theorem eq_of_head?_follow (first : (follow world cookie limit url).1.head? = some r) :
    r = ⟨requestText url, cookie⟩ := by
  rw [head?_follow] at first
  split at first
  · exact (Option.some.inj first).symm
  · cases first

theorem fetch_sends (world : World) (url : Url) (cookie : Option String) :
    (fetch world url cookie).1 = [] ∨
      (fetch world url cookie).1 =
        (follow world cookie redirectionLimit (withoutCredentials url)).1 := by
  unfold fetch
  dsimp only
  split
  · exact .inl rfl
  split
  · exact .inl rfl
  split
  · exact .inl rfl
  · exact .inr rfl

theorem fetch_eq_follow (hosted : hasHost (withoutCredentials url) = true)
    (web : isWebScheme (withoutCredentials url).scheme = true)
    (sendable : ∀ header ∈ cookie, isHeaderText header = true) :
    fetch world url cookie = follow world cookie redirectionLimit (withoutCredentials url) := by
  have header : (cookie.map isHeaderText).getD true = true := by
    cases cookie with
    | none => rfl
    | some header => exact sendable header rfl
  simp only [fetch, hosted, header, web, Bool.not_true, Bool.false_eq_true, if_false]

end Http

namespace BackendClient

variable {client : BackendClient} {cookie : Option String} {world : Http.World} {c : BackendCall}
  {r : Http.SentRequest}

theorem call_sends (client : BackendClient) (world : Http.World) (cookie : Option String)
    (c : BackendCall) : (client.call world cookie c).1 = [] ∨ ∃ url,
      (client.call world cookie c).1 =
        (Http.follow world (cookie.map client.cookieHeader) Http.redirectionLimit url).1 := by
  change (client.get world cookie c.path).1 = [] ∨ ∃ url, (client.get world cookie c.path).1 = _
  unfold get
  cases client.endpoint c.path with
  | error e => exact .inl rfl
  | ok url => exact (Http.fetch_sends _ _ _).imp_right fun same => ⟨_, same⟩

theorem cookie_of_mem_call (sent : r ∈ (client.call world cookie c).1) :
    r.cookie = cookie.map client.cookieHeader ∨ r.cookie = none := by
  rcases client.call_sends world cookie c with nothing | ⟨url, followed⟩
  · rw [nothing] at sent
    cases sent
  · rw [followed] at sent
    exact Http.cookie_of_mem_follow sent

theorem cookie_of_head?_call (first : (client.call world cookie c).1.head? = some r) :
    r.cookie = cookie.map client.cookieHeader := by
  rcases client.call_sends world cookie c with nothing | ⟨url, followed⟩
  · rw [nothing] at first
    cases first
  · rw [followed] at first
    rw [Http.eq_of_head?_follow first]

def byDefault : BackendClient :=
  { baseUrl :=
      { scheme := "http".toList, username := [], password := [], host := some (.ipv4 0x7F000001),
        port := some 8080, path := .segments [[]], query := none, fragment := none }
    cookieName := "sid" }

theorem ofConfig_default : ofConfig {} = .ok byDefault := by decide +kernel

end BackendClient

end ConsoleGateway
