import ConsoleGateway.Backend.Memory
import ConsoleGateway.Proofs.Addresses
import ConsoleGateway.Proofs.Conduct
import ConsoleGateway.Proofs.Network
import ConsoleGateway.Proofs.RoundTrips

/-! A registry in memory stands in for one behind the network. It is put behind a network that
answers a request with what it would answer the call, and to whoever calls over that network it
shows no difference, but for the words of a failure to reach it. -/

namespace ConsoleGateway

/-- A failure without the words of the transport. -/
def GuardError.wordless : GuardError → GuardError
  | .transport _ => .transport ""
  | e => e

namespace BackendCall

def answers (ask : σ → (c : BackendCall) → c.Answer × σ) :
    σ → List BackendCall → List ((c : BackendCall) × c.Answer)
  | _, [] => []
  | b, c :: calls => ⟨c, (ask b c).1⟩ :: answers ask (ask b c).2 calls

def wordless (told : (c : BackendCall) × c.Answer) : (c : BackendCall) × c.Answer :=
  ⟨told.1, told.2.mapError GuardError.wordless⟩

/-- What the network makes of a request tells the caller the answer. -/
inductive Conveys (c : BackendCall) : Http.Delivery → c.Answer → Prop where
  | lost (message : String) : Conveys c .dropped (.error (.transport message))
  | value {body : List UInt8} {v : c.Value} (read : c.readBody body = .ok v) :
    Conveys c (.answered { status := 200, body }) (.ok v)
  | failure {status : UInt16} {e : GuardError} (refuses : 400 ≤ status)
    (means : c.meaning? status = some e) : Conveys c (.answered { status }) (.error e)

theorem answers_congr {ask : σ → (c : BackendCall) → c.Answer × σ}
    {ask' : τ → (c : BackendCall) → c.Answer × τ} {R : σ → τ → Prop}
    (each : ∀ b b' c, R b b' → (ask b c).1.mapError GuardError.wordless =
      (ask' b' c).1.mapError GuardError.wordless ∧ R (ask b c).2 (ask' b' c).2)
    {b : σ} {b' : τ} (start : R b b') (calls : List BackendCall) :
    (answers ask b calls).map wordless = (answers ask' b' calls).map wordless := by
  induction calls generalizing b b' with
  | nil => rfl
  | cons c calls ih =>
    obtain ⟨same, next⟩ := each b b' c start
    simp only [answers, List.map_cons, wordless, same, ih next]

end BackendCall

namespace BackendClient

variable {client : BackendClient} {cookie : Option String} {world : Http.World} {c : BackendCall}

def request (client : BackendClient) (cookie : Option String) (c : BackendCall) :
    Http.SentRequest :=
  ⟨client.address c, cookie.map client.cookieHeader⟩

theorem IsOnWeb.call_of_conveys (onWeb : client.IsOnWeb)
    (sendable : ∀ v ∈ cookie, Http.isHeaderText (client.cookieHeader v) = true)
    {answer : c.Answer} (conveys : c.Conveys (world (client.address c)) answer) :
    ∃ answer', client.call world cookie c = ([client.request cookie c], answer') ∧
      answer'.mapError GuardError.wordless = answer.mapError GuardError.wordless := by
  obtain ⟨url, read, address, hosted, web⟩ := onWeb.endpoint c
  have headers : ∀ header ∈ cookie.map client.cookieHeader, Http.isHeaderText header = true := by
    simpa using sendable
  have fetched : Http.fetch world url (cookie.map client.cookieHeader) = _ :=
    Http.fetch_eq_follow hosted web headers
  simp only [call, get, read, fetched, request]
  unfold Http.follow
  rw [address]
  generalize world (client.address c) = delivery at conveys
  have stays (status : UInt16) (body : List UInt8) (url : Url) :
      (Http.Response.mk status none body).target? world url = none := by
    unfold Http.Response.target?
    split <;> rfl
  cases conveys with
  | lost message => exact ⟨_, rfl, rfl⟩
  | value read =>
    have succeeds (body : List UInt8) : (Http.Response.mk 200 none body).isSuccess = true := rfl
    simp only [stays, succeeds, if_true, read]
    exact ⟨_, rfl, rfl⟩
  | @failure status e refuses means =>
    have fails : (Http.Response.mk status none []).isSuccess = false := by
      have : ¬status < 300 := by
        rw [UInt16.le_iff_toNat_le] at refuses
        rw [UInt16.lt_iff_toNat_lt]
        have : (400 : UInt16).toNat = 400 := rfl
        have : (300 : UInt16).toNat = 300 := rfl
        omega
      simp [Http.Response.isSuccess, this]
    have classified (url : String) : c.classify (.refusedWith url status) = e := by
      simp [BackendCall.classify, RequestError.status?, means]
    simp only [stays, fails, Bool.false_eq_true, if_false, classified]
    exact ⟨_, rfl, rfl⟩

end BackendClient

namespace MemoryBackend

variable {client : BackendClient} {cookie : Option String}

def ofJson (v : Json.Value) : Http.Delivery :=
  .answered { status := 200, body := Utf8.encode v.render.toList }

/-- What becomes of the request for a call. -/
def delivery (b : MemoryBackend) : BackendCall → Http.Delivery
  | .currentUser =>
    match b.user with
    | some u => ofJson u.toJson
    | none => .answered { status := 401 }
  | .signOut => if b.signOutFails then .dropped else .answered { status := 200 }
  | .project id =>
    if b.projectsUnreachable then .dropped
    else match b.projects.lookup id with
      | some p => ofJson p.toJson
      | none => .answered { status := 404 }
  | .projectMembers id =>
    match b.members.lookup id with
    | some ms => ofJson (.array (ms.map ProjectMember.toJson))
    | none => .answered { status := 403 }

/-- The registry after requests. Those that are for no call leave it as it is. -/
def served (b : MemoryBackend) (client : BackendClient) (sent : List Http.SentRequest) :
    MemoryBackend :=
  sent.foldl (fun b r => ((client.callAt? r.url).map fun c => (b.answer c).2).getD b) b

/-- The registry behind a network, at the addresses that a client calls. -/
def network (b : MemoryBackend) (client : BackendClient) : Network where
  world sent url :=
    match client.callAt? url with
    | some c => (b.served client sent).delivery c
    | none => .answered { status := 404 }

theorem world_network (b : MemoryBackend) (client : BackendClient) (sent : List Http.SentRequest)
    (c : BackendCall) :
    (b.network client).world sent (client.address c) = (b.served client sent).delivery c := by
  simp only [network, client.callAt?_address]

theorem served_append_request (b : MemoryBackend) (client : BackendClient)
    (sent : List Http.SentRequest) (cookie : Option String) (c : BackendCall) :
    b.served client (sent ++ [client.request cookie c]) = ((b.served client sent).answer c).2 := by
  simp [served, List.foldl_append, BackendClient.request, client.callAt?_address]

theorem conveys_delivery (b : MemoryBackend) (c : BackendCall) :
    c.Conveys (b.delivery c) (b.answer c).1 := by
  cases c with
  | currentUser =>
    simp only [delivery, answer, record, reply]
    cases b.user with
    | none => exact .failure (by decide) rfl
    | some u => exact .value (u.reads.ofBytes (by decide))
  | signOut =>
    simp only [delivery, answer, record, reply]
    by_cases fails : b.signOutFails = true
    · simp only [fails, if_true]
      exact .lost _
    · simp only [fails]
      exact .value rfl
  | project id =>
    simp only [delivery, answer, record, reply]
    by_cases unreachable : b.projectsUnreachable = true
    · simp only [unreachable, if_true]
      exact .lost _
    · simp only [unreachable]
      cases b.projects.lookup id with
      | none => exact .failure (by decide) rfl
      | some p => exact .value (p.reads.ofBytes (by decide))
  | projectMembers id =>
    simp only [delivery, answer, record, reply]
    cases b.members.lookup id with
    | none => exact .failure (by decide) rfl
    | some ms =>
      exact .value ((Decode.reads_list fun m _ => m.reads).ofBytes (by decide))

/-- The network has been sent what has brought the registry to where it is. -/
def IsBehind (start : MemoryBackend) (client : BackendClient) (network : Network)
    (b : MemoryBackend) : Prop :=
  network.world = (start.network client).world ∧ b = start.served client network.sent

theorem ask_network (onWeb : client.IsOnWeb)
    (sendable : ∀ v ∈ cookie, Http.isHeaderText (client.cookieHeader v) = true)
    {start b : MemoryBackend} {network : Network} (behind : start.IsBehind client network b)
    (c : BackendCall) :
    (client.ask cookie network c).1.mapError GuardError.wordless =
        (b.answer c).1.mapError GuardError.wordless ∧
      start.IsBehind client (client.ask cookie network c).2 (b.answer c).2 := by
  obtain ⟨same, rfl⟩ := behind
  have conveys : c.Conveys (network.world network.sent (client.address c))
      ((start.served client network.sent).answer c).1 := by
    rw [same, world_network]
    exact conveys_delivery _ c
  obtain ⟨answer', called, agrees⟩ := onWeb.call_of_conveys sendable conveys
  simp only [BackendClient.ask, called]
  exact ⟨agrees, same, (served_append_request ..).symm⟩

/-- To whoever calls with a cookie that a header can carry, over a base url on the web, a registry
in memory and the same registry behind the network give the same answers, call by call; of failures
to reach it the words may differ. The network answers each request with what the registry, brought
to where it is by the requests before, has for the call. -/
theorem stands_in (b : MemoryBackend) {config : BackendConfig}
    (configured : BackendClient.ofConfig config = .ok client)
    (web : Http.isWebScheme client.baseUrl.scheme = true)
    (named : Http.isHeaderText config.sessionCookie = true)
    (valued : ∀ v ∈ cookie, Http.isHeaderText v = true) :
    (∀ sent c, (b.network client).world sent (client.address c) =
        (b.served client sent).delivery c) ∧
      ∀ calls, (BackendCall.answers (client.ask cookie) (b.network client) calls).map
          BackendCall.wordless =
        (BackendCall.answers answer b calls).map BackendCall.wordless := by
  have onWeb := BackendClient.isOnWeb_of_ofConfig configured web
  have sendable : ∀ v ∈ cookie, Http.isHeaderText (client.cookieHeader v) = true := by
    intro v given
    have value := valued v given
    obtain ⟨url, -, made⟩ := Url.exists_of_bind_ok configured
    cases made
    simp only [Http.isHeaderText, BackendClient.cookieHeader, String.toList_append, List.all_append,
      Bool.and_eq_true] at named value ⊢
    exact ⟨⟨named, by decide⟩, value⟩
  refine ⟨b.world_network client, fun calls => ?_⟩
  exact BackendCall.answers_congr (R := b.IsBehind client)
    (fun network b' c behind => ask_network onWeb sendable behind c) ⟨rfl, rfl⟩ calls

def aliceAtHome : MemoryBackend :=
  { user := some ⟨2, "alice", false⟩
    projects := [(1, ⟨1, "library", true, 1⟩), (2, ⟨2, "größe \"x\"", false, 0⟩)]
    members := [(1, [⟨10, 1, "alice", "u", 1⟩])] }

theorem stands_in_alice :
    let client := BackendClient.byDefault
    let calls : List BackendCall := [.currentUser, .project 2, .project (-5), .projectMembers 1,
      .projectMembers 2, .signOut, .currentUser]
    let library :=
      "\x7b\"id\":1,\"name\":\"library\",\"public\":true,\"current_user_role_id\":1\x7d"
    (BackendClient.ofConfig {} = .ok client ∧ Http.isWebScheme client.baseUrl.scheme = true ∧
        Http.isHeaderText "sid" = true ∧ Http.isHeaderText "abc" = true) ∧
      (BackendCall.answers (client.ask (some "abc")) (aliceAtHome.network client) calls).map
          BackendCall.wordless =
        [⟨.currentUser, .ok ⟨2, "alice", false⟩⟩,
          ⟨.project 2, .ok ⟨2, "größe \"x\"", false, 0⟩⟩,
          ⟨.project (-5), .error (.projectNotFound (-5))⟩,
          ⟨.projectMembers 1, .ok [⟨10, 1, "alice", "u", 1⟩]⟩,
          ⟨.projectMembers 2, .error (.notAMember 2)⟩, ⟨.signOut, .ok ()⟩,
          ⟨.currentUser, .error .unauthenticated⟩] ∧
      (aliceAtHome.network client).world [] "http://127.0.0.1:8080/api/projects/1" =
        .answered { status := 200, body := Utf8.encode library.toList } := by
  intro client calls library
  have web : Http.isWebScheme client.baseUrl.scheme = true := by decide
  have named : Http.isHeaderText "sid" = true := by decide
  have valued : ∀ v ∈ some "abc", Http.isHeaderText v = true := by decide
  obtain ⟨world, answers⟩ := stands_in aliceAtHome BackendClient.ofConfig_default web named valued
  have address : client.address (.project 1) = "http://127.0.0.1:8080/api/projects/1" := by
    decide +kernel
  refine ⟨⟨BackendClient.ofConfig_default, web, named, by decide⟩, ?_, ?_⟩
  · rw [answers]
    decide +kernel
  · rw [← address, world]
    decide +kernel

end MemoryBackend

end ConsoleGateway
