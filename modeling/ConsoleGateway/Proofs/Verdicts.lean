import ConsoleGateway.Proofs.Addresses
import ConsoleGateway.Proofs.Network

namespace ConsoleGateway

namespace Http

/-- A request for a url ends in the answer of the last url that redirections lead to. No more of
them are followed than the limit says, and only those on the web. -/
inductive Ends (world : World) : Nat → Url → Url → Response → Prop where
  | here {limit : Nat} {url : Url} {r : Response} (answered : world (requestText url) = .answered r)
    (stays : r.target? world url = none) : Ends world limit url url r
  | there {limit : Nat} {url target final : Url} {r last : Response}
    (answered : world (requestText url) = .answered r) (leads : r.target? world url = some target)
    (web : isWebScheme target.scheme = true) (rest : Ends world limit target final last) :
    Ends world (limit + 1) url final last

variable {world : World} {cookie : Option String} {limit : Nat} {url final : Url} {r : Response}

theorem Response.isSuccess_iff : r.isSuccess = true ↔ 200 ≤ r.status ∧ r.status < 300 := by
  simp [isSuccess]

theorem ends_of_follow (ended : (follow world cookie limit url).2 = .ok (final, r)) :
    Ends world limit url final r := by
  fun_induction follow world cookie limit url with
  | case1 => cases ended
  | case2 => cases ended
  | case3 => cases ended
  | case4 cookie limit url sent first answered stays =>
    cases ended
    exact .here answered stays
  | case5 => cases ended
  | case6 cookie url sent first answered target leads limit web cookie' later result called ih =>
    exact .there answered leads web (ih (called ▸ ended))
  | case7 => cases ended

theorem Ends.follow (ends : Ends world limit url final r) (cookie : Option String) :
    (follow world cookie limit url).2 = .ok (final, r) := by
  induction ends generalizing cookie with
  | here answered stays =>
    unfold Http.follow
    simp only [answered, stays]
  | there answered leads web rest ih =>
    unfold Http.follow
    simp only [answered, leads, web, if_true]
    exact ih _

theorem url_of_head?_fetch {sent : SentRequest}
    (first : (fetch world url cookie).1.head? = some sent) :
    sent.url = requestText (withoutCredentials url) := by
  rcases fetch_sends world url cookie with nothing | same
  · rw [nothing] at first
    cases first
  · rw [same] at first
    rw [eq_of_head?_follow first]

theorem fetch_eq_ok_iff (hosted : hasHost (withoutCredentials url) = true)
    (web : isWebScheme (withoutCredentials url).scheme = true) :
    (fetch world url cookie).2 = .ok (final, r) ↔
      (∀ header ∈ cookie, isHeaderText header = true) ∧
        Ends world redirectionLimit (withoutCredentials url) final r := by
  by_cases sendable : ∀ header ∈ cookie, isHeaderText header = true
  · rw [fetch_eq_follow hosted web sendable]
    exact ⟨fun ended => ⟨sendable, ends_of_follow ended⟩, fun ⟨_, ends⟩ => ends.follow cookie⟩
  · have refused : (cookie.map isHeaderText).getD true = false := by
      cases cookie with
      | none => exact absurd nofun sendable
      | some header => simpa using sendable
    have unsent : (fetch world url cookie).2 ≠ .ok (final, r) := by simp [fetch, hosted, refused]
    exact iff_of_false unsent fun ⟨all, _⟩ => sendable all

end Http

namespace BackendCall

/-- What a body says to a call. To a sign-out all bodies are the same. -/
inductive Reads : (c : BackendCall) → List UInt8 → c.Value → Prop where
  | user {body : List UInt8} {u : CurrentUser}
    (read : Decode.ofBytes CurrentUser.reader body = .ok u) : Reads .currentUser body u
  | project {id : Int64} {body : List UInt8} {p : Project}
    (read : Decode.ofBytes Project.reader body = .ok p) : Reads (.project id) body p
  | members {id : Int64} {body : List UInt8} {ms : List ProjectMember}
    (read : Decode.ofBytes (Decode.list ProjectMember.reader) body = .ok ms) :
    Reads (.projectMembers id) body ms
  | unread {body : List UInt8} : Reads .signOut body ()

inductive Means : BackendCall → UInt16 → GuardError → Prop where
  | identity {status : UInt16} (refused : status = 401 ∨ status = 403) :
    Means .currentUser status .unauthenticated
  | missing {id : Int64} : Means (.project id) 404 (.projectNotFound id)
  | outsider {id : Int64} {status : UInt16}
    (refused : status = 401 ∨ status = 403 ∨ status = 404) :
    Means (.projectMembers id) status (.notAMember id)

inductive Refuses (c : BackendCall) (url : String) (status : UInt16) : GuardError → Prop where
  | own {e : GuardError} (means : c.Means status e) : Refuses c url status e
  | other (meaningless : ∀ e, ¬c.Means status e) :
    Refuses c url status
      (.backend status (url ++ " answered with status " ++ toString status.toNat))

inductive Told (c : BackendCall) (url : String) : Option Http.Response → c.Answer → Prop where
  | value {r : Http.Response} {v : c.Value} (success : 200 ≤ r.status ∧ r.status < 300)
    (reads : c.Reads r.body v) : Told c url (some r) (.ok v)
  | unread {r : Http.Response} {message : String} (success : 200 ≤ r.status ∧ r.status < 300)
    (unread : ∀ v, ¬c.Reads r.body v) : Told c url (some r) (.error (.transport message))
  | refused {r : Http.Response} {e : GuardError} (failed : ¬(200 ≤ r.status ∧ r.status < 300))
    (refuses : c.Refuses url r.status e) : Told c url (some r) (.error e)
  | silence {message : String} : Told c url none (.error (.transport message))

variable {c : BackendCall} {body : List UInt8} {text : String} {status : UInt16} {e : GuardError}
  {url : Url} {r : Http.Response} {final : Url}

theorem reads_iff {v : c.Value} : c.Reads body v ↔ c.readBody body = .ok v := by
  constructor
  · intro reads
    cases reads with
    | user read => exact read
    | project read => exact read
    | members read => exact read
    | unread => rfl
  · intro read
    cases c with
    | currentUser => exact .user read
    | signOut => exact .unread
    | project id => exact .project read
    | projectMembers id => exact .members read

/-- A byte that is part of no character does no harm in a string that nobody reads. -/
example :
    let body := Utf8.encode "\x7b\"id\":1,\"username\":\"ada\",\"realname\":\"Ren".toList ++
      0xE9 :: Utf8.encode "e\"\x7d".toList
    Reads .currentUser body ⟨1, "ada", false⟩ :=
  .user (by decide +kernel)

theorem Reads.unique {v v' : c.Value} (reads : c.Reads body v) (reads' : c.Reads body v') :
    v = v' := by
  rw [reads_iff] at reads reads'
  exact Except.ok.inj (reads.symm.trans reads')

theorem means_iff : c.Means status e ↔ c.meaning? status = some e := by
  constructor
  · intro means
    cases means with
    | identity refused => simp [meaning?, refused]
    | missing => rfl
    | outsider refused => simp [meaning?, refused]
  · intro means
    cases c with
    | currentUser =>
      obtain ⟨refused, rfl⟩ : (status = 401 ∨ status = 403) ∧ GuardError.unauthenticated = e := by
        simpa [meaning?] using means
      exact .identity refused
    | signOut => cases means
    | project id =>
      obtain ⟨rfl, rfl⟩ : status = 404 ∧ GuardError.projectNotFound id = e := by
        simpa [meaning?] using means
      exact .missing
    | projectMembers id =>
      obtain ⟨refused, rfl⟩ : (status = 401 ∨ status = 403 ∨ status = 404) ∧
          GuardError.notAMember id = e := by
        simpa [meaning?] using means
      exact .outsider refused

theorem refuses_iff : c.Refuses text status e ↔ c.classify (.refusedWith text status) = e := by
  rw [classify, RequestError.status?, Option.bind_some]
  cases meaning : c.meaning? status with
  | none =>
    have meaningless : ∀ e, ¬c.Means status e := fun e means => by
      rw [means_iff, meaning] at means
      cases means
    constructor
    · intro refuses
      cases refuses with
      | own means => exact absurd means (meaningless e)
      | other _ => rfl
    · rintro rfl
      exact .other meaningless
  | some own =>
    have means : c.Means status own := means_iff.2 meaning
    constructor
    · intro refuses
      cases refuses with
      | own means' =>
        rw [means_iff, meaning] at means'
        exact Option.some.inj means'
      | other meaningless => exact absurd means (meaningless own)
    · rintro rfl
      exact .own means

theorem Refuses.unique {e' : GuardError} (refuses : c.Refuses text status e)
    (refuses' : c.Refuses text status e') : e = e' :=
  (refuses_iff.1 refuses).symm.trans (refuses_iff.1 refuses')

theorem refuses_ne_transport {message : String} : ¬c.Refuses text status (.transport message) := by
  intro refuses
  cases refuses with
  | own means => cases means

namespace Told

variable {url : String} {heard : Option Http.Response} {answer : c.Answer}

theorem eq_ok_iff (told : c.Told url heard answer) {v : c.Value} : answer = .ok v ↔
    ∃ r, heard = some r ∧ (200 ≤ r.status ∧ r.status < 300) ∧ c.Reads r.body v := by
  constructor
  · rintro rfl
    cases told with
    | value success reads => exact ⟨_, rfl, success, reads⟩
  · rintro ⟨r, rfl, success, reads⟩
    cases told with
    | value _ reads' => rw [reads.unique reads']
    | unread _ unread => exact absurd reads (unread v)
    | refused failed _ => exact absurd success failed

theorem eq_error_iff (told : c.Told url heard answer)
    (reached : ∀ message, e ≠ .transport message) : answer = .error e ↔
      ∃ r, heard = some r ∧ ¬(200 ≤ r.status ∧ r.status < 300) ∧ c.Refuses url r.status e := by
  constructor
  · rintro rfl
    cases told with
    | unread _ _ => exact absurd rfl (reached _)
    | refused failed refuses => exact ⟨_, rfl, failed, refuses⟩
    | silence => exact absurd rfl (reached _)
  · rintro ⟨r, rfl, failed, refuses⟩
    cases told with
    | value success _ => exact absurd success failed
    | unread success _ => exact absurd success failed
    | refused _ refuses' => rw [refuses.unique refuses']

theorem eq_transport_iff (told : c.Told url heard answer) :
    (∃ message, answer = .error (.transport message)) ↔ heard = none ∨
      ∃ r, heard = some r ∧ (200 ≤ r.status ∧ r.status < 300) ∧ ∀ v, ¬c.Reads r.body v := by
  constructor
  · rintro ⟨message, rfl⟩
    cases told with
    | unread success unread => exact .inr ⟨_, rfl, success, unread⟩
    | refused _ refuses => exact absurd refuses refuses_ne_transport
    | silence => exact .inl rfl
  · rintro (rfl | ⟨r, rfl, success, unread⟩)
    · cases told with
      | silence => exact ⟨_, rfl⟩
    · cases told with
      | value _ reads => exact absurd reads (unread _)
      | unread _ _ => exact ⟨_, rfl⟩
      | refused failed _ => exact absurd success failed

end Told

end BackendCall

namespace BackendClient

variable {client : BackendClient} {world : Http.World} {cookie : Option String} {c : BackendCall}
  {url : Url}

theorem told_call (world : Http.World) (cookie : Option String)
    (read : client.endpoint c.path = .ok url) :
    c.Told (Http.urlText url)
      ((Http.fetch world url (cookie.map client.cookieHeader)).2.toOption.map (·.2))
      (client.call world cookie c).2 := by
  simp only [call, get, read]
  cases (Http.fetch world url (cookie.map client.cookieHeader)).2 with
  | error failure => exact .silence
  | ok ended =>
    obtain ⟨final, r⟩ := ended
    by_cases success : r.isSuccess = true
    · have succeeds := Http.Response.isSuccess_iff.1 success
      simp only [success, if_true]
      cases body : c.readBody r.body with
      | ok v => exact .value succeeds (BackendCall.reads_iff.2 body)
      | error e =>
        refine .unread succeeds fun v reads => ?_
        rw [BackendCall.reads_iff, body] at reads
        cases reads
    · simp only [success, Bool.false_eq_true, if_false]
      exact .refused (Http.Response.isSuccess_iff.not.1 success) (BackendCall.refuses_iff.2 rfl)

/-- The last answer to the request for a url, which is sent with the cookie. Nothing is heard where
no header can carry the cookie. -/
def Hears (client : BackendClient) (world : Http.World) (cookie : Option String) (url : Url)
    (r : Http.Response) : Prop :=
  (∀ v ∈ cookie, Http.isHeaderText (client.cookieHeader v) = true) ∧
    ∃ final, Http.Ends world Http.redirectionLimit (Http.withoutCredentials url) final r

/-- The answer to a call is decided by what is heard to the request for its url. -/
structure Classifies (client : BackendClient) (world : Http.World) (cookie : Option String)
    (c : BackendCall) (url : Url) : Prop where
  asked : ∀ sent ∈ (client.call world cookie c).1.head?,
    sent.url = Http.requestText (Http.withoutCredentials url)
  value {v : c.Value} : (client.call world cookie c).2 = .ok v ↔
    ∃ r, client.Hears world cookie url r ∧ (200 ≤ r.status ∧ r.status < 300) ∧ c.Reads r.body v
  refused {e : GuardError} (reached : ∀ message, e ≠ .transport message) :
    (client.call world cookie c).2 = .error e ↔ ∃ r, client.Hears world cookie url r ∧
      ¬(200 ≤ r.status ∧ r.status < 300) ∧ c.Refuses (Http.urlText url) r.status e
  unreached : (∃ message, (client.call world cookie c).2 = .error (.transport message)) ↔
    (¬∃ r, client.Hears world cookie url r) ∨
      ∃ r, client.Hears world cookie url r ∧ (200 ≤ r.status ∧ r.status < 300) ∧
        ∀ v, ¬c.Reads r.body v

theorem hears_iff (hosted : Http.hasHost (Http.withoutCredentials url) = true)
    (web : Http.isWebScheme (Http.withoutCredentials url).scheme = true) {r : Http.Response} :
    client.Hears world cookie url r ↔
      (Http.fetch world url (cookie.map client.cookieHeader)).2.toOption.map (·.2) = some r := by
  have header : (∀ header ∈ cookie.map client.cookieHeader, Http.isHeaderText header = true) ↔
      ∀ v ∈ cookie, Http.isHeaderText (client.cookieHeader v) = true := by
    cases cookie <;> simp
  rw [Hears, ← header]
  constructor
  · rintro ⟨sendable, final, ends⟩
    rw [(Http.fetch_eq_ok_iff hosted web).2 ⟨sendable, ends⟩]
    rfl
  · intro heard
    cases fetched : (Http.fetch world url (cookie.map client.cookieHeader)).2 with
    | error failure => rw [fetched] at heard; cases heard
    | ok ended =>
      obtain ⟨final, last⟩ := ended
      rw [fetched] at heard
      cases heard
      obtain ⟨sendable, ends⟩ := (Http.fetch_eq_ok_iff hosted web).1 fetched
      exact ⟨sendable, final, ends⟩

/-- Calls over a base url on the web are classified: by the status of the last answer, and by its
body where the status is a success. -/
theorem call_classifies {config : BackendConfig} (configured : ofConfig config = .ok client)
    (web : Http.isWebScheme client.baseUrl.scheme = true) (world : Http.World)
    (cookie : Option String) (c : BackendCall) :
    ∃ url, client.endpoint c.path = .ok url ∧ client.Classifies world cookie c url := by
  obtain ⟨url, read, -, hosted, web⟩ := (isOnWeb_of_ofConfig configured web).endpoint c
  have told := client.told_call world cookie read
  refine ⟨url, read, ?asked, ?value, ?refused, ?unreached⟩
  case asked =>
    intro sent first
    have requests : (client.call world cookie c).1 =
        (Http.fetch world url (cookie.map client.cookieHeader)).1 := by
      simp only [call, get, read]
    rw [requests] at first
    exact Http.url_of_head?_fetch first
  case value =>
    simp only [hears_iff hosted web]
    exact told.eq_ok_iff
  case refused =>
    intro e reached
    simp only [hears_iff hosted web]
    exact told.eq_error_iff reached
  case unreached =>
    simp only [hears_iff hosted web, ← Option.isSome_iff_exists, Option.not_isSome_iff_eq_none]
    exact told.eq_transport_iff

def outOfOrder : Http.World := fun url =>
  if url = "http://127.0.0.1:8080/api/projects/7" then
    .answered { status := 302, location := some "/gone" }
  else if url = "http://127.0.0.1:8080/gone" then .answered { status := 404 }
  else if url = "http://127.0.0.1:8080/api/users/current" then .answered { status := 503 }
  else .dropped

theorem call_classifies_outOfOrder :
    (ofConfig {} = .ok byDefault ∧ Http.isWebScheme byDefault.baseUrl.scheme = true) ∧
      (byDefault.call outOfOrder (some "abc") (.project 7)).2 = .error (.projectNotFound 7) ∧
      (byDefault.call outOfOrder none .currentUser).2 = .error (.backend 503
        "http://127.0.0.1:8080/api/users/current answered with status 503") := by
  have web : Http.isWebScheme byDefault.baseUrl.scheme = true := by decide
  let project : Url := { byDefault.baseUrl with
    path := .segments ["api".toList, "projects".toList, "7".toList] }
  let gone : Url := { byDefault.baseUrl with path := .segments ["gone".toList] }
  let user : Url := { byDefault.baseUrl with
    path := .segments ["api".toList, "users".toList, "current".toList] }
  refine ⟨⟨ofConfig_default, web⟩, ?_, ?_⟩
  · obtain ⟨url, read, classified⟩ :=
      call_classifies ofConfig_default web outOfOrder (some "abc") (.project 7)
    have same : byDefault.endpoint (BackendCall.project 7).path = .ok project := by decide +kernel
    obtain rfl : url = project := Except.ok.inj (read.symm.trans same)
    have moved : outOfOrder (Http.requestText (Http.withoutCredentials project)) =
        .answered { status := 302, location := some "/gone" } := by decide +kernel
    have leads : Http.Response.target? outOfOrder { status := 302, location := some "/gone" }
        (Http.withoutCredentials project) = some gone := by decide +kernel
    have ends : Http.Ends outOfOrder Http.redirectionLimit (Http.withoutCredentials project) gone
        { status := 404 } :=
      .there moved leads (by decide) (.here (by decide +kernel) (by decide +kernel))
    exact (classified.refused (by simp)).2 ⟨_, ⟨by decide, gone, ends⟩, by decide, .own .missing⟩
  · obtain ⟨url, read, classified⟩ :=
      call_classifies ofConfig_default web outOfOrder none .currentUser
    have same : byDefault.endpoint BackendCall.currentUser.path = .ok user := by decide +kernel
    obtain rfl : url = user := Except.ok.inj (read.symm.trans same)
    have ends : Http.Ends outOfOrder Http.redirectionLimit (Http.withoutCredentials user) user
        { status := 503 } := .here (by decide +kernel) (by decide +kernel)
    have meaningless : ∀ e, ¬BackendCall.Means .currentUser 503 e := by
      intro e means
      have none : BackendCall.meaning? .currentUser 503 = none := by decide
      rw [BackendCall.means_iff, none] at means
      cases means
    have text : Http.urlText user ++ " answered with status " ++ toString (503 : UInt16).toNat =
        "http://127.0.0.1:8080/api/users/current answered with status 503" := by decide +kernel
    rw [← text]
    exact (classified.refused (by simp)).2 ⟨_, ⟨nofun, user, ends⟩, by decide, .other meaningless⟩

end BackendClient

end ConsoleGateway
