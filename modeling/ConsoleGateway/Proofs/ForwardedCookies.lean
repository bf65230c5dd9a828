import ConsoleGateway.Proofs.CookieText
import ConsoleGateway.Proofs.Network
import ConsoleGateway.Proofs.Registrations

namespace ConsoleGateway

open Http.Cookie (IsToken IsVerbatim IsTrimmed pairs)

namespace SessionRegistry

variable {ttl : Int64} {calls : List RegistryCall} {r : SessionRegistry} {cookie : String}

theorem Sound.owner_given (sound : Sound ttl calls r) (now : Int) (named : cookie ≠ "") :
    ∃ owner, ((r.contextFor now (some cookie)).2.context? (r.contextFor now (some cookie)).1).bind
        (·.cookie) = some owner ∧
      (owner = cookie ∨ owner ∈ cookiesOf calls ∧ fingerprint owner = fingerprint cookie) := by
  rcases r.contextFor_cases now (some cookie) with
    ⟨_, same, -, found, -, kept⟩ | ⟨nobody, -⟩ | ⟨_, same, -, made⟩
  · cases same
    obtain ⟨ctx, owner, there, mine, key⟩ := sound.owned.context? (mem_entries_of_find? found)
    refine ⟨owner, ?_, .inr ⟨(sound.cookies _ ctx owner there mine).2, key⟩⟩
    rw [kept, context?_modify, if_pos rfl, there]
    exact mine
  · rcases nobody with nobody | nobody
    · cases nobody
    · exact absurd (Option.some.inj nobody) named
  · cases same
    refine ⟨cookie, ?_, .inl rfl⟩
    rw [made]
    simp [register, create, context?]

theorem Sound.cookie_given (sound : Sound ttl calls r) (own : HasOwnKey cookie calls) (now : Int)
    (named : cookie ≠ "") :
    ((r.contextFor now (some cookie)).2.context? (r.contextFor now (some cookie)).1).bind
      (·.cookie) = some cookie := by
  obtain ⟨owner, mine, same | ⟨said, key⟩⟩ := sound.owner_given now named
  · rw [mine, same]
  · rw [mine, own owner said key]

end SessionRegistry

namespace GatewayState

variable {config : Config} {client : BackendClient} {calls : List RegistryCall} {value : String}
  {network : Network}

theorem navigate_sends {r : SessionRegistry} {now : Int} (given : ((r.contextFor now
      (some value)).2.context? (r.contextFor now (some value)).1).bind (·.cookie) = some value)
    (mode : NavigationMode) (target : String) : ∃ later,
      (navigate config client.handle now (some value) mode target ⟨r, network⟩).2.backend.sent =
        network.sent ++ later ∧
      ∀ sent ∈ later, sent.cookie = some (client.cookieHeader value) ∨ sent.cookie = none := by
  rw [Traffic.navigate_eq]
  simp only [given]
  exact client.run_sends (fun world c sent h => client.cookie_of_mem_call h) _ _ _

theorem serve_sends {r : SessionRegistry} {now : Int} {request : Request}
    (read : request.session? config = some value) (given : ((r.contextFor now
      (some value)).2.context? (r.contextFor now (some value)).1).bind (·.cookie) = some value)
    (files : FileTree) : ∃ later,
      (serve config files client.handle now request ⟨r, network⟩).2.backend.sent =
        network.sent ++ later ∧
      ∀ sent ∈ later, sent.cookie = some (client.cookieHeader value) ∨ sent.cookie = none := by
  have idle : ∃ later, network.sent = network.sent ++ later ∧ ∀ sent ∈ later,
      sent.cookie = some (client.cookieHeader value) ∨ sent.cookie = none :=
    ⟨[], by simp, nofun⟩
  unfold serve
  rw [read]
  cases Endpoint.ofPath request.path.toList with
  | apiIndex => exact idle
  | apiSession => exact idle
  | apiNavigation =>
    cases request.navigationTarget with
    | error e => exact idle
    | ok target => exact navigate_sends given .navigate target
  | apiNothing => exact idle
  | consolePage => exact navigate_sends given .load request.target
  | staticFile => exact idle

/-- Whatever the registry of sessions has been through, the requests sent for a browser carry the
value that was read of its cookie, as it stands; only behind a redirection to another server they
carry none. By the grammar that cookies are read by, such a request carries this one cookie exactly
when reading changes neither the name nor the value, and then two browsers count as one session for
the registry exactly when they share an entry here. -/
theorem forwards_cookie (config : Config) (files : FileTree) (calls : List RegistryCall)
    (network : Network) (now : Int) {request : Request}
    (configured : BackendClient.ofConfig config.backend = .ok client)
    (token : IsToken config.backend.sessionCookie)
    (read : request.session? config = some value) (own : HasOwnKey value calls) :
    let name := config.backend.sessionCookie
    let header := fun value => name ++ "=" ++ value
    let sessions : SessionRegistry := .after (.ofConfig config.session) calls
    let (given, after) := sessions.contextFor now (some value)
    (after.context? given).bind (·.cookie) = some value ∧
      (∃ later, (serve config files client.handle now request ⟨sessions, network⟩).2.backend.sent =
          network.sent ++ later ∧
        ∀ sent ∈ later, sent.cookie = some (header value) ∨ sent.cookie = none) ∧
      (∀ world c sent, (client.call world (some value) c).1.head? = some sent →
        sent.cookie = some (header value)) ∧
      (pairs (header value) = [(name, value)] ↔
        Percent.hasEscape name.toList = false ∧ IsVerbatim value) ∧
      (';' ∉ value.toList → (pairs (header value)).length ≤ 1) ∧
      ∀ (request' : Request) other, request'.session? config = some other →
        other ∈ cookiesOf calls → Percent.hasEscape name.toList = false → IsVerbatim value →
          IsVerbatim other → (pairs (header other) = pairs (header value) ↔
            fingerprint other = fingerprint value) := by
  intro name header sessions
  have trimmed (r : Request) {v : String} (read : r.session? config = some v) : IsTrimmed v := by
    obtain ⟨cookies, -, found⟩ := Option.bind_eq_some_iff.1 read
    exact Http.Cookie.isTrimmed_of_value? found
  have sound := SessionRegistry.sound_after config.session.ttlSecs calls
  have given := sound.cookie_given own now (trimmed request read).nonempty
  have named : ∀ v, client.cookieHeader v = header v := by
    obtain ⟨url, -, made⟩ := Url.exists_of_bind_ok configured
    cases made
    exact fun v => rfl
  have reads {v : String} (r : Request) (read : r.session? config = some v) :
      pairs (header v) = [(name, v)] ↔ Percent.hasEscape name.toList = false ∧ IsVerbatim v :=
    Http.Cookie.pairs_written_iff token (trimmed r read)
  refine ⟨given, ?_, fun world c sent first => ?_, reads request read,
    Http.Cookie.length_pairs_written_le token,
    fun request' other read' said plain verbatim verbatim' => ?_⟩
  · rw [← named]
    exact serve_sends read given files
  · rw [client.cookie_of_head?_call first, Option.map_some, named]
  · rw [(reads request read).2 ⟨plain, verbatim⟩, (reads request' read').2 ⟨plain, verbatim'⟩]
    constructor
    · intro same
      simp only [List.cons.injEq, Prod.mk.injEq, and_true, true_and] at same
      rw [same]
    · intro key
      rw [own other said key]

def strangersOnly : Network := ⟨fun _ _ => .answered { status := 401 }, []⟩

theorem forwards_cookie_logs :
    let request := Request.ofTarget "/harbor/logs" (some "sid=abc")
    let before := Request.ofTarget "/harbor/users" (some "sid=%20xyz")
    let calls : List RegistryCall := [.contextFor 0 (some "xyz")]
    let state : GatewayState Network := ⟨.after (.ofConfig {}) calls, strangersOnly⟩
    (BackendClient.ofConfig {} = .ok .byDefault ∧ IsToken "sid" ∧
        request.session? {} = some "abc" ∧ HasOwnKey "abc" calls) ∧
      (state.serve {} ⟨[]⟩ BackendClient.byDefault.handle 5 request).2.backend.sent =
        [⟨"http://127.0.0.1:8080/api/users/current", some "sid=abc"⟩] ∧
      pairs "sid=abc" = [("sid", "abc")] ∧ before.session? {} = some "xyz" ∧
      pairs "sid=xyz" ≠ pairs "sid=abc" := by
  intro request before calls state
  have token : IsToken "sid" := by decide
  have read : request.session? {} = some "abc" := by decide +kernel
  have read' : before.session? {} = some "xyz" := by decide +kernel
  have own : HasOwnKey "abc" calls := by unfold HasOwnKey; decide +kernel
  obtain ⟨-, -, -, reads, -, apart⟩ :=
    forwards_cookie {} ⟨[]⟩ calls strangersOnly 5 BackendClient.ofConfig_default token read own
  have differ : fingerprint "xyz" ≠ fingerprint "abc" := by decide +kernel
  refine ⟨⟨BackendClient.ofConfig_default, token, read, own⟩, by decide +kernel,
    reads.2 (by decide), read', fun same => differ ?_⟩
  exact (apart before "xyz" read' (by decide) (by decide) (by decide) (by decide)).1 same

/-- A browser that escapes a separator makes the registry read a second cookie. -/
theorem forwards_secondCookie :
    let request := Request.ofTarget "/harbor/logs" (some "sid=abc%3B%20sid%3Droot")
    let sent := ((GatewayState.initial {} strangersOnly).serve {} ⟨[]⟩
      BackendClient.byDefault.handle 0 request).2.backend.sent
    BackendClient.ofConfig {} = .ok .byDefault ∧ request.session? {} = some "abc; sid=root" ∧
      sent = [⟨"http://127.0.0.1:8080/api/users/current", some "sid=abc; sid=root"⟩] ∧
      pairs "sid=abc; sid=root" = [("sid", "abc"), ("sid", "root")] ∧
      ¬∀ r ∈ sent, r.cookie.map pairs = some [("sid", "abc; sid=root")] := by
  decide +kernel

end GatewayState

end ConsoleGateway
