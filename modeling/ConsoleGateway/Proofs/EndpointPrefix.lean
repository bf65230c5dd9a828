import ConsoleGateway.Proofs.Addresses
import ConsoleGateway.Proofs.Network

namespace ConsoleGateway

namespace Url

def IsDirectory (cs : List Char) : Prop := ∀ c ∈ cs.getLast?, c = '/'

variable {scheme cs rest : List Char} {base url : Url} {suffix : String}

theorem isDirectory_append_slash (cs : List Char) : IsDirectory (cs ++ ['/']) := by
  intro c last
  rw [List.getLast?_append] at last
  exact (Option.some.inj last).symm

theorem IsDirectory.of_suffix (dir : IsDirectory cs) (suffix : rest <:+ cs) : IsDirectory rest := by
  intro c last
  obtain ⟨front, rfl⟩ := suffix
  refine dir c ?_
  rw [List.getLast?_append, Option.mem_def.1 last]
  rfl

theorem IsDirectory.eq_nil_or_append (dir : IsDirectory cs) :
    cs = [] ∨ ∃ front, cs = front ++ ['/'] := by
  rcases List.eq_nil_or_concat cs with empty | ⟨front, c, rfl⟩
  · exact .inl empty
  · have : c = '/' := dir c (by simp)
    exact .inr ⟨front, by simp [this]⟩

theorem mem_of_mem_clean {c : Char} (kept : c ∈ clean cs) : c ∈ cs := by
  have inner := List.mem_reverse.1 (List.mem_filter.1 kept).1
  have front := List.mem_reverse.1 ((List.dropWhile_sublist _).subset inner)
  exact (List.dropWhile_sublist _).subset front

theorem isDirectory_clean (cs : List Char) : IsDirectory (clean (cs ++ ['/'])) := by
  let drop (c : Char) : Bool := c.toNat ≤ 0x20
  have stays : drop '/' = false := rfl
  obtain ⟨front, hfront⟩ : ∃ front, (cs ++ ['/']).dropWhile drop = front ++ ['/'] := by
    rw [List.dropWhile_append]
    split
    · exact ⟨[], by simp [stays]⟩
    · exact ⟨_, rfl⟩
  have back : ((front ++ ['/']).reverse.dropWhile drop).reverse = front ++ ['/'] := by
    simp [stays]
  change IsDirectory ((((cs ++ ['/']).dropWhile drop).reverse.dropWhile drop).reverse.filter _)
  rw [hfront, back, List.filter_append]
  exact isDirectory_append_slash _

theorem suffix_of_splitScheme? (split : splitScheme? cs = some (scheme, rest)) : rest <:+ cs := by
  unfold splitScheme? at split
  split at split
  · split at split
    · rename_i after
      cases split
      have tail : ':' :: rest <:+ cs := after ▸ List.dropWhile_suffix isSchemeChar
      exact (List.suffix_cons ':' rest).trans tail
    · cases split
  · cases split

theorem splitSegments_append_slash (special : Bool) (cs : List Char) : ∃ piece pieces,
    splitSegments special (cs ++ ['/']) = piece :: pieces ++ [[]] := by
  -- The segment that stands first is kept apart, for a character before it goes into that one.
  induction cs with
  | nil => exact ⟨[], [], by simp [splitSegments, isSlash]⟩
  | cons c cs ih =>
    obtain ⟨piece, pieces, split⟩ := ih
    rw [List.cons_append, splitSegments, split]
    split
    · exact ⟨[], piece :: pieces, rfl⟩
    · exact ⟨c :: piece, pieces, rfl⟩

theorem IsDirectory.splitSegments (dir : IsDirectory cs) (special : Bool) : ∃ pieces,
    splitSegments special cs = pieces ++ [[]] := by
  rcases dir.eq_nil_or_append with rfl | ⟨front, rfl⟩
  · exact ⟨[], rfl⟩
  · obtain ⟨piece, pieces, split⟩ := splitSegments_append_slash special front
    exact ⟨_, split⟩

theorem walk_append_nil (above pieces : List (List Char)) : ∃ above',
    walk false above (pieces ++ [[]]) = [] :: above' := by
  induction pieces generalizing above with
  | nil => exact ⟨above, rfl⟩
  | cons piece pieces ih =>
    obtain ⟨next, more, hmore⟩ : ∃ next more, pieces ++ [[]] = next :: more :=
      List.exists_cons_of_ne_nil (by simp)
    rw [List.cons_append, hmore, walk, ← hmore]
    · split
      · exact ih _
      split
      · exact ih _
      · exact ih _
    · simp

theorem IsDirectory.resolvePath (dir : IsDirectory cs) (notFile : scheme ≠ fileScheme)
    (base : List (List Char)) : ∃ above, resolvePath scheme base cs = .segments (above ++ [[]]) := by
  obtain ⟨pieces, split⟩ := dir.splitSegments (isSpecial scheme)
  obtain ⟨above, walked⟩ := walk_append_nil base.reverse pieces
  exact ⟨above.reverse, by simp [Url.resolvePath, notFile, split, walked]⟩

theorem IsDirectory.rootedPath (dir : IsDirectory cs) (special : isSpecial scheme = true)
    (notFile : scheme ≠ fileScheme) : ∃ above, rootedPath scheme cs = .segments (above ++ [[]]) := by
  cases cs with
  | nil => exact ⟨[], by simp [Url.rootedPath, special]⟩
  | cons c cs =>
    refine IsDirectory.resolvePath ?_ notFile []
    split
    · exact dir.of_suffix (List.suffix_cons c cs)
    · exact dir

theorem path_of_parse_append_slash (read : parse none (cs ++ ['/']) = .ok url)
    (web : Http.isWebScheme url.scheme = true) (plain : ∀ c ∈ cs, c ≠ '#' ∧ c ≠ '?') :
    ∃ above, url.path = .segments (above ++ [[]]) := by
  obtain ⟨scheme, rest, split, special, notFile, read⟩ := exists_authority_of_web read web
  have tail : rest.dropWhile (isSlash true) <:+ clean (cs ++ ['/']) :=
    (List.dropWhile_suffix _).trans (suffix_of_splitScheme? split)
  have noTail : ∀ c ∈ rest.dropWhile (isSlash true), c ≠ '#' ∧ c ≠ '?' := by
    intro c hc
    rcases List.mem_append.1 (mem_of_mem_clean (tail.subset hc)) with front | slash
    · exact plain c front
    · rw [List.mem_singleton.1 slash]
      decide
  obtain ⟨_, _, _, _, _, -, rfl⟩ := exists_of_parseAuthority special read
  rw [splitTail_of_forall noTail]
  refine IsDirectory.rootedPath ?_ special notFile
  exact (isDirectory_clean cs).of_suffix ((List.dropWhile_suffix _).trans tail)

/-- A url on the server of another one, with more text behind its path and nothing behind that. -/
structure IsBelow (base : Url) (suffix : String) (url : Url) : Prop where
  scheme : url.scheme = base.scheme
  host : url.host = base.host
  port : url.port = base.port
  path : url.path.text = base.path.text ++ suffix.toList
  query : url.query = none
  fragment : url.fragment = none

theorem IsBelow.withoutCredentials (below : base.IsBelow suffix url) :
    base.IsBelow suffix (Http.withoutCredentials url) := by
  obtain ⟨username, password, left⟩ := Http.exists_withoutCredentials url
  have own : Http.withoutCredentials url = { url with username, password } :=
    left url.path url.query url.fragment
  rw [own]
  exact ⟨below.scheme, below.host, below.port, below.path, below.query, below.fragment⟩

end Url

namespace BackendClient

variable {client : BackendClient} {config : BackendConfig} {c : BackendCall}

/-- A call asks for a url: its first request, with any cookie that a header can carry, is for that
url, unless no request for it is sent at all. -/
def AsksFor (client : BackendClient) (c : BackendCall) (url : Url) : Prop :=
  ∀ (world : Http.World) (cookie : Option String),
    (∀ v ∈ cookie, Http.isHeaderText (client.cookieHeader v) = true) →
      (client.call world cookie c).1.head? =
        if (world (Http.requestText url)).isSent then
          some ⟨Http.requestText url, cookie.map client.cookieHeader⟩
        else none

/-- The path of a call is joined to the base url as it stands, and what is asked for is the joined
url without the credentials in it. -/
def KeepsPrefix (client : BackendClient) (c : BackendCall) (suffix : String) : Prop :=
  ∃ url, client.endpoint c.path = .ok url ∧ client.baseUrl.IsBelow suffix url ∧
    client.AsksFor c (Http.withoutCredentials url) ∧
      client.baseUrl.IsBelow suffix (Http.withoutCredentials url)

theorem baseText_append_slashes (s : String) (n : Nat) :
    baseText (s ++ .ofList (.replicate n '/')) = baseText s := by
  have slashes : ∀ c ∈ List.replicate n '/', decide (c = '/') = true := by
    intro c hc
    exact decide_eq_true (List.eq_of_mem_replicate hc)
  simp only [baseText, String.toList_append, String.toList_ofList, List.reverse_append,
    List.reverse_replicate, List.dropWhile_append_of_pos slashes]

theorem IsOnWeb.keepsPrefix (onWeb : client.IsOnWeb) {above : List (List Char)}
    (path : client.baseUrl.path = .segments (above ++ [[]])) (c : BackendCall) :
    client.KeepsPrefix c c.path := by
  obtain ⟨url, read, -, hosted, web⟩ := onWeb.endpoint c
  have joined := onWeb.endpoint_eq path c
  have below : client.baseUrl.IsBelow c.path url := by
    cases read.symm.trans joined
    refine ⟨rfl, rfl, rfl, ?_, rfl, rfl⟩
    rw [path, c.path_toList]
    simp [Url.Path.text]
  refine ⟨url, read, below, ?_, below.withoutCredentials⟩
  intro world cookie sendable
  have headers : ∀ header ∈ cookie.map client.cookieHeader, Http.isHeaderText header = true := by
    simpa using sendable
  have fetched : (client.call world cookie c).1 = (Http.follow world
      (cookie.map client.cookieHeader) Http.redirectionLimit (Http.withoutCredentials url)).1 := by
    simp only [call, get, read, Http.fetch_eq_follow hosted web headers]
  rw [fetched, Http.head?_follow]

/-- Below a base url on the web without a query and a fragment, all calls are for urls of its server
that have nothing but the call behind its path, which ends in a slash; and slashes at the end of the
base url change nothing. -/
theorem ofConfig_keepsPrefix (configured : ofConfig config = .ok client)
    (web : Http.isWebScheme client.baseUrl.scheme = true)
    (plain : ∀ c ∈ config.baseUrl.toList, c ≠ '#' ∧ c ≠ '?') :
    (∃ front, client.baseUrl.path.text = front ++ ['/']) ∧
      client.KeepsPrefix .currentUser "api/users/current" ∧
      client.KeepsPrefix .signOut "c/log_out" ∧
      (∀ id : Int64, client.KeepsPrefix (.project id) ("api/projects/" ++ toString id.toInt) ∧
        client.KeepsPrefix (.projectMembers id)
          ("api/projects/" ++ toString id.toInt ++ "/members")) ∧
      ∀ n, ofConfig { config with
        baseUrl := config.baseUrl ++ .ofList (.replicate n '/') } = .ok client := by
  have onWeb := isOnWeb_of_ofConfig configured web
  obtain ⟨above, path⟩ : ∃ above, client.baseUrl.path = .segments (above ++ [[]]) := by
    obtain ⟨url, read, made⟩ := Url.exists_of_bind_ok configured
    cases made
    refine Url.path_of_parse_append_slash read web fun c hc => plain c ?_
    have kept := (List.dropWhile_sublist _).subset (List.mem_reverse.1 hc)
    exact List.mem_reverse.1 kept
  have keeps := onWeb.keepsPrefix path
  refine ⟨⟨(Url.Path.segments above).text, ?_⟩, keeps .currentUser, keeps .signOut,
    fun id => ⟨keeps (.project id), keeps (.projectMembers id)⟩, fun n => ?_⟩
  · rw [path]
    simp [Url.Path.text]
  · rw [ofConfig, baseText_append_slashes]
    exact configured

def untidy : BackendConfig :=
  { baseUrl := "HTTP://ann:pw@Core:8080\\a/./%2e%2E//Reg istry//" }

def untidyClient : BackendClient :=
  { baseUrl :=
      { scheme := "http".toList, username := "ann".toList, password := "pw".toList,
        host := some (.domain "core".toList), port := some 8080,
        path := .segments [[], "Reg%20istry".toList, []], query := none, fragment := none }
    cookieName := "sid" }

theorem ofConfig_keepsPrefix_untidy :
    (ofConfig untidy = .ok untidyClient ∧
        Http.isWebScheme untidyClient.baseUrl.scheme = true ∧
        ∀ c ∈ untidy.baseUrl.toList, c ≠ '#' ∧ c ≠ '?') ∧
      (untidyClient.call (fun _ => .dropped) (some "abc") (.projectMembers (-5))).1.head? =
        some ⟨"http://core:8080//Reg%20istry/api/projects/-5/members", some "sid=abc"⟩ ∧
      ofConfig { untidy with baseUrl := untidy.baseUrl ++ "///" } = .ok untidyClient := by
  have configured : ofConfig untidy = .ok untidyClient := by decide +kernel
  have web : Http.isWebScheme untidyClient.baseUrl.scheme = true := by decide
  have noTail : untidy.baseUrl.toList.all (fun c => c ≠ '#' ∧ c ≠ '?') = true := by decide
  have plain : ∀ c ∈ untidy.baseUrl.toList, c ≠ '#' ∧ c ≠ '?' := by simpa using noTail
  obtain ⟨-, -, -, calls, slashes⟩ := ofConfig_keepsPrefix configured web plain
  obtain ⟨url, read, -, asks, -⟩ := (calls (-5)).2
  let joined : Url := { untidyClient.baseUrl with
    path := .segments ([[], "Reg%20istry".toList] ++
      ["api".toList, "projects".toList, "-5".toList, "members".toList]) }
  have same : untidyClient.endpoint (BackendCall.projectMembers (-5)).path = .ok joined := by
    decide +kernel
  obtain rfl : url = joined := Except.ok.inj (read.symm.trans same)
  have text : Http.requestText (Http.withoutCredentials joined) =
      "http://core:8080//Reg%20istry/api/projects/-5/members" := by
    decide +kernel
  refine ⟨⟨configured, web, plain⟩, ?_, slashes 3⟩
  rw [asks _ _ (by decide), text]
  rfl

end BackendClient

end ConsoleGateway
