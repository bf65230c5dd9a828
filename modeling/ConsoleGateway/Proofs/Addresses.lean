import ConsoleGateway.Backend.Client
import ConsoleGateway.Gateway.Endpoint
import ConsoleGateway.Proofs.JsonTokens
import ConsoleGateway.Proofs.Settled

namespace ConsoleGateway

namespace Integer

theorem digits?_toDigits (n : Nat) : digits? (Nat.toDigits 10 n) = some n := by
  have all : (Nat.toDigits 10 n).all isDigit = true :=
    List.all_eq_true.2 fun c hc => Json.isDigit_of_mem_toDigits hc
  have same : (fun n c => n * 10 + (c.toNat - 48)) = fun n (c : Char) =>
      10 * n + (c.toNat - '0'.toNat) := by
    funext n c
    rw [Nat.mul_comm]
    rfl
  have read : value (Nat.toDigits 10 n) = n := by
    rw [value, same]
    exact Nat.ofDigitChars_ten_toDigits
  rw [digits?, if_pos ⟨Nat.toDigits_ne_nil, all⟩, read]

theorem integer?_toString (z : Int) : integer? (toString z).toList = some z := by
  rw [Json.toList_toString_int]
  by_cases negative : z < 0
  · have size : -(z.natAbs : Int) = z := by omega
    simp only [negative, if_true, List.singleton_append, integer?, digits?_toDigits]
    exact congrArg some size
  · have size : (z.natAbs : Int) = z := by omega
    obtain ⟨c, cs, start, isDigit⟩ := Json.exists_toDigits z.natAbs
    have unsigned : c ≠ '-' ∧ c ≠ '+' := by
      constructor <;>
      · rintro rfl
        exact absurd isDigit (by decide)
    have read := digits?_toDigits z.natAbs
    rw [start] at read
    rw [if_neg negative, List.nil_append, start]
    unfold integer?
    split
    · rename_i minus
      exact absurd (List.cons.inj minus).1 unsigned.1
    · unfold natural?
      split
      · rename_i plus
        exact absurd (List.cons.inj plus).1 unsigned.2
      · rw [read]
        exact congrArg some size

theorem int64?_toString (z : Int64) : int64? (toString z.toInt) = some z := by
  have low := z.le_toInt
  have high := z.toInt_lt
  have least : Int64.minValue.toInt = -2 ^ 63 := rfl
  have most : Int64.maxValue.toInt = 2 ^ 63 - 1 := rfl
  have fits : fitsInt64 z.toInt = true := by
    simp only [fitsInt64, Bool.and_eq_true, decide_eq_true_eq, least, most]
    omega
  rw [int64?, integer?_toString, Option.bind_some, if_pos fits, Int64.ofInt_toInt]

end Integer

namespace Url

variable {scheme cs : List Char} {url base : Url} {dir segments : List (List Char)}
  {segment : List Char}

theorem parseHost_ne_empty {host : Host} (read : parseHost cs = .ok host) :
    host ≠ .domain [] := by
  unfold parseHost at read
  split at read
  · rename_i bracketed
    unfold bracketed? at bracketed
    split at bracketed
    · cases bracketed
      split at read
      · unfold Except.map at read
        split at read
        · cases read
        · cases read
          exact nofun
      · cases read
    · cases bracketed
  · split at read
    · cases read
    · obtain ⟨name, -, read⟩ := exists_of_bind_ok read
      split at read
      · cases read
      · rename_i nonempty
        split at read
        · obtain ⟨address, -, read⟩ := exists_of_bind_ok read
          cases read
          exact nofun
        · cases read
          exact fun same => nonempty (Host.domain.inj same)

theorem parseAuthority_scheme (read : parseAuthority scheme cs = .ok url) :
    url.scheme = scheme := by
  cases special : isSpecial scheme with
  | true | false =>
    simp only [parseAuthority, special, if_true, if_false, Bool.false_eq_true] at read
    split at read
    · cases read
    split at read
    · cases read
    obtain ⟨host, -, read⟩ := exists_of_bind_ok read
    obtain ⟨port, -, read⟩ := exists_of_bind_ok read
    split at read
    · cases read
    · cases read
      rfl

structure IsServed (url : Url) : Prop where
  host : ∃ host, url.host = some host ∧ host ≠ .domain []
  path : ∃ segments, url.path = .segments segments

theorem parseAuthority_isServed (special : isSpecial scheme = true)
    (notFile : scheme ≠ fileScheme) (read : parseAuthority scheme cs = .ok url) :
    url.IsServed := by
  obtain ⟨segments, path, -⟩ := parseAuthority_isSettled special notFile read
  obtain ⟨username, password, host, port, hostText, named, rfl⟩ :=
    exists_of_parseAuthority special read
  exact ⟨⟨host, rfl, parseHost_ne_empty named⟩, segments, path⟩

theorem parseFile_scheme (read : parseFile none cs = .ok url) : url.scheme = fileScheme := by
  unfold parseFile at read
  dsimp only at read
  split at read
  · split at read
    · split at read
      · cases read
        rfl
      · obtain ⟨host, -, read⟩ := exists_of_bind_ok read
        split at read <;>
        · cases read
          rfl
    · split at read <;>
      · cases read
        rfl
  · split at read <;>
    · cases read
      rfl
  · cases read
    rfl

theorem exists_authority_of_web (read : parse none cs = .ok url)
    (web : Http.isWebScheme url.scheme = true) : ∃ scheme rest,
      splitScheme? (clean cs) = some (scheme, rest) ∧ isSpecial scheme = true ∧
        scheme ≠ fileScheme ∧ parseAuthority scheme (rest.dropWhile (isSlash true)) = .ok url := by
  have special := isSpecial_of_web web
  have notFile := ne_file_of_web web
  unfold parse at read
  dsimp only at read
  split at read
  · rename_i scheme rest split
    unfold parseAfterScheme at read
    split at read
    · exact absurd (parseFile_scheme read) notFile
    split at read
    · rename_i scheme_ special'
      exact ⟨scheme, rest, split, special', scheme_, read⟩
    · rename_i plain
      have same : url.scheme = scheme := by
        split at read
        · exact parseAuthority_scheme read
        · cases read
          rfl
        · cases read
          rfl
      rw [same] at special
      exact absurd special plain
  · cases read

theorem parse_isServed (read : parse none cs = .ok url) (web : Http.isWebScheme url.scheme = true) :
    url.IsServed := by
  obtain ⟨scheme, rest, -, special, notFile, read⟩ := exists_authority_of_web read web
  exact parseAuthority_isServed special notFile read

theorem splitScheme?_of_slash (plain : ∀ c ∈ segment, isSchemeChar c = true) (cs : List Char) :
    splitScheme? (segment ++ '/' :: cs) = none := by
  have stops : (segment ++ '/' :: cs).dropWhile isSchemeChar = '/' :: cs := by
    rw [List.dropWhile_append_of_pos plain, List.dropWhile_cons_of_neg (by decide)]
  unfold splitScheme?
  rw [stops]
  split <;> rfl

theorem splitTail_of_forall (plain : ∀ c ∈ cs, c ≠ '#' ∧ c ≠ '?') :
    splitTail cs = (cs, none, none) := by
  have noHash : ∀ c ∈ cs, decide (c ≠ '#') = true := fun c hc => decide_eq_true (plain c hc).1
  have noMark : ∀ c ∈ cs, decide (c ≠ '?') = true := fun c hc => decide_eq_true (plain c hc).2
  simp only [splitTail, List.takeWhile_eq_self_iff.2 noHash, List.dropWhile_eq_nil_iff.2 noHash,
    List.dropWhile_eq_nil_iff.2 noMark]

theorem baseDirectory_of_segments (path : base.path = .segments segments) :
    baseDirectory (some base) = segments.dropLast := by
  cases base
  cases path
  rfl

def IsUndotted (c : Char) : Prop :=
  escapedInPath c = false ∧ isSlash true c = false ∧ smallLetter c ≠ '.' ∧ smallLetter c ≠ '%'

instance (c : Char) : Decidable (IsUndotted c) := inferInstanceAs (Decidable (_ ∧ _))

theorem isSettledSegment_of_undotted (undotted : ∀ c ∈ segment, IsUndotted c)
    (nonempty : segment ≠ []) : IsSettledSegment segment := by
  have noDots : ¬Dots (segment.map smallLetter) := by
    obtain ⟨c, cs, rfl⟩ := List.exists_cons_of_ne_nil nonempty
    obtain ⟨-, -, noDot, noEscape⟩ := undotted c (by simp)
    intro dots
    generalize small : (c :: cs).map smallLetter = text at dots
    cases dots with
    | nil => cases small
    | dot => exact noDot (List.cons.inj small).1
    | escaped => exact noEscape (List.cons.inj small).1
  refine ⟨fun c hc => (undotted c hc).1, fun c hc => (undotted c hc).2.1, ?_, ?_⟩
  · exact eq_false_of_ne_true fun single => noDots (dots_of_isSingleDot single)
  · exact eq_false_of_ne_true fun double => noDots (dots_of_isDoubleDot double)

theorem parse_segments (special : isSpecial base.scheme = true) (notFile : base.scheme ≠ fileScheme)
    (path : base.path = .segments dir) (named : segment ≠ [])
    (noScheme : ∀ c ∈ segment, isSchemeChar c = true) (more : segments ≠ [])
    (settled : ∀ piece ∈ segment :: segments, IsSettledSegment piece) :
    parse (some base) (segment ++ (Path.segments segments).text) =
      .ok { base with
        path := .segments (dir.dropLast ++ segment :: segments)
        query := none
        fragment := none } := by
  obtain ⟨hsegment, hsegments⟩ := List.forall_mem_cons.1 settled
  have visible : ∀ c ∈ segment ++ (Path.segments segments).text,
      0x20 < c.toNat ∧ c.toNat < 0x7F ∧ c ≠ '#' ∧ c ≠ '?' := by
    intro c hc
    rcases List.mem_append.1 hc with first | later
    · exact visible_of_escapedInPath (hsegment.plain c first)
    · have target : IsSettledTarget segments none := ⟨hsegments, nofun⟩
      exact target.text_visible later
  have kept := clean_of_forall fun c hc => (visible c hc).1
  have tail := splitTail_of_forall fun c hc => (visible c hc).2.2
  have scheme : splitScheme? (segment ++ (Path.segments segments).text) = none := by
    obtain ⟨next, others, rfl⟩ := List.exists_cons_of_ne_nil more
    exact splitScheme?_of_slash noScheme _
  have followed : resolvePath base.scheme (baseDirectory (some base))
      (segment ++ (Path.segments segments).text) =
        .segments (dir.dropLast ++ segment :: segments) := by
    rw [baseDirectory_of_segments path]
    simp [resolvePath, notFile, special, splitSegments_text hsegment hsegments,
      walk_settled dir.dropLast.reverse settled]
  obtain ⟨c, cs, rfl⟩ := List.exists_cons_of_ne_nil named
  have noSlash : isSlash true c = false := hsegment.whole c (by simp)
  have start : c ≠ '#' ∧ c ≠ '/' := by
    constructor
    · exact (visible c (by simp)).2.2.1
    · rintro rfl
      cases noSlash
  simp only [List.cons_append] at kept tail scheme followed ⊢
  unfold parse
  simp only [kept, scheme]
  unfold parseWithoutScheme
  dsimp only
  split
  · rename_i hash
    exact absurd (List.cons.inj hash).1 start.1
  · simp only [path, notFile, if_false]
    unfold parseRelative
    split
    · rename_i slash
      exact absurd (List.cons.inj slash).1 start.2
    · simp [tail, noSlash, special, followed, withTail]

end Url

namespace BackendCall

def segments : BackendCall → List Char × List (List Char)
  | currentUser => ("api".toList, ["users".toList, "current".toList])
  | signOut => ("c".toList, ["log_out".toList])
  | project id => ("api".toList, ["projects".toList, (toString id.toInt).toList])
  | projectMembers id =>
    ("api".toList, ["projects".toList, (toString id.toInt).toList, "members".toList])

variable {c : BackendCall}

theorem path_project (id : Int64) : (project id).path = "api/projects/" ++ toString id.toInt := rfl

theorem path_projectMembers (id : Int64) :
    (projectMembers id).path = "api/projects/" ++ toString id.toInt ++ "/members" := rfl

theorem path_toList (c : BackendCall) :
    c.path.toList = c.segments.1 ++ (Url.Path.segments c.segments.2).text := by
  cases c with
  | currentUser => rfl
  | signOut => rfl
  | project id => simp [path_project, segments, Url.Path.text]
  | projectMembers id => simp [path_projectMembers, segments, Url.Path.text]

theorem isSettledSegment_toString (z : Int) : Url.IsSettledSegment (toString z).toList := by
  have digit : ∀ k < 10, Url.IsUndotted (.ofNat (48 + k)) := by decide
  have all : ∀ c ∈ (toString z).toList, Url.IsUndotted c := by
    intro c hc
    rw [Json.toList_toString_int, List.mem_append] at hc
    rcases hc with minus | digits
    · split at minus
      · rw [List.mem_singleton.1 minus]
        decide
      · cases minus
    · have range := Json.isDigit_of_mem_toDigits digits
      simp only [Json.isDigit, Bool.and_eq_true, decide_eq_true_eq] at range
      have := digit (c.toNat - 48) (by omega)
      rwa [show 48 + (c.toNat - 48) = c.toNat by omega, Char.ofNat_toNat] at this
  refine Url.isSettledSegment_of_undotted all fun empty => ?_
  rw [Json.toList_toString_int] at empty
  exact Nat.toDigits_ne_nil (List.append_eq_nil_iff.1 empty).2

theorem isSettledSegment_segments (c : BackendCall) :
    ∀ piece ∈ c.segments.1 :: c.segments.2, Url.IsSettledSegment piece := by
  cases c with
  | currentUser => decide
  | signOut => decide
  | project id =>
    simp only [segments, List.forall_mem_cons]
    exact ⟨by decide, by decide, isSettledSegment_toString id.toInt, nofun⟩
  | projectMembers id =>
    simp only [segments, List.forall_mem_cons]
    exact ⟨by decide, by decide, isSettledSegment_toString id.toInt, by decide, nofun⟩

def ofPath? (path : List Char) : Option BackendCall :=
  if path = currentUser.path.toList then some .currentUser
  else if path = signOut.path.toList then some .signOut
  else (Endpoint.dropText? "api/projects/".toList path).bind fun rest =>
    (Integer.int64? (.ofList (rest.takeWhile (· ≠ '/')))).bind fun id =>
      if rest.dropWhile (· ≠ '/') = [] then some (.project id)
      else if rest.dropWhile (· ≠ '/') = "/members".toList then some (.projectMembers id)
      else none

theorem ofPath?_path (c : BackendCall) : ofPath? c.path.toList = some c := by
  have number (z : Int) : ∀ c ∈ (toString z).toList, decide (c ≠ '/') = true := by
    intro c hc
    have whole := (isSettledSegment_toString z).whole c hc
    refine decide_eq_true ?_
    rintro rfl
    cases whole
  have below (text : List Char) : Endpoint.dropText? "api/projects/".toList
      ("api/projects/".toList ++ text) = some text := by
    simp [Endpoint.dropText?]
  have apart (text : List Char) : "api/projects/".toList ++ text ≠ currentUser.path.toList ∧
      "api/projects/".toList ++ text ≠ signOut.path.toList := by
    have users : currentUser.path = "api/users/current" := rfl
    have out : signOut.path = "c/log_out" := rfl
    simp [users, out]
  cases c with
  | currentUser => decide
  | signOut => decide
  | project id =>
    have spelled : (project id).path.toList =
        "api/projects/".toList ++ (toString id.toInt).toList := by
      rw [path_project, String.toList_append]
    rw [spelled, ofPath?, if_neg (apart _).1, if_neg (apart _).2, below, Option.bind_some,
      List.takeWhile_eq_self_iff.2 (number id.toInt), List.dropWhile_eq_nil_iff.2 (number id.toInt),
      String.ofList_toList, Integer.int64?_toString, Option.bind_some, if_pos rfl]
  | projectMembers id =>
    have spelled : (projectMembers id).path.toList =
        "api/projects/".toList ++ ((toString id.toInt).toList ++ "/members".toList) := by
      rw [path_projectMembers, String.toList_append, String.toList_append, List.append_assoc]
    have digits : ((toString id.toInt).toList ++ "/members".toList).takeWhile (· ≠ '/') =
        (toString id.toInt).toList := by
      rw [List.takeWhile_append_of_pos (number id.toInt)]
      simp
    have rest : ((toString id.toInt).toList ++ "/members".toList).dropWhile (· ≠ '/') =
        "/members".toList := by
      rw [List.dropWhile_append_of_pos (number id.toInt)]
      simp
    rw [spelled, ofPath?, if_neg (apart _).1, if_neg (apart _).2, below, Option.bind_some, digits,
      rest, String.ofList_toList, Integer.int64?_toString, Option.bind_some, if_neg (by decide),
      if_pos rfl]

end BackendCall

namespace BackendClient

variable {client : BackendClient} {config : BackendConfig}

def root (client : BackendClient) : List Char :=
  let url := Http.withoutCredentials client.baseUrl
  url.scheme ++ ':' :: url.authorityText ++
    (Url.Path.segments (Url.baseDirectory (some client.baseUrl))).text ++ ['/']

def address (client : BackendClient) (c : BackendCall) : String :=
  .ofList (client.root ++ c.path.toList)

def callAt? (client : BackendClient) (url : String) : Option BackendCall :=
  (Endpoint.dropText? client.root url.toList).bind BackendCall.ofPath?

theorem callAt?_address (client : BackendClient) (c : BackendCall) :
    client.callAt? (client.address c) = some c := by
  have below : Endpoint.dropText? client.root (client.root ++ c.path.toList) =
      some c.path.toList := by
    simp [Endpoint.dropText?]
  rw [callAt?, address, String.toList_ofList, below, Option.bind_some, BackendCall.ofPath?_path]

structure IsOnWeb (client : BackendClient) : Prop where
  web : Http.isWebScheme client.baseUrl.scheme = true
  served : client.baseUrl.IsServed

theorem isOnWeb_of_ofConfig (configured : ofConfig config = .ok client)
    (web : Http.isWebScheme client.baseUrl.scheme = true) : client.IsOnWeb := by
  obtain ⟨url, read, made⟩ := Url.exists_of_bind_ok configured
  cases made
  exact ⟨web, Url.parse_isServed read web⟩

end BackendClient

namespace Http

theorem exists_withoutCredentials (url : Url) : ∃ username password, ∀ path query fragment,
    withoutCredentials { url with path, query, fragment } =
      { url with username, password, path, query, fragment } := by
  unfold withoutCredentials
  dsimp only
  split
  · exact ⟨url.username, url.password, fun _ _ _ => rfl⟩
  · rename_i name _
    let left := name ≠ [] ∨ url.password ≠ [] ∧
      (Utf8.decode? (Percent.decode url.password)).isSome = true
    by_cases found : left
    · exact ⟨[], [], fun _ _ _ => if_pos (by simpa [left] using found)⟩
    · exact ⟨url.username, url.password, fun _ _ _ => if_neg (by simpa [left] using found)⟩

end Http

namespace BackendClient

variable {client : BackendClient}

theorem IsOnWeb.endpoint_eq (onWeb : client.IsOnWeb) {dir : List (List Char)}
    (path : client.baseUrl.path = .segments dir) (c : BackendCall) :
    client.endpoint c.path = .ok { client.baseUrl with
      path := .segments (dir.dropLast ++ c.segments.1 :: c.segments.2)
      query := none
      fragment := none } := by
  have named : c.segments.1 ≠ [] := by cases c <;> exact nofun
  have noScheme : c.segments.1.all Url.isSchemeChar = true := by cases c <;> rfl
  have more : c.segments.2 ≠ [] := by cases c <;> exact nofun
  rw [BackendClient.endpoint, c.path_toList]
  exact Url.parse_segments (Url.isSpecial_of_web onWeb.web) (Url.ne_file_of_web onWeb.web) path
    named (List.all_eq_true.1 noScheme) more c.isSettledSegment_segments

theorem IsOnWeb.endpoint (onWeb : client.IsOnWeb) (c : BackendCall) :
    ∃ url, client.endpoint c.path = .ok url ∧
      Http.requestText (Http.withoutCredentials url) = client.address c ∧
      Http.hasHost (Http.withoutCredentials url) = true ∧
      Http.isWebScheme (Http.withoutCredentials url).scheme = true := by
  obtain ⟨host, named, real⟩ := onWeb.served.host
  obtain ⟨dir, path⟩ := onWeb.served.path
  obtain ⟨username, password, left⟩ := Http.exists_withoutCredentials client.baseUrl
  refine ⟨_, onWeb.endpoint_eq path c, ?_, ?_, ?_⟩
  · have own : Http.withoutCredentials client.baseUrl =
        { client.baseUrl with username, password } :=
      left client.baseUrl.path client.baseUrl.query client.baseUrl.fragment
    rw [left, address, root, own, Url.baseDirectory_of_segments path, c.path_toList]
    simp [Http.requestText, Http.urlText, Url.text, Url.authorityText, Url.userinfoText, named,
      Url.Path.text]
  · rw [left, Http.hasHost, named]
    simp [real]
  · rw [left]
    exact onWeb.web

end BackendClient

end ConsoleGateway
