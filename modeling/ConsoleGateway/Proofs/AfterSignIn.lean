import Mathlib.Data.List.DropRight
import ConsoleGateway.Http.Exchange
import ConsoleGateway.Navigation.Target

namespace ConsoleGateway

namespace Url

def ofServer (scheme : List Char) (host : Host) (port : Option Nat) : Url :=
  ⟨scheme, [], [], some host, port, .segments [[]], none, none⟩

variable {scheme scheme' cs : List Char} {base url url' : Url}

@[simp] theorem origin?_withTail (url : Url) (query fragment : Option (List Char)) :
    (url.withTail query fragment).origin? = url.origin? := rfl

theorem isSpecial_of_web (web : Http.isWebScheme scheme = true) : isSpecial scheme = true := by
  rcases (by simpa [Http.isWebScheme] using web) with rfl | rfl <;> decide

theorem ne_file_of_web (web : Http.isWebScheme scheme = true) : scheme ≠ fileScheme := by
  rintro rfl
  exact absurd web (by decide)

theorem clean_slash (cs : List Char) :
    ∃ rest, clean ('/' :: cs) = '/' :: rest ∧ ∀ c ∈ rest, c ∈ cs := by
  let drop (c : Char) : Bool := c.toNat ≤ 0x20
  have nonempty : ('/' :: cs).rdropWhile drop ≠ [] := by
    rw [ne_eq, List.rdropWhile_eq_nil_iff]
    intro h
    exact absurd (h '/' (by simp)) (by decide)
  rcases List.prefix_cons_iff.1 (List.rdropWhile_prefix drop (l := '/' :: cs)) with
    empty | ⟨rest, hkept, hrest⟩
  · exact absurd empty nonempty
  · refine ⟨rest.filter fun c => !(c = '\t' || c = '\n' || c = '\r'), ?_, fun c hc => ?_⟩
    · change (('/' :: cs).rdropWhile drop).filter _ = _
      rw [hkept]
      rfl
    · exact hrest.subset (List.mem_filter.1 hc).1

theorem splitTail_slash (cs : List Char) :
    ∃ rest query fragment, splitTail ('/' :: cs) = ('/' :: rest, query, fragment) := by
  simp only [splitTail, List.takeWhile_cons, show ('/' ≠ '#') = True by decide,
    show ('/' ≠ '?') = True by decide, decide_true, if_true, List.dropWhile_cons]
  split <;> exact ⟨_, _, _, rfl⟩

theorem parseRelative_single (base : Url) (single : ∀ c ∈ cs.head?, c ≠ '/' ∧ c ≠ '\\')
    {rest : List Char} {query fragment : Option (List Char)}
    (tail : splitTail ('/' :: cs) = ('/' :: rest, query, fragment)) :
    parseRelative base ('/' :: cs) =
      .ok ({ base with path := resolvePath base.scheme [] rest }.withTail query fragment) := by
  have notTwo : (('/' :: cs).takeWhile (isSlash true)).length < 2 := by
    cases cs with
    | nil => decide
    | cons c cs =>
      obtain ⟨notSlash, notBack⟩ := single c rfl
      simp [isSlash, notSlash, notBack]
  unfold parseRelative
  split
  · rename_i more two
    rw [(List.cons.inj two).2] at single
    exact absurd rfl (single '/' rfl).1
  · rw [if_neg (by simp only [Bool.and_eq_true, decide_eq_true_eq, not_and]; omega), tail]
    simp [isSlash]

theorem parseRelative_path (base : Url) (single : ∀ c ∈ cs.head?, c ≠ '/' ∧ c ≠ '\\') :
    ∃ path query fragment, parseRelative base ('/' :: cs) =
      .ok ({ base with path }.withTail query fragment) := by
  obtain ⟨rest, query, fragment, htail⟩ := splitTail_slash cs
  exact ⟨_, query, fragment, parseRelative_single base single htail⟩

theorem exists_of_bind_ok {x : Except ε α} {f : α → Except ε β} {b : β}
    (h : x >>= f = .ok b) : ∃ a, x = .ok a ∧ f a = .ok b := by
  cases x with
  | error e => cases h
  | ok a => exact ⟨a, rfl, h⟩

theorem parsePort_congr {port : Option Nat} (read : parsePort scheme cs = .ok port)
    (scheme' : List Char) : ∃ port', parsePort scheme' cs = .ok port' := by
  unfold parsePort at read ⊢
  split at read
  · cases read
  · rename_i valid
    rw [if_neg valid]
    split <;> exact ⟨_, rfl⟩

theorem parseAuthority_congr (special : isSpecial scheme = true)
    (special' : isSpecial scheme' = true) (read : parseAuthority scheme cs = .ok url) :
    ∃ url', parseAuthority scheme' cs = .ok url' ∧ url'.host = url.host ∧ url.host.isSome := by
  simp only [parseAuthority, special, special', if_true, true_or, and_true] at read ⊢
  split at read
  · cases read
  rename_i notEmpty
  split at read
  · cases read
  rename_i named
  obtain ⟨host, hhost, read⟩ := exists_of_bind_ok read
  obtain ⟨port, hport, read⟩ := exists_of_bind_ok read
  obtain ⟨port', hport'⟩ := parsePort_congr hport scheme'
  simp only [if_neg notEmpty, named, false_and, if_false, hhost, hport'] at read ⊢
  cases read
  exact ⟨_, rfl, rfl, rfl⟩

theorem parse_slash (base : Url) {path : List (List Char)} (segments : base.path = .segments path)
    (notFile : base.scheme ≠ fileScheme) (rest : List Char) :
    parse (some base) ('/' :: rest) = parseRelative base (clean ('/' :: rest)) := by
  obtain ⟨rest', hclean, -⟩ := clean_slash rest
  have noScheme : splitScheme? ('/' :: rest') = none := rfl
  simp only [parse, hclean, noScheme, parseWithoutScheme, segments, notFile, if_false]
  split
  · rename_i h
    cases h
  · rfl

theorem host_of_origin? (h : url.host.isSome) (same : url.origin? = url'.origin?)
    (known : url'.origin?.isSome) : url.host = url'.host := by
  obtain ⟨host, hhost⟩ := Option.isSome_iff_exists.1 h
  obtain ⟨⟨scheme, host', port⟩, horigin⟩ := Option.isSome_iff_exists.1 known
  rw [horigin] at same
  simp only [origin?, hhost, Option.pure_def, Option.bind_eq_bind, Option.bind_some,
    Option.bind_eq_some_iff, Option.some.injEq, Prod.mk.injEq] at same horigin
  obtain ⟨-, -, -, rfl, -⟩ := same
  obtain ⟨-, -, _, hhost', -, rfl, -⟩ := horigin
  rw [hhost, hhost']

end Url

theorem isSameOriginPath_eq_true {target : List Char} (accepted : isSameOriginPath target = true) :
    ∃ rest, target = '/' :: rest ∧ '\\' ∉ target ∧ ∃ joined,
      Url.parse (some standInOrigin) target = .ok joined ∧
        joined.origin? = standInOrigin.origin? := by
  unfold isSameOriginPath at accepted
  split at accepted
  · cases accepted
  · rename_i rest _
    obtain ⟨plain, same⟩ := Bool.and_eq_true_iff.1 accepted
    split at same
    · rename_i joined hjoined
      exact ⟨rest, rfl, by simpa using plain, joined, hjoined,
        by simpa using (Bool.and_eq_true_iff.1 same).2⟩
    · cases same
  · cases accepted

variable {target : List Char} (base : Url) {path : List (List Char)}

theorem parse_of_single (segments : base.path = .segments path)
    (notFile : base.scheme ≠ Url.fileScheme) (accepted : isSameOriginPath target = true)
    (single : ¬"//".toList <+: Url.clean target) :
    ∃ url, Url.parse (some base) target = .ok url ∧ url.origin? = base.origin? := by
  obtain ⟨rest, rfl, noBackslash, -⟩ := isSameOriginPath_eq_true accepted
  obtain ⟨rest', hclean, hrest⟩ := Url.clean_slash rest
  have plain : ∀ c ∈ rest'.head?, c ≠ '/' ∧ c ≠ '\\' := by
    intro c hc
    constructor
    · rintro rfl
      obtain ⟨more, rfl⟩ := List.head?_eq_some_iff.1 hc
      exact single (by simp [hclean])
    · rintro rfl
      exact noBackslash (List.mem_cons_of_mem _ (hrest _ (List.mem_of_mem_head? hc)))
  obtain ⟨path, query, fragment, hread⟩ := Url.parseRelative_path base plain
  rw [Url.parse_slash base segments notFile, hclean, hread]
  exact ⟨_, rfl, rfl⟩

theorem parse_of_double (segments : base.path = .segments path)
    (web : Http.isWebScheme base.scheme = true) (accepted : isSameOriginPath target = true)
    (double : "//".toList <+: Url.clean target) :
    ∃ url, Url.parse (some base) target = .ok url ∧ url.host = standInOrigin.host := by
  obtain ⟨rest, rfl, -, joined, hjoined, same⟩ := isSameOriginPath_eq_true accepted
  obtain ⟨rest', hrest⟩ := double
  rw [Url.parse_slash standInOrigin rfl (by decide), ← hrest] at hjoined
  rw [Url.parse_slash base segments (Url.ne_file_of_web web), ← hrest]
  obtain ⟨url, hurl, hhost, known⟩ :=
    Url.parseAuthority_congr (by decide) (Url.isSpecial_of_web web) hjoined
  exact ⟨url, hurl, hhost.trans (Url.host_of_origin? known same (by decide))⟩

/-- A target accepted after the sign-in stays on the console, whatever server that is on, unless two
slashes are left at its start once tabs and line breaks are dropped. It then leads to the stand-in's
host from every console. -/
theorem postSignInTarget_joined {scheme : List Char} (host : Url.Host) (port : Option Nat)
    {redirectUrl landing : String} (web : Http.isWebScheme scheme = true)
    (accepted : postSignInTarget (some redirectUrl) landing ≠ landing) :
    let target := (postSignInTarget (some redirectUrl) landing).toList
    let console := Url.ofServer scheme host port
    target = Unicode.trim redirectUrl.toList ∧
      ∃ url, Url.parse (some console) target = .ok url ∧
        (¬"//".toList <+: Url.clean target → url.origin? = console.origin?) ∧
        ("//".toList <+: Url.clean target → url.host = standInOrigin.host) := by
  intro target console
  have passed : isSameOriginPath (Unicode.trim redirectUrl.toList) = true := by
    by_contra refused
    simp [postSignInTarget, refused] at accepted
  have trimmed : target = Unicode.trim redirectUrl.toList := by
    simp [target, postSignInTarget, passed]
  rw [trimmed]
  refine ⟨rfl, ?_⟩
  by_cases double : "//".toList <+: Url.clean (Unicode.trim redirectUrl.toList)
  · obtain ⟨url, hurl, hhost⟩ := parse_of_double console rfl web passed double
    exact ⟨url, hurl, fun single => absurd double single, fun _ => hhost⟩
  · obtain ⟨url, hurl, horigin⟩ :=
      parse_of_single console rfl (Url.ne_file_of_web web) passed double
    exact ⟨url, hurl, fun _ => horigin, fun double' => absurd double' double⟩

def exampleConsole : Url :=
  .ofServer "https".toList (.domain "console.example".toList) none

theorem postSignInTarget_joined_logs :
    Http.isWebScheme "https".toList = true ∧
      postSignInTarget (some " /harbor/logs?page=2\n") "/harbor/projects" ≠ "/harbor/projects" ∧
      ∃ url, Url.parse (some exampleConsole)
          (postSignInTarget (some " /harbor/logs?page=2\n") "/harbor/projects").toList = .ok url ∧
        url.origin? = exampleConsole.origin? := by
  have accepted : postSignInTarget (some " /harbor/logs?page=2\n") "/harbor/projects" ≠
      "/harbor/projects" := by decide +kernel
  have web : Http.isWebScheme "https".toList = true := by decide
  obtain ⟨-, url, hurl, stays, -⟩ :=
    postSignInTarget_joined (.domain "console.example".toList) none web accepted
  exact ⟨web, accepted, url, hurl, stays (by decide +kernel)⟩

/-- A tab hides the second slash from the check, and a browser drops it. -/
theorem postSignInTarget_leavesConsole :
    ¬∀ (scheme : List Char) (host : Url.Host) (port : Option Nat) (redirectUrl landing : String),
      Http.isWebScheme scheme = true → postSignInTarget (some redirectUrl) landing ≠ landing →
        ∃ url, Url.parse (some (.ofServer scheme host port))
            (postSignInTarget (some redirectUrl) landing).toList = .ok url ∧
          url.origin? = (Url.ofServer scheme host port).origin? := by
  intro h
  have leaves : (Url.parse (some exampleConsole) (postSignInTarget
      (some "/\t/console.invalid/x") "/harbor/projects").toList).map (·.origin?) =
        .ok (some ("https".toList, .domain "console.invalid".toList, 443)) := by
    decide +kernel
  obtain ⟨url, hurl, same⟩ := h "https".toList (.domain "console.example".toList) none
    "/\t/console.invalid/x" "/harbor/projects" (by decide) (by decide +kernel)
  rw [show Url.parse (some exampleConsole) _ = _ from hurl] at leaves
  have moved : url.origin? = some ("https".toList, .domain "console.invalid".toList, 443) :=
    Except.ok.inj leaves
  rw [same] at moved
  exact absurd moved (by decide)

end ConsoleGateway
