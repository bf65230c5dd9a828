import ConsoleGateway.Navigation.Navigator

namespace ConsoleGateway

namespace Form

theorem splitOn_ne_nil (sep : Char) (cs : List Char) : splitOn sep cs ≠ [] := by
  cases cs with
  | nil => simp [splitOn]
  | cons c cs =>
    rw [splitOn]
    split
    · simp
    · split <;> simp

theorem splitOn_eq_cons {sep : Char} {cs piece : List Char} {pieces : List (List Char)}
    (h : splitOn sep cs = piece :: pieces) :
    (cs = piece ∧ pieces = []) ∨ ∃ rest, cs = piece ++ sep :: rest ∧ splitOn sep rest = pieces := by
  induction cs generalizing piece with
  | nil => simp_all [splitOn]
  | cons c cs ih =>
    rw [splitOn] at h
    split at h
    · rename_i isSep
      obtain ⟨rfl, rfl⟩ := List.cons.inj h
      exact .inr ⟨cs, by simp [isSep], rfl⟩
    · split at h
      · rename_i empty
        exact absurd empty (splitOn_ne_nil sep cs)
      · rename_i first others split
        obtain ⟨rfl, rfl⟩ := List.cons.inj h
        rcases ih split with ⟨rfl, rfl⟩ | ⟨rest, rfl, hrest⟩
        · exact .inl ⟨rfl, rfl⟩
        · exact .inr ⟨rest, rfl, hrest⟩

end Form

namespace Route

variable {path : String} {route : Route} {params : List (String × String)}

theorem find?_eq_some (found : find? path = some (route, params)) :
    route ∈ table ∧ ∃ segments, segments? path.toList = some segments ∧
      params? route.pattern segments = some params := by
  obtain ⟨segments, hsegments, htable⟩ := Option.bind_eq_some_iff.1 found
  obtain ⟨candidate, hmem, hparams⟩ := List.exists_of_findSome?_eq_some htable
  obtain ⟨found, hfound, heq⟩ := Option.map_eq_some_iff.1 hparams
  obtain ⟨rfl, rfl⟩ := Prod.mk.inj heq
  exact ⟨hmem, segments, hsegments, hfound⟩

theorem trimSlashes_prefix_self (cs : List Char) : trimSlashes cs <+: cs := by
  have h := List.dropWhile_suffix (fun c => decide (c = '/')) (l := cs.reverse)
  simpa [trimSlashes] using List.reverse_prefix.2 h

theorem params?_literal {text : String} {pattern : List Segment} {segments : List (List Char)}
    (h : params? (.literal text :: pattern) segments = some params) :
    ∃ rest, segments = text.toList :: rest ∧ params? pattern rest = some params := by
  cases segments with
  | nil => simp [params?] at h
  | cons segment segments =>
    rw [params?] at h
    split at h
    · rename_i same
      exact ⟨segments, by rw [same], h⟩
    · cases h

theorem segments?_eq_some {cs : List Char} {segments : List (List Char)}
    (h : segments? cs = some segments) : Form.splitOn '/' (trimSlashes cs) = [] :: segments := by
  unfold segments? at h
  split at h
  · rename_i pieces split
    rw [split, Option.some.inj h]
  · cases h

theorem prefix_of_find? {word : String} (found : find? path = some (route, params))
    (starts : route.pattern.take 2 = [.literal "harbor", .literal word]) :
    "/harbor/".toList ++ word.toList <+: path.toList := by
  obtain ⟨-, segments, hsegments, hparams⟩ := find?_eq_some found
  obtain ⟨rest, hpattern⟩ :
      ∃ rest, route.pattern = .literal "harbor" :: .literal word :: rest :=
    ⟨route.pattern.drop 2, by rw [← List.take_append_drop 2 route.pattern, starts]; simp⟩
  rw [hpattern] at hparams
  obtain ⟨below, rfl, hbelow⟩ := params?_literal hparams
  obtain ⟨more, rfl, -⟩ := params?_literal hbelow
  refine List.IsPrefix.trans ?_ (trimSlashes_prefix_self _)
  rcases Form.splitOn_eq_cons (segments?_eq_some hsegments) with ⟨-, h⟩ | ⟨cs, hroot, hcs⟩
  · cases h
  rcases Form.splitOn_eq_cons hcs with ⟨-, h⟩ | ⟨cs', rfl, hcs'⟩
  · cases h
  rw [hroot]
  rcases Form.splitOn_eq_cons hcs' with ⟨rfl, -⟩ | ⟨tail, rfl, -⟩ <;> simp

def words : List String :=
  ["projects", "logs", "users", "groups", "registries", "replications", "configs", "registry",
    "tags"]

theorem words_first : ∀ word ∈ words, word.toList ≠ [] ∧ word.toList.head? ≠ some 's' := by
  decide

theorem table_words : ∀ route ∈ table, route.authCheck = true → route.redirectTo = none →
    route.guards ≠ [.signIn] →
      ∃ word ∈ words, route.pattern.take 2 = [.literal "harbor", .literal word] := by
  decide

end Route

theorem Navigation.path_prefix_url {target : String} {n : Navigation}
    (parsed : Navigation.parse target = .ok n) : n.path.toList <+: n.url.toList := by
  unfold parse at parsed
  cases read : Url.parse (some standInOrigin) target.toList with
  | error e => simp [read, Except.map] at parsed
  | ok url =>
    simp only [read, Except.map, Except.ok.injEq] at parsed
    subst parsed
    cases query : url.query <;> simp [ofUrl, query]

theorem isOpenUrl_below {url : String} (c : Char) (cs : List Char)
    (h : url.toList = "/harbor/".toList ++ c :: cs) (hc : c ≠ 's') : isOpenUrl url = false := by
  have notRoot : url ≠ harborRoot := by
    rintro rfl
    simp [harborRoot] at h
  simp [isOpenUrl, notRoot, h, signInPath, List.isPrefixOf, Ne.symm hc]

theorem isOpenUrl_eq_false {target : String} {n : Navigation} {route : Route}
    {params : List (String × String)} (parsed : Navigation.parse target = .ok n)
    (found : Route.find? n.path = some (route, params)) (checked : route.authCheck = true)
    (isPage : route.redirectTo = none) (notSignIn : route.guards ≠ [.signIn]) :
    isOpenUrl n.url = false := by
  obtain ⟨word, hword, starts⟩ :=
    Route.table_words route (Route.find?_eq_some found).1 checked isPage notSignIn
  obtain ⟨rest, hurl⟩ :=
    (Route.prefix_of_find? found starts).trans (Navigation.path_prefix_url parsed)
  obtain ⟨nonempty, notS⟩ := Route.words_first word hword
  cases letters : word.toList with
  | nil => exact absurd letters nonempty
  | cons c cs =>
    exact isOpenUrl_below c (cs ++ rest) (by simp [← hurl, letters])
      (by simpa [letters] using notS)

end ConsoleGateway
