import ConsoleGateway.Proofs.FormText
import ConsoleGateway.Proofs.Pages

namespace ConsoleGateway

theorem findSome?_eq_some_iff_of_unique {f : α → Option β} {l : List α}
    (unique : ∀ a ∈ l, ∀ b ∈ l, (f a).isSome → (f b).isSome → a = b) {y : β} :
    l.findSome? f = some y ↔ ∃ a ∈ l, f a = some y := by
  refine ⟨List.exists_of_findSome?_eq_some, fun ⟨a, ha, sought⟩ => ?_⟩
  cases found : l.findSome? f with
  | none =>
    rw [List.findSome?_eq_none_iff.1 found a ha] at sought
    cases sought
  | some z =>
    obtain ⟨b, hb, other⟩ := List.exists_of_findSome?_eq_some found
    obtain rfl := unique a ha b hb (by simp [sought]) (by simp [other])
    rw [← other, sought]

def slashed (pieces : List (List Char)) : List Char := pieces.flatMap ('/' :: ·)

namespace Form

theorem splitOn_slashed {piece : List Char} {pieces : List (List Char)} (first : '/' ∉ piece)
    (rest : ∀ p ∈ pieces, '/' ∉ p) : splitOn '/' (piece ++ slashed pieces) = piece :: pieces := by
  induction pieces generalizing piece with
  | nil => simpa [slashed] using splitOn_of_not_mem first
  | cons next pieces ih =>
    obtain ⟨hnext, hpieces⟩ := List.forall_mem_cons.1 rest
    rw [slashed, List.flatMap_cons, List.cons_append, splitOn_append first]
    exact congrArg (piece :: ·) (ih hnext hpieces)

theorem eq_slashed_of_splitOn {cs piece : List Char} {pieces : List (List Char)}
    (h : splitOn '/' cs = piece :: pieces) :
    cs = piece ++ slashed pieces ∧ ∀ p ∈ piece :: pieces, '/' ∉ p := by
  induction cs generalizing piece pieces with
  | nil => simp_all [splitOn, slashed]
  | cons c cs ih =>
    rw [splitOn] at h
    split at h
    · rename_i isSlash
      obtain ⟨rfl, rfl⟩ := List.cons.inj h
      cases cut : splitOn '/' cs with
      | nil => exact absurd cut (splitOn_ne_nil '/' cs)
      | cons next others =>
        obtain ⟨hcs, free⟩ := ih cut
        refine ⟨by rw [hcs, isSlash]; rfl, List.forall_mem_cons.2 ⟨by simp, free⟩⟩
    · rename_i notSlash
      split at h
      · rename_i empty
        exact absurd empty (splitOn_ne_nil '/' cs)
      · rename_i first others cut
        obtain ⟨rfl, rfl⟩ := List.cons.inj h
        obtain ⟨hcs, free⟩ := ih cut
        obtain ⟨hfirst, hothers⟩ := List.forall_mem_cons.1 free
        refine ⟨by rw [hcs]; rfl, List.forall_mem_cons.2 ⟨?_, hothers⟩⟩
        simpa [Ne.symm notSlash] using hfirst

end Form

namespace Segment

def name? : Segment → Option String
  | literal _ => none
  | param name => some name

/-- The text that stands for a segment once its place, if it is one, has a value. -/
def fill (values : String → String) : Segment → List Char
  | literal text => text.toList
  | param name => (values name).toList

def isPiece : Segment → Bool
  | literal text => text ≠ "" && !text.toList.contains '/'
  | param _ => true

def meets : Segment → Segment → Bool
  | literal text, literal text' => text = text'
  | _, _ => true

end Segment

namespace Route

def places (pattern : List Segment) : List String := pattern.filterMap Segment.name?

/-- A pattern with its places filled in. -/
def fill (values : String → String) (pattern : List Segment) : List Char :=
  slashed (pattern.map (·.fill values))

def valueIn (params : List (String × String)) (name : String) : String :=
  (params.lookup name).getD ""

def assign (values : String → String) (pattern : List Segment) : List (String × String) :=
  (places pattern).map fun name => (name, values name)

def meet : List Segment → List Segment → Bool
  | [], [] => true
  | s :: pattern, s' :: pattern' => s.meets s' && meet pattern pattern'
  | _, _ => false

def IsPiece (value : String) : Prop := value ≠ "" ∧ '/' ∉ value.toList

instance (value : String) : Decidable (IsPiece value) := inferInstanceAs (Decidable (_ ∧ _))

/-- The path is the pattern of the route with its places filled in, but for slashes at its end. -/
structure Matches (route : Route) (params : List (String × String)) (path : String) : Prop where
  keys : params.map (·.1) = places route.pattern
  values : ∀ pair ∈ params, IsPiece pair.2
  text : trimSlashes path.toList = fill (valueIn params) route.pattern

/-- The search through a table of routes in its order. -/
def findAmong (routes : List Route) (path : String) : Option (Route × List (String × String)) :=
  (segments? path.toList).bind fun segments =>
    routes.findSome? fun route => (params? route.pattern segments).map fun params => (route, params)

variable {cs : List Char} {segments pieces : List (List Char)} {pattern pattern' : List Segment}
  {params params' : List (String × String)}

theorem segments?_eq_some_iff :
    segments? cs = some segments ↔
      trimSlashes cs = slashed segments ∧ ∀ piece ∈ segments, '/' ∉ piece := by
  constructor
  · intro h
    obtain ⟨text, free⟩ := Form.eq_slashed_of_splitOn (segments?_eq_some h)
    exact ⟨text, (List.forall_mem_cons.1 free).2⟩
  · rintro ⟨text, free⟩
    have cut : Form.splitOn '/' (trimSlashes cs) = [] :: segments := by
      have noSlash : '/' ∉ ([] : List Char) := by simp
      rw [text]
      exact Form.splitOn_slashed noSlash free
    simp [segments?, cut]

theorem trimSlashes_append_replicate (cs : List Char) (n : Nat) :
    trimSlashes (cs ++ .replicate n '/') = trimSlashes cs := by
  simp only [trimSlashes, List.reverse_append, List.reverse_replicate]
  rw [List.dropWhile_append_of_pos (by simp)]

theorem trimSlashes_slashed (whole : ∀ piece ∈ pieces, piece ≠ [] ∧ '/' ∉ piece) :
    trimSlashes (slashed pieces) = slashed pieces := by
  rcases List.eq_nil_or_concat pieces with rfl | ⟨before, last, rfl⟩
  · rfl
  · obtain ⟨nonempty, free⟩ := whole last (by simp)
    obtain ⟨start, c, rfl⟩ := (List.eq_nil_or_concat last).resolve_left nonempty
    have notSlash : c ≠ '/' := by
      rintro rfl
      simp at free
    simp [trimSlashes, slashed, notSlash]

theorem fill_cons_of_not_mem {name value : String} (new : name ∉ places pattern) :
    pattern.map (·.fill (valueIn ((name, value) :: params))) =
      pattern.map (·.fill (valueIn params)) := by
  refine List.map_congr_left fun s hs => ?_
  cases s with
  | literal text => rfl
  | param other =>
    have apart : (other == name) = false := by
      rw [beq_eq_false_iff_ne]
      rintro rfl
      exact new (List.mem_filterMap.2 ⟨.param other, hs, rfl⟩)
    simp [Segment.fill, valueIn, List.lookup_cons, apart]

theorem params?_param {name : String} {segment : List Char} :
    params? (.param name :: pattern) (segment :: segments) = some params ↔
      ∃ later, params = (name, .ofList segment) :: later ∧ segment ≠ [] ∧
        params? pattern segments = some later := by
  rw [params?]
  split
  · rename_i empty
    simp [empty]
  · rename_i nonempty
    rw [Option.map_eq_some_iff]
    constructor
    · rintro ⟨later, found, rfl⟩
      exact ⟨later, rfl, nonempty, found⟩
    · rintro ⟨later, rfl, -, found⟩
      exact ⟨later, found, rfl⟩

theorem params?_eq_some_iff (distinct : (places pattern).Nodup) :
    params? pattern segments = some params ↔
      params.map (·.1) = places pattern ∧ (∀ pair ∈ params, pair.2 ≠ "") ∧
        segments = pattern.map (·.fill (valueIn params)) := by
  induction pattern generalizing segments params with
  | nil =>
    cases segments with
    | nil =>
      simp only [params?, Option.some.injEq, places, List.filterMap_nil, List.map_eq_nil_iff,
        List.map_nil, and_true]
      exact ⟨fun h => by simp [← h], fun h => h.1.symm⟩
    | cons segment segments => simp [params?]
  | cons s pattern ih =>
    cases segments with
    | nil => cases s <;> simp [params?]
    | cons segment segments =>
      cases s with
      | literal text =>
        have same : places (.literal text :: pattern) = places pattern := rfl
        rw [same] at distinct ⊢
        rw [params?, List.map_cons, List.cons.injEq, Segment.fill]
        split
        · rename_i word
          simp [ih distinct, word]
        · rename_i other
          simp [other]
      | param name =>
        have more : places (.param name :: pattern) = name :: places pattern := rfl
        rw [more, List.nodup_cons] at distinct
        rw [more, params?_param]
        obtain ⟨new, rest⟩ := distinct
        constructor
        · rintro ⟨later, rfl, nonempty, hlater⟩
          obtain ⟨keys, values, text⟩ := (ih rest).1 hlater
          refine ⟨by simp [keys], List.forall_mem_cons.2 ⟨by simpa using nonempty, values⟩, ?_⟩
          rw [List.map_cons, fill_cons_of_not_mem new, ← text]
          simp [Segment.fill, valueIn]
        · rintro ⟨keys, values, text⟩
          cases params with
          | nil => cases keys
          | cons pair params =>
            obtain ⟨key, value⟩ := pair
            obtain ⟨named, later⟩ : key = name ∧ params.map (·.1) = places pattern := by
              simpa using keys
            obtain ⟨nonempty, others⟩ := List.forall_mem_cons.1 values
            rw [named, List.map_cons, fill_cons_of_not_mem new] at text
            obtain ⟨first, below⟩ := List.cons.inj text
            have spelled : segment = value.toList := by simpa [Segment.fill, valueIn] using first
            refine ⟨params, by simp [named, spelled], by simpa [spelled] using nonempty,
              (ih rest).2 ⟨later, others, below⟩⟩

theorem params?_cons {s : Segment} {segment : List Char}
    (h : params? (s :: pattern) (segment :: segments) = some params) :
    (∀ text, s = .literal text → segment = text.toList) ∧
      ∃ later, params? pattern segments = some later := by
  cases s with
  | literal text =>
    obtain ⟨rest, split, found⟩ := params?_literal h
    obtain ⟨word, rfl⟩ := List.cons.inj split
    exact ⟨fun _ same => by cases same; exact word, params, found⟩
  | param name =>
    obtain ⟨later, -, -, found⟩ := params?_param.1 h
    exact ⟨nofun, later, found⟩

theorem toList_mem_of_params? (h : params? pattern segments = some params) :
    ∀ pair ∈ params, pair.2.toList ∈ segments := by
  induction pattern generalizing segments params with
  | nil => cases segments <;> simp_all [params?]
  | cons s pattern ih =>
    cases segments with
    | nil => cases s <;> simp [params?] at h
    | cons segment segments =>
      cases s with
      | literal text =>
        obtain ⟨rest, split, found⟩ := params?_literal h
        obtain ⟨-, rfl⟩ := List.cons.inj split
        exact fun pair hpair => List.mem_cons_of_mem _ (ih found pair hpair)
      | param name =>
        obtain ⟨later, rfl, -, found⟩ := params?_param.1 h
        refine List.forall_mem_cons.2 ⟨by simp, fun pair hpair => ?_⟩
        exact List.mem_cons_of_mem _ (ih found pair hpair)

theorem meet_of_params? (h : params? pattern segments = some params)
    (h' : params? pattern' segments = some params') : meet pattern pattern' = true := by
  induction segments generalizing pattern pattern' params params' with
  | nil =>
    cases pattern with
    | nil =>
      cases pattern' with
      | nil => rfl
      | cons s' pattern' => cases s' <;> simp [params?] at h'
    | cons s pattern => cases s <;> simp [params?] at h
  | cons segment segments ih =>
    cases pattern with
    | nil => simp [params?] at h
    | cons s pattern =>
      cases pattern' with
      | nil => simp [params?] at h'
      | cons s' pattern' =>
        obtain ⟨word, later, rest⟩ := params?_cons h
        obtain ⟨word', later', rest'⟩ := params?_cons h'
        rw [meet, ih rest rest', Bool.and_true]
        cases s with
        | param name => rfl
        | literal text =>
          cases s' with
          | param name => rfl
          | literal text' =>
            have same : text.toList = text'.toList := (word text rfl).symm.trans (word' text' rfl)
            simpa [Segment.meets] using String.toList_inj.1 same

theorem piece_fill (keys : params.map (·.1) = places pattern)
    (values : ∀ pair ∈ params, IsPiece pair.2) (words : ∀ s ∈ pattern, s.isPiece = true) :
    ∀ piece ∈ pattern.map (·.fill (valueIn params)), piece ≠ [] ∧ '/' ∉ piece := by
  intro piece hpiece
  obtain ⟨s, hs, rfl⟩ := List.mem_map.1 hpiece
  cases s with
  | literal text => simpa [Segment.isPiece, Segment.fill] using words _ hs
  | param name =>
    have named : name ∈ params.map (·.1) := by
      rw [keys]
      exact List.mem_filterMap.2 ⟨.param name, hs, rfl⟩
    cases found : params.lookup name with
    | none =>
      obtain ⟨pair, hpair, rfl⟩ := List.mem_map.1 named
      simpa using List.lookup_eq_none_iff.1 found pair hpair
    | some value =>
      obtain ⟨before, after, split, -⟩ := List.lookup_eq_some_iff.1 found
      obtain ⟨nonempty, free⟩ := values (name, value) (by simp [split])
      simpa [Segment.fill, valueIn, found] using ⟨nonempty, free⟩

theorem table_places : ∀ route ∈ table, (places route.pattern).Nodup := by decide

theorem table_pieces : ∀ route ∈ table, ∀ s ∈ route.pattern, s.isPiece = true := by decide

theorem table_apart : ∀ route ∈ table, ∀ route' ∈ table,
    meet route.pattern route'.pattern = true → route = route' := by
  decide +kernel

variable {route : Route} {routes : List Route} {path : String}

theorem matches_iff (listed : route ∈ table) :
    route.Matches params path ↔ ∃ segments, segments? path.toList = some segments ∧
      params? route.pattern segments = some params := by
  have distinct := table_places route listed
  constructor
  · rintro ⟨keys, values, text⟩
    have whole := piece_fill keys values (table_pieces route listed)
    refine ⟨_, segments?_eq_some_iff.2 ⟨text, fun piece hpiece => (whole piece hpiece).2⟩, ?_⟩
    exact (params?_eq_some_iff distinct).2 ⟨keys, fun pair hpair => (values pair hpair).1, rfl⟩
  · rintro ⟨segments, hsegments, hparams⟩
    obtain ⟨text, free⟩ := segments?_eq_some_iff.1 hsegments
    obtain ⟨keys, nonempty, rfl⟩ := (params?_eq_some_iff distinct).1 hparams
    exact ⟨keys, fun pair hpair =>
      ⟨nonempty pair hpair, free _ (toList_mem_of_params? hparams pair hpair)⟩, text⟩

theorem matches_unique {route' : Route} (listed : route ∈ table) (listed' : route' ∈ table)
    (h : route.Matches params path) (h' : route'.Matches params' path) :
    route = route' ∧ params = params' := by
  obtain ⟨segments, cut, found⟩ := (matches_iff listed).1 h
  obtain ⟨segments', cut', found'⟩ := (matches_iff listed').1 h'
  obtain rfl := Option.some.inj (cut.symm.trans cut')
  obtain rfl := table_apart route listed route' listed' (meet_of_params? found found')
  exact ⟨rfl, Option.some.inj (found.symm.trans found')⟩

theorem findAmong_eq_some_iff (reordered : routes.Perm table) :
    findAmong routes path = some (route, params) ↔ route ∈ table ∧ route.Matches params path := by
  have found (segments : List (List Char)) :
      (routes.findSome? fun r => (params? r.pattern segments).map fun ps => (r, ps)) =
          some (route, params) ↔
        route ∈ table ∧ params? route.pattern segments = some params := by
    rw [findSome?_eq_some_iff_of_unique]
    · simp [reordered.mem_iff, Option.map_eq_some_iff]
    · intro r hr r' hr' some_r some_r'
      obtain ⟨ps, hps⟩ := Option.isSome_iff_exists.1 (by simpa using some_r)
      obtain ⟨ps', hps'⟩ := Option.isSome_iff_exists.1 (by simpa using some_r')
      exact table_apart r (reordered.mem_iff.1 hr) r' (reordered.mem_iff.1 hr')
        (meet_of_params? hps hps')
  rw [findAmong, Option.bind_eq_some_iff]
  constructor
  · rintro ⟨segments, cut, hit⟩
    obtain ⟨listed, hparams⟩ := (found segments).1 hit
    exact ⟨listed, (matches_iff listed).2 ⟨segments, cut, hparams⟩⟩
  · rintro ⟨listed, fits⟩
    obtain ⟨segments, cut, hparams⟩ := (matches_iff listed).1 fits
    exact ⟨segments, cut, (found segments).2 ⟨listed, hparams⟩⟩

theorem valueIn_assign {values : String → String} {name : String}
    (named : name ∈ places pattern) : valueIn (assign values pattern) name = values name := by
  unfold valueIn assign
  generalize places pattern = names at named
  induction names with
  | nil => cases named
  | cons other names ih =>
    by_cases same : name = other
    · simp [same]
    · rcases List.mem_cons.1 named with here | later
      · exact absurd here same
      · simpa [List.lookup_cons, beq_eq_false_iff_ne.2 same] using ih later

theorem fill_assign (values : String → String) (pattern : List Segment) :
    fill (valueIn (assign values pattern)) pattern = fill values pattern := by
  refine congrArg slashed (List.map_congr_left fun s hs => ?_)
  cases s with
  | literal text => rfl
  | param name =>
    have named : name ∈ places pattern := List.mem_filterMap.2 ⟨.param name, hs, rfl⟩
    rw [Segment.fill, Segment.fill, valueIn_assign named]

theorem matches_fill (listed : route ∈ table) {values : String → String}
    (whole : ∀ name ∈ places route.pattern, IsPiece (values name)) (n : Nat) :
    route.Matches (assign values route.pattern)
      (.ofList (fill values route.pattern ++ .replicate n '/')) := by
  have keys : (assign values route.pattern).map (·.1) = places route.pattern := by
    simp [assign, Function.comp_def]
  have pieces : ∀ pair ∈ assign values route.pattern, IsPiece pair.2 := by
    intro pair hpair
    obtain ⟨name, named, rfl⟩ := List.mem_map.1 hpair
    exact whole name named
  refine ⟨keys, pieces, ?_⟩
  rw [String.toList_ofList, trimSlashes_append_replicate, ← fill_assign]
  exact trimSlashes_slashed (piece_fill keys pieces (table_pieces route listed))

/-- Matching is exact. A path leads to a route, with values for its places, if and only if it is the
pattern of the route filled in with them, but for slashes at its end. No path matches two routes, so
the order of the table makes no difference; and whatever a pattern is filled in to leads back to its
route with the same values, whether they repeat the fixed words of patterns or not. -/
theorem find?_exact :
    (∀ path route params,
      find? path = some (route, params) ↔ route ∈ table ∧ route.Matches params path) ∧
    (∀ path, ∀ route ∈ table, ∀ route' ∈ table, ∀ params params',
      route.Matches params path → route'.Matches params' path →
        route = route' ∧ params = params') ∧
    (∀ path routes, routes.Perm table → findAmong routes path = find? path) ∧
    ∀ route ∈ table, ∀ values : String → String,
      (∀ name ∈ places route.pattern, IsPiece (values name)) → ∀ n,
        find? (.ofList (fill values route.pattern ++ .replicate n '/')) =
          some (route, assign values route.pattern) := by
  have precise (path : String) (route : Route) (params : List (String × String)) :
      find? path = some (route, params) ↔ route ∈ table ∧ route.Matches params path :=
    findAmong_eq_some_iff (.refl table)
  refine ⟨precise, fun path route listed route' listed' params params' h h' =>
    matches_unique listed listed' h h', fun path routes reordered => ?_,
    fun route listed values whole n => (precise _ _ _).2 ⟨listed, matches_fill listed whole n⟩⟩
  refine Option.ext fun ⟨route, params⟩ => ?_
  rw [findAmong_eq_some_iff reordered, precise]

theorem find?_exact_chart :
    let path := "/harbor/projects/tags/helm-charts/versions/versions/ä b//"
    let values := fun name => if name = "id" then "tags" else if name = "chart" then "versions"
      else "ä b"
    let params := [("id", "tags"), ("chart", "versions"), ("version", "ä b")]
    ∃ route ∈ table, route.name = "chart-detail" ∧
      (∀ name ∈ places route.pattern, IsPiece (values name)) ∧
        find? path = some (route, params) ∧ route.Matches params path ∧
          table.reverse.Perm table ∧ findAmong table.reverse path = some (route, params) := by
  intro path values params
  obtain ⟨precise, -, anyOrder, back⟩ := find?_exact
  let route := projectPage "chart-detail"
    (underProject [.literal "helm-charts", .param "chart", .literal "versions", .param "version"])
  have listed : route ∈ table := by decide
  have whole : ∀ name ∈ places route.pattern, IsPiece (values name) := by decide
  have spelled : .ofList (fill values route.pattern ++ .replicate 2 '/') = path := by
    decide +kernel
  have assigned : assign values route.pattern = params := by decide
  have found : find? path = some (route, params) := by
    rw [← spelled, ← assigned]
    exact back route listed values whole 2
  have turned : table.reverse.Perm table := List.reverse_perm table
  exact ⟨route, listed, rfl, whole, found, ((precise _ _ _).1 found).2, turned,
    (anyOrder path _ turned).trans found⟩

theorem infix_of_find? (found : find? path = some (route, params)) :
    ∀ pair ∈ params, pair.2.toList <:+: path.toList := by
  intro pair hpair
  obtain ⟨-, segments, cut, hparams⟩ := find?_eq_some found
  obtain ⟨text, -⟩ := segments?_eq_some_iff.1 cut
  obtain ⟨before, after, split⟩ := List.append_of_mem (toList_mem_of_params? hparams pair hpair)
  have here : slashed segments = (slashed before ++ ['/']) ++ pair.2.toList ++ slashed after := by
    simp [split, slashed]
  have inside : pair.2.toList <:+: trimSlashes path.toList := by
    rw [text, here]
    exact List.infix_append _ _ _
  exact inside.trans (trimSlashes_prefix_self _).isInfix

/-- In a path of less than 2^16 bytes, sixteen bits hold where the value of each place begins and
where it ends. -/
theorem offsets_of_find? (found : find? path = some (route, params))
    (short : (Utf8.encode path.toList).length < UInt16.size) : ∀ pair ∈ params, ∃ before after,
      path.toList = before ++ pair.2.toList ++ after ∧
        (Utf8.encode before).length ≤ (Utf8.encode (before ++ pair.2.toList)).length ∧
        (Utf8.encode (before ++ pair.2.toList)).length < UInt16.size := by
  intro pair hpair
  obtain ⟨before, after, split⟩ := infix_of_find? found pair hpair
  refine ⟨before, after, split.symm, by simp, ?_⟩
  calc (Utf8.encode (before ++ pair.2.toList)).length
    _ ≤ (Utf8.encode (before ++ pair.2.toList ++ after)).length := by simp
    _ < UInt16.size := by rwa [split]

end Route

end ConsoleGateway
