import ConsoleGateway.Proofs.AfterSignIn
import ConsoleGateway.Proofs.FormText
import ConsoleGateway.Unicode.Blank

/-! Paths and queries that are spelled as reading spells them. Reading leaves such a text as it is,
and what it makes of any path on a web server is such a text; so a target that has been read once
can be read again. -/

namespace ConsoleGateway

namespace Percent

variable {escaped : Char → Bool} {cs : List Char} {c : Char}

theorem encode_of_forall (h : ∀ c ∈ cs, escaped c = false) : encode escaped cs = cs := by
  induction cs with
  | nil => rfl
  | cons c cs ih =>
    obtain ⟨hc, hcs⟩ := List.forall_mem_cons.1 h
    simpa [encode, hc] using ih hcs

theorem mem_encode (h : c ∈ encode escaped cs) :
    (c ∈ cs ∧ escaped c = false) ∨ c = '%' ∨ ∃ k < 16, c = upperHexDigit k := by
  obtain ⟨d, hd, hc⟩ := List.mem_flatMap.1 h
  split at hc
  · obtain ⟨b, -, hb⟩ := List.mem_flatMap.1 hc
    have := b.toNat_lt
    simp only [escape, List.mem_cons, List.not_mem_nil, or_false] at hb
    rcases hb with rfl | rfl | rfl
    · exact .inr (.inl rfl)
    · exact .inr (.inr ⟨_, by omega, rfl⟩)
    · exact .inr (.inr ⟨_, by omega, rfl⟩)
  · rename_i plain
    rw [List.mem_singleton.1 hc]
    exact .inl ⟨hd, by simpa using plain⟩

end Percent

namespace Unicode

theorem trimBy_of_forall {drop : Char → Bool} {cs : List Char} (h : ∀ c ∈ cs, drop c = false) :
    trimBy drop cs = cs := by
  have front : ∀ ds : List Char, (∀ c ∈ ds, drop c = false) → ds.dropWhile drop = ds := by
    intro ds hds
    cases ds with
    | nil => rfl
    | cons d ds => simp [(List.forall_mem_cons.1 hds).1]
  rw [trimBy, front cs h, front cs.reverse (by simpa using h), List.reverse_reverse]

end Unicode

namespace Url

structure IsSettledSegment (segment : List Char) : Prop where
  plain : ∀ c ∈ segment, escapedInPath c = false
  whole : ∀ c ∈ segment, isSlash true c = false
  single : isSingleDot segment = false
  double : isDoubleDot segment = false

theorem isSettledSegment_iff {segment : List Char} : IsSettledSegment segment ↔
    segment.any escapedInPath = false ∧ segment.any (isSlash true) = false ∧
      isSingleDot segment = false ∧ isDoubleDot segment = false := by
  simp only [List.any_eq_false, Bool.not_eq_true]
  exact ⟨fun h => ⟨h.plain, h.whole, h.single, h.double⟩,
    fun ⟨plain, whole, single, double⟩ => ⟨plain, whole, single, double⟩⟩

instance (segment : List Char) : Decidable (IsSettledSegment segment) :=
  decidable_of_iff' _ isSettledSegment_iff

def IsSettledQuery (query : List Char) : Prop := ∀ c ∈ query, escapedInQuery true c = false

def targetText (segments : List (List Char)) (query : Option (List Char)) : List Char :=
  (Path.segments segments).text ++
    match query with
    | some query => '?' :: query
    | none => []

variable {segments : List (List Char)} {segment cs : List Char} {query : Option (List Char)}
  {c : Char}

theorem plain_hexDigit : ∀ k < 16, escapedInPath (Percent.upperHexDigit k) = false ∧
    isSlash true (Percent.upperHexDigit k) = false ∧
      escapedInQuery true (Percent.upperHexDigit k) = false := by
  decide

theorem isSettledQuery_encode (cs : List Char) :
    IsSettledQuery (Percent.encode (escapedInQuery true) cs) := by
  intro c hc
  rcases Percent.mem_encode hc with ⟨-, plain⟩ | rfl | ⟨k, hk, rfl⟩
  · exact plain
  · decide
  · exact (plain_hexDigit k hk).2.2

inductive Dots : List Char → Prop where
  | nil : Dots []
  | dot {cs : List Char} : Dots cs → Dots ('.' :: cs)
  | escaped {cs : List Char} : Dots cs → Dots ('%' :: '2' :: 'e' :: cs)

theorem eq_dot_of_smallLetter (h : smallLetter c = '.') : c = '.' := by
  unfold smallLetter at h
  split at h
  · have noDot : ∀ k < 26, Char.ofNat (k + 97) ≠ '.' := by decide
    refine absurd h ?_
    rw [show c.toNat + 32 = c.toNat - 65 + 97 by omega]
    exact noDot _ (by omega)
  · exact h

theorem isSingleDot_iff :
    isSingleDot segment = true ↔
      segment.map smallLetter = ['.'] ∨ segment.map smallLetter = ['%', '2', 'e'] := by
  have dot : segment = ['.'] ↔ segment.map smallLetter = ['.'] := by
    refine ⟨fun h => by rw [h]; rfl, fun h => ?_⟩
    obtain ⟨c, rfl, hc⟩ := List.map_eq_singleton_iff.1 h
    rw [eq_dot_of_smallLetter hc]
  simp [isSingleDot, dot]

theorem dots_of_isSingleDot (h : isSingleDot segment = true) : Dots (segment.map smallLetter) := by
  rcases isSingleDot_iff.1 h with one | one
  · rw [one]
    exact .dot .nil
  · rw [one]
    exact .escaped .nil

theorem dots_of_isDoubleDot (h : isDoubleDot segment = true) : Dots (segment.map smallLetter) := by
  unfold isDoubleDot at h
  split at h
  · rename_i two
    rw [two]
    exact .dot (.dot .nil)
  · rename_i two
    rw [two]
    exact .dot (.escaped .nil)
  · rename_i two
    rw [two]
    exact .escaped (.dot .nil)
  · rename_i two
    rw [two]
    exact .escaped (.escaped .nil)
  · cases h

theorem eq_dot_of_escape :
    ∀ b, (Percent.escape b).map smallLetter = ['%', '2', 'e'] → b = 0x2E :=
  Utf8.forall_byte (by decide +kernel)

theorem map_encode_cons (c : Char) (cs : List Char) :
    (Percent.encode escapedInPath (c :: cs)).map smallLetter =
      (if escapedInPath c then ((Utf8.encodeChar c).flatMap Percent.escape).map smallLetter
        else [smallLetter c]) ++ (Percent.encode escapedInPath cs).map smallLetter := by
  cases escaped : escapedInPath c <;> simp [Percent.encode, escaped]

theorem map_encode_eq_cons {d : Char} {ds : List Char} (plain : d ≠ '%')
    (h : (Percent.encode escapedInPath segment).map smallLetter = d :: ds) :
    ∃ c cs, segment = c :: cs ∧ smallLetter c = d ∧
      (Percent.encode escapedInPath cs).map smallLetter = ds := by
  cases segment with
  | nil => cases h
  | cons c cs =>
    rw [map_encode_cons] at h
    split at h
    · obtain ⟨b, bs, hb, -⟩ := Utf8.encodeChar_eq_cons c
      rw [hb] at h
      exact absurd (List.cons.inj h).1.symm plain
    · exact ⟨c, cs, rfl, List.cons.inj h⟩

theorem map_encode_eq_escape {ds : List Char}
    (h : (Percent.encode escapedInPath segment).map smallLetter = '%' :: '2' :: 'e' :: ds) :
    ∃ c cs, segment = c :: cs ∧ smallLetter c = '%' ∧
      (Percent.encode escapedInPath cs).map smallLetter = '2' :: 'e' :: ds := by
  cases segment with
  | nil => cases h
  | cons c cs =>
    rw [map_encode_cons] at h
    split at h
    · rename_i escaped
      obtain ⟨b, bs, hb, first⟩ := Utf8.encodeChar_eq_cons c
      rw [hb] at h
      have isDot : b = 0x2E := eq_dot_of_escape b (List.append_inj_left h rfl)
      rw [isDot] at first
      rcases first with same | more
      · have : c = '.' := by
          rw [← Char.ofNat_toNat c, ← same]
          rfl
        rw [this] at escaped
        exact absurd escaped (by decide)
      · exact absurd more (by decide)
    · exact ⟨c, cs, rfl, List.cons.inj h⟩

theorem map_eq_of_dots {cs : List Char} (dots : Dots cs)
    (h : (Percent.encode escapedInPath segment).map smallLetter = cs) :
    segment.map smallLetter = cs := by
  induction dots generalizing segment with
  | nil =>
    cases segment with
    | nil => rfl
    | cons c cs =>
      obtain ⟨b, bs, hb, -⟩ := Utf8.encodeChar_eq_cons c
      rw [map_encode_cons, hb] at h
      split at h <;> cases h
  | dot dots ih =>
    obtain ⟨c, cs, rfl, hc, hcs⟩ := map_encode_eq_cons (by decide) h
    rw [List.map_cons, hc, ih hcs]
  | escaped dots ih =>
    obtain ⟨c, cs, rfl, hc, hcs⟩ := map_encode_eq_escape h
    obtain ⟨two, cs, rfl, htwo, hcs⟩ := map_encode_eq_cons (by decide) hcs
    obtain ⟨e, cs, rfl, he, hcs⟩ := map_encode_eq_cons (by decide) hcs
    rw [List.map_cons, List.map_cons, List.map_cons, hc, htwo, he, ih hcs]

theorem isSettledSegment_nil : IsSettledSegment [] := ⟨nofun, nofun, rfl, rfl⟩

theorem isSettledSegment_encode (whole : ∀ c ∈ segment, isSlash true c = false)
    (single : isSingleDot segment = false) (double : isDoubleDot segment = false) :
    IsSettledSegment (Percent.encode escapedInPath segment) where
  plain c hc := by
    rcases Percent.mem_encode hc with ⟨-, plain⟩ | rfl | ⟨k, hk, rfl⟩
    · exact plain
    · decide
    · exact (plain_hexDigit k hk).1
  whole c hc := by
    rcases Percent.mem_encode hc with ⟨here, -⟩ | rfl | ⟨k, hk, rfl⟩
    · exact whole c here
    · decide
    · exact (plain_hexDigit k hk).2.1
  single := by
    refine Bool.eq_false_iff.2 fun dot => ?_
    have same := map_eq_of_dots (dots_of_isSingleDot dot) rfl
    rw [isSingleDot_iff, ← same, ← isSingleDot_iff, single] at dot
    cases dot
  double := by
    refine Bool.eq_false_iff.2 fun dots => ?_
    have same := map_eq_of_dots (dots_of_isDoubleDot dots) rfl
    rw [isDoubleDot, same.symm] at dots
    rw [isDoubleDot, dots] at double
    cases double

theorem mem_splitSegments {special : Bool} :
    ∀ piece ∈ splitSegments special cs, ∀ c ∈ piece, isSlash special c = false := by
  induction cs with
  | nil => simp [splitSegments]
  | cons c cs ih =>
    rw [splitSegments]
    split
    · exact List.forall_mem_cons.2 ⟨nofun, ih⟩
    · rename_i plain
      have hc : isSlash special c = false := by simpa using plain
      split
      · simpa using hc
      · rename_i piece pieces split
        rw [split] at ih
        obtain ⟨hpiece, hpieces⟩ := List.forall_mem_cons.1 ih
        exact List.forall_mem_cons.2 ⟨List.forall_mem_cons.2 ⟨hc, hpiece⟩, hpieces⟩

theorem mem_parent {file : Bool} {above : List (List Char)} (h : segment ∈ parent file above) :
    segment ∈ above := by
  unfold parent at h
  split at h
  · exact h
  · split at h
    · exact h
    · cases h
  · exact List.mem_cons_of_mem _ h

theorem walk_isSettled {above pieces : List (List Char)}
    (habove : ∀ segment ∈ above, IsSettledSegment segment)
    (whole : ∀ piece ∈ pieces, ∀ c ∈ piece, isSlash true c = false) :
    ∀ segment ∈ walk false above pieces, IsSettledSegment segment := by
  fun_induction walk false above pieces with
  | case1 above => exact habove
  | case2 above piece double =>
    exact List.forall_mem_cons.2 ⟨isSettledSegment_nil, fun _ h => habove _ (mem_parent h)⟩
  | case3 above piece double single =>
    exact List.forall_mem_cons.2 ⟨isSettledSegment_nil, habove⟩
  | case4 above piece double single =>
    exact List.forall_mem_cons.2 ⟨isSettledSegment_encode (whole piece (by simp))
      (by simpa using single) (by simpa using double), habove⟩
  | case5 above piece pieces _ double ih =>
    exact ih (fun _ h => habove _ (mem_parent h)) (List.forall_mem_cons.1 whole).2
  | case6 above piece pieces _ double single ih =>
    exact ih habove (List.forall_mem_cons.1 whole).2
  | case7 above piece pieces _ double single ih =>
    exact ih (List.forall_mem_cons.2 ⟨isSettledSegment_encode (whole piece (by simp))
      (by simpa using single) (by simpa using double), habove⟩) (List.forall_mem_cons.1 whole).2

theorem resolvePath_isSettled {scheme : List Char} (special : isSpecial scheme = true)
    (notFile : scheme ≠ fileScheme) (cs : List Char) :
    ∃ segments, resolvePath scheme [] cs = .segments segments ∧
      ∀ segment ∈ segments, IsSettledSegment segment := by
  refine ⟨_, by simp only [resolvePath, notFile, decide_false, if_false]; rfl,
    fun segment h => ?_⟩
  rw [special] at h
  exact walk_isSettled (by simp) mem_splitSegments segment (List.mem_reverse.1 h)

theorem walk_settled (above : List (List Char))
    (settled : ∀ segment ∈ segments, IsSettledSegment segment) :
    walk false above segments = segments.reverse ++ above := by
  induction segments generalizing above with
  | nil => rfl
  | cons segment segments ih =>
    obtain ⟨h, hs⟩ := List.forall_mem_cons.1 settled
    have down : below false above segment = segment :: above := by
      simp [below, Percent.encode_of_forall h.plain]
    cases segments with
    | nil => simp [walk, h.single, h.double, down]
    | cons next segments =>
      rw [walk, if_neg (by simp [h.double]), if_neg (by simp [h.single]), down, ih _ hs]
      · simp
      · simp

theorem splitSegments_append {special : Bool} (whole : ∀ c ∈ segment, isSlash special c = false)
    (slash : isSlash special '/' = true) (cs : List Char) :
    splitSegments special (segment ++ '/' :: cs) = segment :: splitSegments special cs := by
  induction segment with
  | nil => simp [splitSegments, slash]
  | cons c segment ih =>
    obtain ⟨hc, hsegment⟩ := List.forall_mem_cons.1 whole
    simp [splitSegments, hc, ih hsegment]

theorem splitSegments_of_forall {special : Bool}
    (whole : ∀ c ∈ segment, isSlash special c = false) :
    splitSegments special segment = [segment] := by
  induction segment with
  | nil => rfl
  | cons c segment ih =>
    obtain ⟨hc, hsegment⟩ := List.forall_mem_cons.1 whole
    simp [splitSegments, hc, ih hsegment]

theorem splitSegments_text (h : IsSettledSegment segment)
    (settled : ∀ segment ∈ segments, IsSettledSegment segment) :
    splitSegments true (segment ++ (Path.segments segments).text) = segment :: segments := by
  induction segments generalizing segment with
  | nil =>
    rw [Path.text, List.flatMap_nil, List.append_nil, splitSegments_of_forall h.whole]
  | cons next segments ih =>
    obtain ⟨hnext, hsegments⟩ := List.forall_mem_cons.1 settled
    rw [Path.text, List.flatMap_cons, List.cons_append, splitSegments_append h.whole (by decide)]
    exact congrArg (segment :: ·) (ih hnext hsegments)

theorem visible_of_escapedInPath (h : escapedInPath c = false) :
    0x20 < c.toNat ∧ c.toNat < 0x7F ∧ c ≠ '#' ∧ c ≠ '?' := by
  simp only [escapedInPath, escapedInFragment, isControl, Bool.or_eq_false_iff,
    decide_eq_false_iff_not, List.contains_eq_mem, List.mem_cons, not_or] at h
  obtain ⟨⟨⟨low, high⟩, notSpace, -⟩, notHash, notMark, -⟩ := h
  have : c.toNat ≠ 0x20 := fun h => notSpace (Char.toNat_inj.1 h)
  exact ⟨by omega, by omega, notHash, notMark⟩

theorem visible_of_escapedInQuery (h : escapedInQuery true c = false) :
    0x20 < c.toNat ∧ c.toNat < 0x7F ∧ c ≠ '#' := by
  simp only [escapedInQuery, isControl, Bool.or_eq_false_iff, decide_eq_false_iff_not,
    List.contains_eq_mem, List.mem_cons, not_or] at h
  obtain ⟨⟨⟨low, high⟩, notSpace, -, notHash, -⟩, -⟩ := h
  have : c.toNat ≠ 0x20 := fun h => notSpace (Char.toNat_inj.1 h)
  exact ⟨by omega, by omega, notHash⟩

/-- Settled segments with a settled query, if any. -/
structure IsSettledTarget (segments : List (List Char)) (query : Option (List Char)) : Prop where
  segments : ∀ segment ∈ segments, IsSettledSegment segment
  query : ∀ text ∈ query, IsSettledQuery text

theorem mem_text (h : c ∈ (Path.segments segments).text) :
    c = '/' ∨ ∃ segment ∈ segments, c ∈ segment := by
  obtain ⟨segment, hsegment, hc⟩ := List.mem_flatMap.1 h
  exact (List.mem_cons.1 hc).imp id fun hc => ⟨segment, hsegment, hc⟩

namespace IsSettledTarget

theorem text_visible (h : IsSettledTarget segments query)
    (hc : c ∈ (Path.segments segments).text) :
    0x20 < c.toNat ∧ c.toNat < 0x7F ∧ c ≠ '#' ∧ c ≠ '?' := by
  rcases mem_text hc with rfl | ⟨segment, hsegment, hc⟩
  · decide
  · exact visible_of_escapedInPath ((h.segments segment hsegment).plain c hc)

theorem visible (h : IsSettledTarget segments query) (hc : c ∈ targetText segments query) :
    0x20 < c.toNat ∧ c.toNat < 0x7F ∧ c ≠ '#' := by
  rcases List.mem_append.1 hc with path | rest
  · obtain ⟨low, high, notHash, -⟩ := h.text_visible path
    exact ⟨low, high, notHash⟩
  · cases query with
    | none => cases rest
    | some query =>
      rcases List.mem_cons.1 rest with rfl | hc
      · decide
      · exact visible_of_escapedInQuery (h.query query rfl c hc)

end IsSettledTarget

theorem clean_of_forall (h : ∀ c ∈ cs, 0x20 < c.toNat) : clean cs = cs := by
  have kept : Unicode.trimBy (fun c => decide (c.toNat ≤ 0x20)) cs = cs :=
    Unicode.trimBy_of_forall fun c hc => decide_eq_false (Nat.not_le_of_lt (h c hc))
  refine (congrArg (List.filter _) kept).trans (List.filter_eq_self.2 fun c hc => ?_)
  have : c ≠ '\t' ∧ c ≠ '\n' ∧ c ≠ '\r' := by
    refine ⟨?_, ?_, ?_⟩ <;> rintro rfl <;> exact absurd (h _ hc) (by decide)
  simp [this]

theorem splitTail_targetText (settled : IsSettledTarget segments query) :
    splitTail (targetText segments query) = ((Path.segments segments).text, query, none) := by
  have noHash : ∀ c ∈ targetText segments query, decide (c ≠ '#') = true :=
    fun c hc => decide_eq_true (settled.visible hc).2.2
  have noMark : ∀ c ∈ (Path.segments segments).text, decide (c ≠ '?') = true :=
    fun c hc => decide_eq_true (settled.text_visible hc).2.2.2
  have all : (targetText segments query).takeWhile (· ≠ '#') = targetText segments query :=
    List.takeWhile_eq_self_iff.2 noHash
  have nothing : (targetText segments query).dropWhile (· ≠ '#') = [] :=
    List.dropWhile_eq_nil_iff.2 noHash
  simp only [splitTail, all, nothing]
  cases query with
  | none =>
    simp only [targetText, List.append_nil, List.dropWhile_eq_nil_iff.2 noMark]
  | some query =>
    simp only [targetText, List.dropWhile_append_of_pos noMark, List.takeWhile_append_of_pos noMark]
    simp

theorem parse_targetText {base : Url} {path : List (List Char)} (hbase : base.path = .segments path)
    (special : isSpecial base.scheme = true) (notFile : base.scheme ≠ fileScheme)
    (settled : IsSettledTarget (segment :: segments) query) (nonempty : segment ≠ []) :
    parse (some base) (targetText (segment :: segments) query) =
      .ok { base with path := .segments (segment :: segments), query, fragment := none } := by
  obtain ⟨hsegment, hsegments⟩ := List.forall_mem_cons.1 settled.segments
  obtain ⟨rest, hrest⟩ : ∃ rest, targetText (segment :: segments) query = '/' :: rest ∧
      rest.head? = segment.head? := by
    obtain ⟨c, cs, rfl⟩ := List.exists_cons_of_ne_nil nonempty
    exact ⟨_, rfl, rfl⟩
  have single : ∀ c ∈ rest.head?, c ≠ '/' ∧ c ≠ '\\' := by
    rw [hrest.2]
    intro c hc
    simpa [isSlash] using hsegment.whole c (List.mem_of_mem_head? hc)
  have htail : splitTail (targetText (segment :: segments) query) =
      ('/' :: (segment ++ (Path.segments segments).text), query, none) :=
    splitTail_targetText settled
  have hclean := clean_of_forall fun c hc => (settled.visible hc).1
  rw [hrest.1] at htail hclean ⊢
  have followed : resolvePath base.scheme [] (segment ++ (Path.segments segments).text) =
      .segments (segment :: segments) := by
    simp [resolvePath, notFile, special, splitSegments_text hsegment hsegments,
      walk_settled [] settled.segments]
  rw [parse_slash base hbase notFile, hclean, parseRelative_single base single htail, followed]
  have kept : query.map (Percent.encode (escapedInQuery true)) = query := by
    cases query with
    | none => rfl
    | some query => exact congrArg some (Percent.encode_of_forall (settled.query query rfl))
  simp [withTail, special, kept]

def IsSettled (url : Url) : Prop :=
  ∃ segments, url.path = .segments segments ∧ IsSettledTarget segments url.query

variable {url : Url} {scheme : List Char}

theorem isSettled_withTail (url : Url) (special : isSpecial url.scheme = true)
    (settled : ∃ segments, url.path = .segments segments ∧
      ∀ segment ∈ segments, IsSettledSegment segment)
    (query fragment : Option (List Char)) : (url.withTail query fragment).IsSettled := by
  obtain ⟨segments, hpath, hsegments⟩ := settled
  refine ⟨segments, hpath, hsegments, fun text htext => ?_⟩
  obtain ⟨written, -, rfl⟩ := Option.map_eq_some_iff.1 htext
  rw [special]
  exact isSettledQuery_encode written

theorem rootedPath_isSettled (special : isSpecial scheme = true) (notFile : scheme ≠ fileScheme)
    (cs : List Char) : ∃ segments, rootedPath scheme cs = .segments segments ∧
      ∀ segment ∈ segments, IsSettledSegment segment := by
  cases cs with
  | nil => exact ⟨[[]], by simp [rootedPath, special], by simpa using isSettledSegment_nil⟩
  | cons c cs => exact resolvePath_isSettled special notFile _

theorem exists_of_parseAuthority (special : isSpecial scheme = true)
    (read : parseAuthority scheme cs = .ok url) :
    ∃ username password host port hostText, parseHost hostText = .ok host ∧
      url = (⟨scheme, username, password, some host, port,
        rootedPath scheme ((splitTail cs).1.dropWhile (!isSlash true ·)), none, none⟩ : Url).withTail
          (splitTail cs).2.1 (splitTail cs).2.2 := by
  simp only [parseAuthority, special, if_true] at read
  split at read
  · cases read
  split at read
  · cases read
  obtain ⟨host, named, read⟩ := exists_of_bind_ok read
  obtain ⟨port, -, read⟩ := exists_of_bind_ok read
  split at read
  · cases read
  · cases read
    exact ⟨_, _, host, port, _, named, rfl⟩

theorem parseAuthority_isSettled (special : isSpecial scheme = true)
    (notFile : scheme ≠ fileScheme) (read : parseAuthority scheme cs = .ok url) :
    url.IsSettled := by
  obtain ⟨username, password, host, port, hostText, -, rfl⟩ :=
    exists_of_parseAuthority special read
  exact isSettled_withTail _ special (rootedPath_isSettled special notFile _) _ _

theorem parseRelative_isSettled {base : Url} (special : isSpecial base.scheme = true)
    (notFile : base.scheme ≠ fileScheme) (read : parseRelative base ('/' :: cs) = .ok url) :
    url.IsSettled := by
  by_cases single : ∀ c ∈ cs.head?, c ≠ '/' ∧ c ≠ '\\'
  · obtain ⟨rest, query, fragment, htail⟩ := splitTail_slash cs
    rw [parseRelative_single base single htail] at read
    cases read
    exact isSettled_withTail { base with path := resolvePath base.scheme [] rest } special
      (resolvePath_isSettled special notFile rest) _ _
  · obtain ⟨c, cs, rfl, hc⟩ : ∃ c rest, cs = c :: rest ∧ (c = '/' ∨ c = '\\') := by
      cases cs with
      | nil => simp at single
      | cons c cs => exact ⟨c, cs, rfl, or_iff_not_imp_left.2 (by simpa using single)⟩
    rcases hc with rfl | rfl
    · exact parseAuthority_isSettled special notFile read
    · rw [parseRelative, if_pos (by simp [special, isSlash])] at read
      · exact parseAuthority_isSettled special notFile read
      · rintro rest two
        cases two

theorem parse_isSettled {base : Url} {path : List (List Char)} (hbase : base.path = .segments path)
    (special : isSpecial base.scheme = true) (notFile : base.scheme ≠ fileScheme)
    (read : parse (some base) ('/' :: cs) = .ok url) : url.IsSettled := by
  rw [parse_slash base hbase notFile] at read
  obtain ⟨rest, hclean, -⟩ := clean_slash cs
  rw [hclean] at read
  exact parseRelative_isSettled special notFile read

end Url

end ConsoleGateway
