import ConsoleGateway.Model.Redirect
import ConsoleGateway.Proofs.Settled

namespace ConsoleGateway

namespace Form

theorem isFormChar_ascii {c : Char} (h : isFormChar c = true) : c.toNat < 128 := by
  simp only [isFormChar, Bool.or_eq_true, Bool.and_eq_true, decide_eq_true_eq, Char.le_def,
    UInt32.le_iff_toNat_le] at h
  rcases h with ((⟨-, digit⟩ | ⟨-, capital⟩) | ⟨-, small⟩) | sign
  · exact Nat.lt_of_le_of_lt digit (by decide)
  · exact Nat.lt_of_le_of_lt capital (by decide)
  · exact Nat.lt_of_le_of_lt small (by decide)
  · have low : ∀ d ∈ ['*', '-', '.', '_', '+', '%'], d.toNat < 128 := by simp
    exact low c (by simpa using sign)

theorem isFormChar_kept {c : Char} (h : isFormChar c = true) :
    Url.escapedInQuery true c = false := by
  have each : ∀ k < 128, isFormChar (.ofNat k) = true →
      Url.escapedInQuery true (.ofNat k) = false := by
    decide +kernel
  have this := each c.toNat (isFormChar_ascii h)
  rw [Char.ofNat_toNat] at this
  exact this h

theorem isSettledQuery_write (pairs : List (List Char × List Char)) :
    Url.IsSettledQuery (write pairs) := by
  intro c hc
  rcases mem_write hc with formChar | rfl | rfl
  · exact isFormChar_kept formChar
  · decide
  · decide

end Form

theorem lastWins_singleton (pair : String × String) : lastWins [pair] = [pair] := rfl

namespace Navigation

variable {target : String} {n : Navigation} {url url' : Url} {segments : List (List Char)}

theorem ofUrl_congr (path : url.path = url'.path) (query : url.query = url'.query) :
    ofUrl url = ofUrl url' := by
  simp only [ofUrl, Url.queryPairs, path, query]

theorem url_ofUrl (path : url.path = .segments segments) :
    (ofUrl url).url.toList = Url.targetText segments url.query := by
  cases query : url.query <;> simp [ofUrl, Url.targetText, path, query]

theorem exists_of_parse (parsed : parse target = .ok n) :
    ∃ url, Url.parse (some standInOrigin) target.toList = .ok url ∧ n = ofUrl url := by
  unfold parse at parsed
  cases read : Url.parse (some standInOrigin) target.toList with
  | error e => simp [read, Except.map] at parsed
  | ok url =>
    rw [read] at parsed
    exact ⟨url, rfl, (Except.ok.inj parsed).symm⟩

theorem parse_settled {segment : List Char} {query : Option (List Char)}
    (settled : Url.IsSettledTarget (segment :: segments) query) (nonempty : segment ≠ [])
    (written : target.toList = Url.targetText (segment :: segments) query) :
    parse target =
      .ok (ofUrl { standInOrigin with path := .segments (segment :: segments), query }) := by
  rw [parse, written, Url.parse_targetText rfl (by decide) (by decide) settled nonempty]
  rfl

theorem exists_settled {cs : List Char} (slash : target.toList = '/' :: cs)
    (parsed : parse target = .ok n) {c : Char} {below : List Char}
    (named : n.path.toList = '/' :: c :: below) (single : c ≠ '/') :
    ∃ segment segments query, Url.IsSettledTarget (segment :: segments) query ∧ segment ≠ [] ∧
      n.url.toList = Url.targetText (segment :: segments) query ∧
      n = ofUrl { standInOrigin with path := .segments (segment :: segments), query } := by
  obtain ⟨url, read, rfl⟩ := exists_of_parse parsed
  rw [slash] at read
  obtain ⟨segments, hpath, settled⟩ := Url.parse_isSettled rfl (by decide) (by decide) read
  have text : (Url.Path.segments segments).text = '/' :: c :: below := by
    simpa [ofUrl, hpath] using named
  cases segments with
  | nil => cases text
  | cons segment segments =>
    refine ⟨segment, segments, url.query, settled, ?_, url_ofUrl hpath, ofUrl_congr hpath rfl⟩
    rintro rfl
    cases segments with
    | nil => cases text
    | cons segment segments => exact single (List.cons.inj (List.cons.inj text).2).1.symm

end Navigation

namespace Redirect

variable {r : Redirect} {segment : List Char} {segments : List (List Char)}

theorem location_toList : r.location.toList = r.path.toList ++
    if r.query = [] then []
    else '?' :: Form.write (r.query.map fun (k, v) => (k.toList, v.toList)) := by
  unfold location
  split
  · simp
  · simp

theorem ofList_comp_toList :
    (fun p : List Char × List Char => (String.ofList p.1, String.ofList p.2)) ∘
      (fun p : String × String => (p.1.toList, p.2.toList)) = id :=
  funext fun _ => Prod.ext String.ofList_toList String.ofList_toList

theorem parse_location (settled : ∀ piece ∈ segment :: segments, Url.IsSettledSegment piece)
    (nonempty : segment ≠ [])
    (hpath : r.path.toList = (Url.Path.segments (segment :: segments)).text) :
    Navigation.parse r.location = .ok ⟨r.location, r.path, [], lastWins r.query⟩ := by
  by_cases bare : r.query = []
  · have written : r.location.toList = Url.targetText (segment :: segments) none := by
      simp [location_toList, bare, hpath, Url.targetText]
    rw [Navigation.parse_settled ⟨settled, by simp⟩ nonempty written]
    have location : r.location = r.path := by simp [Redirect.location, bare]
    simp [Navigation.ofUrl, ← hpath, location, bare, Url.queryPairs]
    rfl
  · let pairs := r.query.map fun (k, v) => (k.toList, v.toList)
    have written : r.location.toList =
        Url.targetText (segment :: segments) (some (Form.write pairs)) := by
      simp [location_toList, bare, hpath, Url.targetText, pairs]
    rw [Navigation.parse_settled ⟨settled, by simpa using Form.isSettledQuery_write pairs⟩
      nonempty written]
    simp [Navigation.ofUrl, ← hpath, Redirect.location, bare, Url.queryPairs, Form.read_write,
      ofList_comp_toList, pairs]

end Redirect

end ConsoleGateway
