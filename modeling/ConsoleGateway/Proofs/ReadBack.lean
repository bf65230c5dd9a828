import ConsoleGateway.Proofs.Effects
import ConsoleGateway.Proofs.Locations
import ConsoleGateway.Proofs.Matching
import ConsoleGateway.Route.Table
import Mathlib.Data.List.Nodup

namespace ConsoleGateway

variable {pairs : List (String × String)} {key value : String}

theorem setKey_of_not_mem (absent : key ∉ pairs.map Prod.fst) :
    setKey key value pairs = pairs ++ [(key, value)] := by
  induction pairs with
  | nil => rfl
  | cons pair pairs ih =>
    rw [List.map_cons, List.mem_cons, not_or] at absent
    rw [setKey, if_neg (Ne.symm absent.1), ih absent.2, List.cons_append]

theorem keys_setKey_of_mem (present : key ∈ pairs.map Prod.fst) :
    (setKey key value pairs).map Prod.fst = pairs.map Prod.fst := by
  induction pairs with
  | nil => cases present
  | cons pair pairs ih =>
    rw [setKey]
    split
    · rename_i same
      rw [List.map_cons, List.map_cons, same]
    · rename_i other
      rw [List.map_cons, List.mem_cons] at present
      rw [List.map_cons, List.map_cons, ih (present.resolve_left (Ne.symm other))]

theorem nodup_setKey (distinct : (pairs.map Prod.fst).Nodup) (key value : String) :
    ((setKey key value pairs).map Prod.fst).Nodup := by
  by_cases present : key ∈ pairs.map Prod.fst
  · rwa [keys_setKey_of_mem present]
  · rw [setKey_of_not_mem present, List.map_append]
    exact distinct.append (List.nodup_singleton key) (List.disjoint_singleton.2 present)

theorem nodup_lastWins (pairs : List (String × String)) :
    ((lastWins pairs).map Prod.fst).Nodup := by
  induction pairs using List.reverseRecOn with
  | nil => exact List.nodup_nil
  | append_singleton pairs pair ih =>
    rw [lastWins_append_singleton]
    exact nodup_setKey ih pair.1 pair.2

theorem lastWins_of_nodup (distinct : (pairs.map Prod.fst).Nodup) : lastWins pairs = pairs := by
  induction pairs using List.reverseRecOn with
  | nil => rfl
  | append_singleton pairs pair ih =>
    rw [List.map_append] at distinct
    have absent : pair.1 ∉ pairs.map Prod.fst :=
      List.disjoint_singleton.1 (List.disjoint_of_nodup_append distinct)
    rw [lastWins_append_singleton, ih distinct.of_append_left, setKey_of_not_mem absent]

namespace Route

theorem patternText_toList (route : Route) :
    route.patternText.toList = (Url.Path.segments (route.pattern.map (·.text.toList))).text := by
  simp [patternText, Url.Path.text, List.flatMap_map]

theorem table_settled : ∀ route ∈ table, places route.pattern = [] →
    (route.pattern.map (·.text.toList)).head?.any (· ≠ []) = true ∧
      ∀ segment ∈ route.pattern.map (·.text.toList), Url.IsSettledSegment segment := by
  decide +kernel

end Route

namespace Redirect

variable {r : Redirect} {route : Route}

/-- The location of a redirect to a page without places in its pattern is read back as its path and
its query, whatever the texts of the query are. -/
theorem location_readBack (listed : route ∈ Route.table) (fixed : Route.places route.pattern = [])
    (path : r.path = route.patternText) : ∃ n, Navigation.parse r.location = .ok n ∧
      n.path = r.path ∧ (n.query.map Prod.fst).Nodup ∧
      (∀ key, n.queryParam key = ((r.query.filter (·.1 = key)).getLast?).map (·.2)) ∧
      ((r.query.map Prod.fst).Nodup → ∀ key, n.queryParam key = r.queryValue key) ∧
      Navigation.parse n.url = .ok n := by
  obtain ⟨named, settled⟩ := Route.table_settled route listed fixed
  have text := route.patternText_toList
  cases segments : route.pattern.map (·.text.toList) with
  | nil => rw [segments] at named; cases named
  | cons segment rest =>
    rw [segments] at named settled text
    have nonempty : segment ≠ [] := by simpa using named
    have read := parse_location settled nonempty (path ▸ text)
    refine ⟨_, read, rfl, nodup_lastWins r.query, fun key => lookup_lastWins key r.query,
      fun distinct key => ?_, read⟩
    exact congrArg (List.lookup key) (lastWins_of_nodup distinct)

theorem location_readBack_users :
    let route := Route.page "users" (Route.underHarbor [.literal "users"]) [.systemAdmin]
    let query : List (String × String) :=
      [("a&b=c", "+% #\"\u0001é🦀"), ("", ""), ("a&b=c", "?=&"), ("%41", "%zz+")]
    let r : Redirect := ⟨"/harbor/users", query⟩
    let apart : Redirect := ⟨"/harbor/users", query.tail⟩
    (route ∈ Route.table ∧ Route.places route.pattern = [] ∧ r.path = route.patternText) ∧
      (∃ n, Navigation.parse r.location = .ok n ∧ n.path = "/harbor/users" ∧
        n.queryParam "a&b=c" = some "?=&" ∧ n.queryParam "" = some "" ∧
        n.queryParam "A" = none ∧ Navigation.parse n.url = .ok n) ∧
      ∃ n, Navigation.parse apart.location = .ok n ∧ n.queryParam "%41" = some "%zz+" := by
  intro route query r apart
  have listed : route ∈ Route.table := by decide
  have fixed : Route.places route.pattern = [] := by decide
  have path : r.path = route.patternText := by decide
  obtain ⟨n, read, same, -, last, -, again⟩ := location_readBack listed fixed path
  obtain ⟨n', read', -, -, -, first, -⟩ := location_readBack (r := apart) listed fixed path
  refine ⟨⟨listed, fixed, path⟩, ⟨n, read, same, ?_, ?_, ?_, again⟩, n', read', ?_⟩
  · rw [last]; decide +kernel
  · rw [last]; decide +kernel
  · rw [last]; decide +kernel
  · rw [first (by decide +kernel)]; decide +kernel

end Redirect

end ConsoleGateway
