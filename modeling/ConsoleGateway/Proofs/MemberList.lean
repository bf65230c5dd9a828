import ConsoleGateway.Proofs.MemberGuard
import ConsoleGateway.Proofs.Splitting

/-! The list of members that navigations leave behind. The member guard writes the list down when
the registry has told it, without a look at its token; so the last list to be told stays, and it may
be told to a navigation that is no longer wanted. -/

namespace ConsoleGateway

namespace Recorded

def Told (record : Record) (members : List ProjectMember) : Prop :=
  ∃ i id, (i, .answered (.projectMembers id) (.ok members)) ∈ record

/-- What the record says fits what the navigations are about to do. -/
structure Followed (requests : List NavigationRequest) (x : Recorded) : Prop where
  log : x.world.log = x.record.log
  tasks : ∀ (i : Nat) (task : Task), x.world.tasks[i]? = some task → ∃ r, requests[i]? = some r ∧
    task.Bounded r.MayCall ∧ task.Resets r ((i, .marked .memberGuard) ∈ x.record)
  settled : ∀ i outcome, (i, .marked (.settled outcome)) ∈ x.record → ∃ r, requests[i]? = some r ∧
    r.MayEnd ((i, .marked .memberGuard) ∈ x.record) outcome
  -- Only a navigation that has not ended is told anything.
  told : ∀ early i c answer late, x.record = early ++ (i, .answered c answer) :: late →
    (∀ outcome, (i, .marked (.settled outcome)) ∉ early) ∧
      ∃ r, requests[i]? = some r ∧ r.MayCall c
  -- Whichever member guard has started, the members were told after it.
  members : ∀ early i late, x.record = early ++ (i, .marked .memberGuard) :: late →
    x.world.session.projectMembers ≠ [] → Told late x.world.session.projectMembers

variable {s : Session} {requests : List NavigationRequest} {x : Recorded} {i : Nat}
  {c : BackendCall} {r : NavigationRequest} {f : MarkedFlow Outcome} {src : Sources}
  {record later : Record} {members : List ProjectMember}

theorem Told.append (told : Told record members) (later : Record) :
    Told (record ++ later) members :=
  told.imp fun _ => Exists.imp fun _ => List.mem_append_left later

theorem mem_leg {marks : List Mark} {act : Act} {j : Nat}
    (h : (j, act) ∈ marks.map fun m => (i, Act.marked m)) :
    j = i ∧ ∃ m ∈ marks, act = .marked m := by
  obtain ⟨m, hm, this⟩ := List.mem_map.1 h
  cases this
  exact ⟨rfl, m, hm, rfl⟩

namespace Followed

theorem hear (followed : x.Followed requests) (asked : requests[i]? = some r) (may : r.MayCall c)
    (unsettled : ∀ outcome, (i, .settled outcome) ∉ x.world.log) (answer : c.Answer) :
    (x.hear i c answer).Followed requests where
  log := by simp [Recorded.hear, followed.log]
  tasks j task there := by
    obtain ⟨r, asked, bounded, resets⟩ := followed.tasks j task there
    exact ⟨r, asked, bounded, resets.mono (List.mem_append_left _)⟩
  settled j outcome h := by
    rcases List.mem_append.1 h with h | h
    · obtain ⟨r, asked, may⟩ := followed.settled j outcome h
      exact ⟨r, asked, may.mono (List.mem_append_left _)⟩
    · cases List.mem_singleton.1 h
  told early j c' answer' late split := by
    rcases snoc_eq_append_cons split with ⟨middle, earlier, -⟩ | ⟨rfl, -, this⟩
    · exact followed.told early j c' answer' middle earlier
    · cases this
      refine ⟨fun outcome h => unsettled outcome ?_, r, asked, may⟩
      rw [followed.log, Record.mem_log]
      exact h
  members early j late split listed := by
    rcases snoc_eq_append_cons split with ⟨middle, earlier, rfl⟩ | ⟨-, -, this⟩
    · exact (followed.members early j middle earlier listed).append _
    · cases this

theorem proceed (followed : x.Followed requests) (asked : requests[i]? = some r)
    (bounded : f.plain.Bounded r.MayCall src)
    (resets : f.Resets r ((i, .marked .memberGuard) ∈ x.record))
    (heard : ∀ early j late, x.record = early ++ (j, .marked .memberGuard) :: late →
      ∀ members, src.list members → Told late members) :
    (x.proceed i f).Followed requests := by
  let leg := f.advance x.world.session
  have entered : (i, .marked .memberGuard) ∈ x.record ∨ .memberGuard ∈ leg.marks →
      (i, .marked .memberGuard) ∈ (x.proceed i f).record := by
    rintro (before | now)
    · exact List.mem_append_left _ before
    · exact List.mem_append_right _ (List.mem_map_of_mem now)
  obtain ⟨allows, onward⟩ := MarkedFlow.advance_bounded bounded x.world.session
  constructor
  case log => simp [Recorded.proceed, World.proceed, followed.log]
  case tasks =>
    intro j task there
    change (x.world.tasks.set i leg.task)[j]? = some task at there
    by_cases same : i = j
    · subst same
      rw [List.getElem?_set, if_pos rfl] at there
      split at there
      · cases there
        exact ⟨r, asked, onward, (MarkedFlow.advance_resets resets _).mono entered⟩
      · cases there
    · rw [List.getElem?_set_ne same] at there
      obtain ⟨r, asked, bounded, resets⟩ := followed.tasks j task there
      exact ⟨r, asked, bounded, resets.mono (List.mem_append_left _)⟩
  case settled =>
    intro j outcome h
    rcases List.mem_append.1 h with h | h
    · obtain ⟨r, asked, may⟩ := followed.settled j outcome h
      exact ⟨r, asked, may.mono (List.mem_append_left _)⟩
    · obtain ⟨rfl, m, settled, this⟩ := mem_leg h
      cases this
      exact ⟨r, asked, (MarkedFlow.advance_settled resets _ settled).mono entered⟩
  case told =>
    intro early j c answer late split
    rcases append_eq_append_cons split with ⟨middle, earlier, -⟩ | ⟨middle, -, this⟩
    · exact followed.told early j c answer middle earlier
    · obtain ⟨-, m, -, this⟩ := mem_leg (this ▸ List.mem_append_right middle List.mem_cons_self)
      cases this
  case members =>
    intro early j late split listed
    change leg.session.projectMembers ≠ [] at listed
    change Told late leg.session.projectMembers
    rcases append_eq_append_cons split with ⟨middle, earlier, rfl⟩ | ⟨middle, -, this⟩
    · refine Told.append ?_ _
      rcases allows.2 with same | written
      · rw [same] at listed ⊢
        exact followed.members early j middle earlier listed
      · exact heard early j middle earlier _ (written listed)
    · obtain ⟨-, m, starts, this⟩ := mem_leg (this ▸ List.mem_append_right middle List.mem_cons_self)
      cases this
      exact absurd (MarkedFlow.advance_forgets resets _ starts) listed

theorem step (followed : x.Followed requests) (sound : x.world.Sound s requests) (move : Move) :
    (x.step move).Followed requests := by
  rcases step_cases x move with h | ⟨i, request, idle, h⟩ | ⟨i, c, next, answer, waiting, h⟩
  · rw [h]
    exact followed
  · obtain ⟨r, asked, bounded, resets⟩ := followed.tasks i _ idle
    rw [h]
    exact followed.proceed asked bounded resets nofun
  · obtain ⟨r, asked, ⟨may, bounded⟩, resets⟩ := followed.tasks i _ waiting
    obtain ⟨unsettled, -⟩ := sound.tasks i _ waiting
    rw [h]
    refine (followed.hear asked may unsettled answer).proceed asked (bounded answer)
      ((resets answer).mono (List.mem_append_left _)) fun early j late split members told => ?_
    rcases snoc_eq_append_cons split with ⟨middle, -, rfl⟩ | ⟨-, -, this⟩
    · cases c with
      | projectMembers id =>
        obtain rfl : answer = .ok members := told
        exact ⟨i, id, by simp⟩
      | _ => exact told.elim
    · cases this

theorem initial (s : Session) (requests : List NavigationRequest) :
    (Recorded.initial s requests).Followed requests where
  log := rfl
  tasks i task there := by
    simp only [Recorded.initial, World.initial, List.getElem?_map, Option.map_eq_some_iff] at there
    obtain ⟨request, asked, rfl⟩ := there
    exact ⟨request, asked, request.bounded_flow, request.resets_flow.mono False.elim⟩
  settled i outcome := nofun
  told early i c answer late split := by simp [Recorded.initial] at split
  members early i late split := by simp [Recorded.initial] at split

theorem run (s : Session) (requests : List NavigationRequest) (moves : List Move) :
    ((Recorded.initial s requests).run moves).Followed requests := by
  refine (run_induction (P := fun x => x.Followed requests ∧ x.world.Sound s requests)
    (fun x move sound => ⟨sound.1.step sound.2 move, ?_⟩) ⟨.initial s requests, ?_⟩ moves).1
  · rw [world_step]
    exact sound.2.step move
  · exact World.initial_sound s requests

end Followed

section

variable {moves : List Move} {k j : Nat} {early late : Record} {answer : c.Answer}
  {outcome : Outcome}

theorem lawful_run (ran : (initial s requests).run moves = x) :
    Log.Lawful s requests x.world.log := by
  rw [← ran, world_run]
  exact (World.run_sound s requests moves).lawful

/-- When the navigation that will be the newest has started its member guard, whoever else is told
anything has been overtaken. -/
theorem superseded_of_told (ran : (initial s requests).run moves = x)
    (navigates : ∀ request ∈ requests, request.mode = .navigate) (newest : x.world.log.Newest k)
    (split : x.record = early ++ (j, .answered c answer) :: late)
    (starts : (k, .marked .memberGuard) ∈ early) (other : j ≠ k)
    (ended : (j, .settled outcome) ∈ x.world.log) : outcome = .superseded := by
  have followed := ran ▸ Followed.run s requests moves
  have lawful := lawful_run ran
  obtain ⟨unsettled, r, asked, -⟩ := followed.told early j c answer late split
  have log : x.world.log = early.log ++ late.log := by
    rw [followed.log, split]
    simp
  rw [log] at ended newest lawful
  have began : ∃ token, (k, .began token) ∈ early.log := by
    obtain ⟨before, after, here, -, inOrder⟩ := lawful.of_append.split (Record.mem_log.2 starts)
    obtain ⟨token, drawn, -⟩ := newest
    rcases inOrder.drawn (lawful.navigates drawn) with ⟨token, this⟩ | ⟨token, drawn⟩
    · cases this
    · exact ⟨token, here ▸ List.mem_append_left _ drawn⟩
  rcases List.mem_append.1 ended with before | after
  · exact absurd (Record.mem_log.1 before) (unsettled outcome)
  obtain ⟨between, rest, hlate⟩ := List.append_of_mem after
  rw [hlate, ← List.append_assoc] at newest lawful
  refine Decidable.of_not_not fun delivered => other ?_
  have hj : Navigates requests j := ⟨r, asked, navigates r (List.mem_of_getElem? asked)⟩
  obtain ⟨token, drawn, newestThen⟩ :=
    lawful.newestWins.delivers _ j outcome rest rfl delivered hj
  obtain ⟨last, hlast, newestNow⟩ := newest
  obtain ⟨token', drawn'⟩ := began
  have drawn' := List.mem_append_left between drawn'
  rcases lawful.draws (List.mem_append_left _ drawn') hlast with ⟨-, rfl⟩ | ⟨distinct, -⟩
  · have older := newestNow j token (List.mem_append_left _ drawn)
    have newer := newestThen k token' drawn'
    rcases lawful.draws (List.mem_append_left _ drawn) hlast with ⟨same, -⟩ | ⟨-, distinct⟩
    · exact same
    · exact absurd (Nat.le_antisymm older newer) distinct
  · exact absurd rfl distinct

/-- What the newest navigation leaves behind when it shows a page of a project and all others have
ended: no members, the members told for its project, or those of another project, told to a
navigation that had been overtaken, after the newest one had forgotten them. -/
theorem members_of_newest {route : Route} {params : List (String × String)}
    {project : Option ResolvedProject} {id : Int64} (ran : (initial s requests).run moves = x)
    (navigates : ∀ request ∈ requests, request.mode = .navigate)
    (ended : ∀ i < requests.length, ∃ outcome, (i, .settled outcome) ∈ x.world.log)
    (newest : x.world.log.Newest k)
    (activated : (k, .settled (.activated route params project)) ∈ x.world.log)
    (isProjectPage : route.resolveProject = true)
    (named : (params.lookup "id").bind Integer.int64? = some id) :
    (∀ r : NavigationRequest, r.flow.plain = r.mode.flow r.settings r.target) ∧
      let members := x.world.session.projectMembers
      members = [] ∨ (∃ i, (i, .answered (.projectMembers id) (.ok members)) ∈ x.record) ∨
        ∃ early j other late, other ≠ id ∧
          x.record = early ++ (j, .answered (.projectMembers other) (.ok members)) :: late ∧
            (k, .marked .memberGuard) ∈ early ∧ (j, .settled .superseded) ∈ x.world.log := by
  refine ⟨NavigationRequest.plain_flow, ?_⟩
  intro members
  have followed := ran ▸ Followed.run s requests moves
  rw [followed.log, Record.mem_log] at activated
  obtain ⟨r, asked, may⟩ := followed.settled k _ activated
  obtain ⟨starts, own⟩ := may isProjectPage
  obtain ⟨before, after, split⟩ := List.append_of_mem starts
  by_cases none : members = []
  · exact .inl none
  obtain ⟨j, other, told⟩ := followed.members before k after split none
  by_cases same : other = id
  · subst same
    exact .inr (.inl ⟨j, split ▸ List.mem_append_right _ (List.mem_cons_of_mem _ told)⟩)
  obtain ⟨between, late, hafter⟩ := List.append_of_mem told
  have here : x.record = (before ++ (k, .marked .memberGuard) :: between) ++
      (j, .answered (.projectMembers other) (.ok members)) :: late := by
    simp [split, hafter, members]
  have first : (k, .marked .memberGuard) ∈ before ++ (k, .marked .memberGuard) :: between := by simp
  obtain ⟨-, r', asked', may'⟩ := followed.told _ j _ _ late here
  have apart : j ≠ k := by
    rintro rfl
    rw [asked] at asked'
    cases asked'
    rw [may' other rfl, named] at own
    exact same (Option.some.inj own)
  obtain ⟨outcome, hj⟩ := ended j (List.getElem?_eq_some_iff.1 asked').1
  obtain rfl := superseded_of_told ran navigates newest here first apart hj
  exact .inr (.inr ⟨_, j, other, late, same, here, first, hj⟩)

end

def alice : Session := { user := some ⟨2, "alice", false⟩ }

def repositoriesPage : Route :=
  .projectPage "project-repositories" (Route.underProject [.literal "repositories"])

def hasty : List NavigationRequest :=
  [⟨{}, .navigate, "/harbor/projects/1/repositories"⟩,
    ⟨{}, .navigate, "/harbor/projects/2/repositories"⟩]

def hastyMoves : List Move :=
  let reply : (c : BackendCall) → c.Answer
    | .project id => .ok ⟨id, "tools", true, 2⟩
    | .projectMembers id => .ok [⟨10, id, "alice", "u", 2⟩]
    | _ => .error .unauthenticated
  [.start 0, .start 1, .answer 1 reply, .answer 1 reply, .answer 0 reply]

def toolsOf (id : Int64) : ResolvedProject := .resolve ⟨id, "tools", true, 2⟩ alice.user

def hastyEnd : Recorded := (initial alice hasty).run hastyMoves

theorem hasty_run : (initial alice hasty).run hastyMoves = hastyEnd := rfl

theorem hastyEnd_seen :
    (0, .settled .superseded) ∈ hastyEnd.world.log ∧
      (1, .settled (.activated repositoriesPage [("id", "2")] (some (toolsOf 2)))) ∈
        hastyEnd.world.log ∧
      (1, .began ⟨2⟩) ∈ hastyEnd.world.log ∧ Log.begun alice hastyEnd.world.log = 2 ∧
      hastyEnd.world.session.projectMembers = [⟨10, 1, "alice", "u", 2⟩] ∧
      ∀ entry ∈ hastyEnd.record,
        entry.2 ≠ .answered (.projectMembers 2) (.ok [⟨10, 1, "alice", "u", 2⟩]) := by
  decide +kernel

theorem hastyEnd_ended :
    ∀ i < hasty.length, ∃ outcome, (i, .settled outcome) ∈ hastyEnd.world.log
  | 0, _ => ⟨_, hastyEnd_seen.1⟩
  | 1, _ => ⟨_, hastyEnd_seen.2.1⟩

theorem hastyEnd_newest : hastyEnd.world.log.Newest 1 := by
  obtain ⟨-, -, began, count, -⟩ := hastyEnd_seen
  refine ⟨⟨2⟩, began, fun j token drawn => ?_⟩
  obtain ⟨-, bound⟩ := (lawful_run hasty_run).token_range drawn
  rwa [count] at bound

theorem members_of_newest_hasty :
    hastyEnd.world.log.Newest 1 ∧ ∃ early j other late, other ≠ 2 ∧
      hastyEnd.record = early ++
        (j, .answered (.projectMembers other) (.ok [⟨10, 1, "alice", "u", 2⟩])) :: late ∧
      (j, .settled .superseded) ∈ hastyEnd.world.log := by
  obtain ⟨-, activated, -, -, members, elsewhere⟩ := hastyEnd_seen
  have named : (List.lookup "id" [("id", "2")]).bind Integer.int64? = some 2 := by decide
  obtain ⟨-, left⟩ := members_of_newest hasty_run (by decide) hastyEnd_ended hastyEnd_newest
    activated rfl named
  rw [members] at left
  rcases left with none | ⟨i, told⟩ | ⟨early, j, other, late, apart, split, -, superseded⟩
  · cases none
  · exact absurd rfl (elsewhere _ told)
  · exact ⟨hastyEnd_newest, early, j, other, late, apart, split, superseded⟩

/-- The newest navigation shows a page of the second project, and the members of the first are
left. -/
theorem members_of_newest_overwritten :
    ¬∀ (s : Session) (requests : List NavigationRequest) (moves : List Move) (x : Recorded)
      (k : Nat) (route : Route) (params : List (String × String))
      (project : Option ResolvedProject) (id : Int64),
        (initial s requests).run moves = x →
        (∀ request ∈ requests, request.mode = .navigate) →
        (∀ i < requests.length, ∃ outcome, (i, .settled outcome) ∈ x.world.log) →
        x.world.log.Newest k → (k, .settled (.activated route params project)) ∈ x.world.log →
        route.resolveProject = true → (params.lookup "id").bind Integer.int64? = some id →
          x.world.session.projectMembers = [] ∨
            ∃ i, (i, .answered (.projectMembers id) (.ok x.world.session.projectMembers)) ∈
              x.record := by
  intro claim
  obtain ⟨-, activated, -, -, members, elsewhere⟩ := hastyEnd_seen
  have left := claim alice hasty hastyMoves hastyEnd 1 _ _ _ 2 hasty_run (by decide) hastyEnd_ended
    hastyEnd_newest activated rfl (by decide)
  rw [members] at left
  rcases left with none | ⟨i, told⟩
  · cases none
  · exact elsewhere _ told rfl

end Recorded

end ConsoleGateway
