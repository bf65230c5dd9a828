import ConsoleGateway.Proofs.Discipline
import ConsoleGateway.Proofs.Ledger

/-! The newest navigation wins, however the navigations of a session are interleaved and whatever
their calls are answered. Every leg of a navigation leaves the log lawful, and the rest follows from
the log alone. -/

namespace ConsoleGateway

structure Draws (requests : List NavigationRequest) (log : Log) (i : Nat) (token : Option Token) :
    Prop where
  began_iff : ∀ t, (i, .began t) ∈ log ↔ token = some t
  navigates : Navigates requests i → token ≠ none

def Task.Sound (requests : List NavigationRequest) (log : Log) (i : Nat) : Task → Prop
  | idle request => requests[i]? = some request ∧ ∀ m, (i, m) ∉ log
  | waiting _ next =>
    (∀ outcome, (i, .settled outcome) ∉ log) ∧
      ∃ token, Draws requests log i token ∧ ∀ answer s, (next answer).Disciplined token s
  | ended outcome => (i, .settled outcome) ∈ log

/-- A leg that goes on from a lawful log, on a session that counts the tokens in it, and leaves both
as they were found. -/
structure Leg.Sound (s : Session) (requests : List NavigationRequest) (log : Log) (i : Nat)
    (leg : Leg) : Prop where
  lawful : Log.Lawful s requests (log ++ leg.marks.map (i, ·))
  count : leg.session.begun = Log.begun s (log ++ leg.marks.map (i, ·))
  task : leg.task.Sound requests (log ++ leg.marks.map (i, ·)) i

structure World.Sound (s : Session) (requests : List NavigationRequest) (w : World) : Prop where
  lawful : Log.Lawful s requests w.log
  count : w.session.begun = Log.begun s w.log
  tasks : ∀ i (task : Task), w.tasks[i]? = some task → task.Sound requests w.log i

variable {s t : Session} {requests : List NavigationRequest} {log : Log} {i : Nat}
  {token : Option Token} {f : MarkedFlow Outcome} {w : World}

theorem isWanted_iff (count : t.begun = Log.begun s log) (draws : Draws requests log i token) :
    t.isWanted token = true ↔ Log.Wanted s log i := by
  cases token with
  | none => simp [Session.isWanted, Log.Wanted, draws.began_iff]
  | some token =>
    simp [Session.isWanted, Session.isCurrent, Log.Wanted, draws.began_iff, count, eq_comm]

theorem Draws.snoc (draws : Draws requests log i token) {m : Mark} (h : ∀ t, m ≠ .began t) :
    Draws requests (log ++ [(i, m)]) i token where
  began_iff t := by simp [draws.began_iff, Ne.symm (h t)]
  navigates := draws.navigates

theorem Draws.drawn (draws : Draws requests log i token) (navigates : Navigates requests i) :
    ∃ t, (i, .began t) ∈ log := by
  obtain ⟨t, ht⟩ := Option.ne_none_iff_exists'.1 (draws.navigates navigates)
  exact ⟨t, (draws.began_iff t).2 ht⟩

theorem Leg.Sound.mark {leg : Leg} {m : Mark} (sound : leg.Sound s requests (log ++ [(i, m)]) i) :
    Leg.Sound s requests log i { leg with marks := m :: leg.marks } where
  lawful := by simpa using sound.lawful
  count := by simpa using sound.count
  task := by simpa using sound.task

theorem MarkedFlow.Disciplined.advance (disciplined : f.Disciplined token t)
    (lawful : Log.Lawful s requests log) (count : t.begun = Log.begun s log)
    (draws : Draws requests log i token) (unsettled : ∀ outcome, (i, .settled outcome) ∉ log) :
    (f.advance t).Sound s requests log i := by
  induction f generalizing t log with
  | done outcome =>
    have inOrder : Log.InOrder s requests log i (.settled outcome) :=
      ⟨fun h => .inr (draws.drawn h), unsettled,
        disciplined.trans (by rw [← isWanted_iff count draws, Bool.not_eq_true])⟩
    refine ⟨lawful.snoc inOrder, ?_, ?_⟩
    · exact count.trans (Log.begun_settled outcome).symm
    · simp [MarkedFlow.advance, Task.Sound]
  | access update next ih =>
    exact ih _ disciplined.2 lawful (disciplined.1.trans count) draws unsettled
  | notify n next ih => exact ih disciplined lawful count draws unsettled
  | ask c next ih =>
    refine ⟨?_, ?_, ?_⟩ <;> simp only [MarkedFlow.advance, List.map_nil, List.append_nil]
    · exact lawful
    · exact count
    · exact ⟨unsettled, token, draws, disciplined⟩
  | mark m next ih =>
    obtain ⟨⟨stage, rfl⟩, wanted, rest⟩ := disciplined
    have inOrder : Log.InOrder s requests log i (.entered stage) :=
      ⟨fun h => .inr (draws.drawn h), unsettled, (isWanted_iff count draws).1 wanted⟩
    exact (ih rest (lawful.snoc inOrder) (count.trans (Log.begun_entered stage).symm)
      (draws.snoc (by simp)) (by simpa using unsettled)).mark

theorem NavigationRequest.advance_flow {r : NavigationRequest} (asked : requests[i]? = some r)
    (fresh : ∀ m, (i, m) ∉ log) (lawful : Log.Lawful s requests log)
    (count : t.begun = Log.begun s log) : (r.flow.advance t).Sound s requests log i := by
  cases mode : r.mode with
  | load =>
    have flow : r.flow = Navigator.markedGo r.settings none r.target := by
      simp [NavigationRequest.flow, mode]
    have tokenless : Draws requests log i none :=
      ⟨fun t => by simp [fresh], fun navigates =>
        absurd navigates (Loads.not_navigates ⟨r, asked, mode⟩)⟩
    rw [flow]
    exact (Navigator.disciplined_go r.settings r.target rfl).advance lawful count tokenless
      fun outcome => fresh _
  | navigate =>
    have leg : r.flow.advance t = { (Navigator.markedGo r.settings (some t.begin.newest)
        r.target).advance t.begin with marks := .began t.begin.newest ::
          ((Navigator.markedGo r.settings (some t.begin.newest) r.target).advance
            t.begin).marks } := by
      simp [NavigationRequest.flow, mode, MarkedFlow.advance]
    have inOrder : Log.InOrder s requests log i (.began t.begin.newest) :=
      ⟨fun _ => .inl ⟨_, rfl⟩, fun _ => fresh _, ⟨r, asked, mode⟩, fresh, by
        rw [← count]
        rfl⟩
    have drawn : Draws requests (log ++ [(i, .began t.begin.newest)]) i (some t.begin.newest) :=
      ⟨fun t' => by simp [fresh, eq_comm], by simp⟩
    rw [leg]
    exact ((Navigator.disciplined_go r.settings r.target t.newest_isWanted).advance
      (lawful.snoc inOrder) (by rw [Log.begun_began, ← count]; rfl) drawn (by simp [fresh])).mark

theorem Task.Sound.frame {task : Task} {j : Nat} (other : j ≠ i)
    (sound : task.Sound requests log j) (marks : List Mark) :
    task.Sound requests (log ++ marks.map (i, ·)) j := by
  have same : ∀ m, (j, m) ∈ log ++ marks.map (i, ·) ↔ (j, m) ∈ log := by
    intro m
    simp [Ne.symm other]
  cases task with
  | idle request => exact ⟨sound.1, fun m => (same m).not.2 (sound.2 m)⟩
  | waiting c next =>
    obtain ⟨unsettled, token, draws, disciplined⟩ := sound
    exact ⟨fun outcome => (same _).not.2 (unsettled outcome), token,
      ⟨fun t => (same _).trans (draws.began_iff t), draws.navigates⟩, disciplined⟩
  | ended outcome => exact (same _).2 sound

namespace World

theorem Sound.proceed (sound : w.Sound s requests)
    (leg : (f.advance w.session).Sound s requests w.log i) :
    (w.proceed i f).Sound s requests where
  lawful := leg.lawful
  count := leg.count
  tasks j task h := by
    change (w.tasks.set i (f.advance w.session).task)[j]? = some task at h
    by_cases same : j = i
    · subst same
      rw [List.getElem?_set, if_pos rfl] at h
      split at h
      · cases h
        exact leg.task
      · cases h
    · rw [List.getElem?_set_ne (Ne.symm same)] at h
      exact (sound.tasks j task h).frame same _

theorem Sound.step (sound : w.Sound s requests) (move : Move) :
    (w.step move).Sound s requests := by
  rcases step_cases w move with h | ⟨i, request, idle, h⟩ | ⟨i, c, next, answer, waiting, h⟩
  · rw [h]
    exact sound
  · obtain ⟨asked, fresh⟩ := sound.tasks i _ idle
    rw [h]
    exact sound.proceed (NavigationRequest.advance_flow asked fresh sound.lawful sound.count)
  · obtain ⟨unsettled, token, draws, disciplined⟩ := sound.tasks i _ waiting
    rw [h]
    exact sound.proceed
      ((disciplined answer w.session).advance sound.lawful sound.count draws unsettled)

theorem initial_sound (s : Session) (requests : List NavigationRequest) :
    (initial s requests).Sound s requests where
  lawful := .nil
  count := rfl
  tasks i task h := by
    simp only [initial, List.getElem?_map, Option.map_eq_some_iff] at h
    obtain ⟨request, asked, rfl⟩ := h
    exact ⟨asked, fun m => by simp [initial]⟩

theorem run_sound (s : Session) (requests : List NavigationRequest) (moves : List Move) :
    ((initial s requests).run moves).Sound s requests :=
  run_induction (fun _ move sound => sound.step move) (initial_sound s requests) moves

theorem begun_run_le (s : Session) (requests : List NavigationRequest) (moves : List Move) :
    ((initial s requests).run moves).session.begun ≤
      s.begun + requests.countP (·.mode = .navigate) := by
  rw [(run_sound s requests moves).count]
  exact (run_sound s requests moves).lawful.begun_le

end World

/-- However the navigations of a session are interleaved, the newest wins. Their marks aside they
are the navigations themselves, and the count that tokens are drawn from grows by one for each of
them at most, so 64 bits hold it as long as it ends below 2^64. -/
theorem newestWins_run (s : Session) (requests : List NavigationRequest) (moves : List Move) :
    (∀ r : NavigationRequest, r.flow.plain = r.mode.flow r.settings r.target) ∧
      let w := (World.initial s requests).run moves
      w.session.begun ≤ s.begun + requests.countP (·.mode = .navigate) ∧
        NewestWins requests w.log :=
  ⟨NavigationRequest.plain_flow, World.begun_run_le s requests moves,
    (World.run_sound s requests moves).lawful.newestWins⟩

example :
    let requests : List NavigationRequest :=
      [⟨{}, .navigate, "/harbor/users"⟩, ⟨{}, .navigate, "/harbor/configs"⟩]
    let reply : (c : BackendCall) → c.Answer
      | .currentUser => .ok ⟨1, "root", true⟩
      | _ => .error .unauthenticated
    let w := (World.initial {} requests).run
      [.start 0, .start 1, .answer 0 reply, .answer 1 reply]
    (0, .settled .superseded) ∈ w.log ∧ (1, .settled .superseded) ∉ w.log ∧
      (1, .entered (.guard .systemAdmin)) ∈ w.log := by
  decide +kernel

end ConsoleGateway
