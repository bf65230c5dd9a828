import ConsoleGateway.Proofs.Alone
import ConsoleGateway.Proofs.NewestWins
import ConsoleGateway.Session.Schedule

namespace ConsoleGateway

namespace ScriptedBackend

def Calm (b : ScriptedBackend) : Prop := ∀ a ∈ b.arrangements, a.incident ≠ .overtaking

variable {b : ScriptedBackend}

theorem Calm.issue (calm : b.Calm) (cookie : Option String) (c : BackendCall) :
    (b.issue cookie c).1.overtakings = 0 ∧ (b.issue cookie c).2.Calm := by
  constructor
  · have meets : ∀ (due : List Arrangement) (p : Passage), p.overtakings = 0 →
        (∀ a ∈ due, a.incident ≠ .overtaking) →
          (due.foldl (fun p a => p.meet a.incident) p).overtakings = 0 := by
      intro due
      induction due with
      | nil => exact fun p hp _ => hp
      | cons a due ih =>
        intro p hp hdue
        refine ih _ ?_ fun a' ha' => hdue a' (List.mem_cons_of_mem _ ha')
        cases incident : a.incident with
        | failure e => simpa [incident, Passage.meet] using hp
        | overtaking => exact absurd incident (hdue a List.mem_cons_self)
    exact meets _ _ rfl fun a ha => calm a (List.mem_filter.1 ha).1
  · intro a ha
    obtain ⟨a', ha', hafter⟩ := List.mem_filterMap.1 ha
    have same : a.incident = a'.incident := by
      unfold Arrangement.after at hafter
      grind
    rw [same]
    exact calm a' ha'

theorem Calm.arrive (calm : b.Calm) (cookie : Option String) (c : BackendCall) :
    (b.arrive cookie c).Calm := by
  rw [Calm, ScriptedBackend.arrive, arrangements_setRegistryOf]
  exact calm

theorem Calm.reply (calm : b.Calm) (cookie : Option String) (c : BackendCall) :
    (b.reply cookie c).2.Calm := by
  rw [Calm, ScriptedBackend.reply, arrangements_setRegistryOf]
  exact calm

end ScriptedBackend

namespace World

variable {w : World} {i : Nat}

theorem proceed_access (update : Session → Session) (next : Session → MarkedFlow Outcome) :
    w.proceed i (.access update next) =
      World.proceed { w with session := update w.session } i (next (update w.session)) := rfl

theorem proceed_mark (m : Mark) (next : MarkedFlow Outcome) :
    w.proceed i (.mark m next) = World.proceed { w with log := w.log ++ [(i, m)] } i next := by
  simp [proceed, MarkedFlow.advance]

def Reached (w : World) (i : Nat) : Progress Outcome → Prop
  | .finished outcome _ => w.tasks[i]? = some (.ended outcome)
  | .waiting c _ _ next =>
    ∃ next', w.tasks[i]? = some (.waiting c next') ∧ ∀ answer, next answer = (next' answer).plain

theorem advance_reached (f : MarkedFlow Outcome) (notices : List Notice) (b : ScriptedBackend)
    (known : i < w.tasks.length) (calm : b.Calm) :
    let r := f.plain.advance notices w.session b
    ∃ moves, let w' := (w.proceed i f).run moves
      w'.session = r.2.1 ∧ r.2.2.Calm ∧ w'.tasks.length = w.tasks.length ∧
        (∀ j, j ≠ i → w'.tasks[j]? = w.tasks[j]?) ∧ w'.Reached i r.1 := by
  induction f generalizing w b notices with
  | done outcome =>
    refine ⟨[], rfl, calm, by simp [run, proceed], fun j hj => ?_, ?_⟩
    · simp [run, proceed, List.getElem?_set_ne (Ne.symm hj)]
    · simp [run, proceed, Flow.advance, MarkedFlow.plain, MarkedFlow.advance, Reached, known]
  | access update next ih =>
    rw [proceed_access]
    exact ih _ notices b known calm
  | notify n next ih => exact ih (notices ++ [n]) b known calm
  | mark m next ih =>
    rw [proceed_mark]
    exact ih notices b known calm
  | ask c next ih =>
    let w₁ := w.proceed i (.ask c next)
    have waits : w₁.tasks[i]? = some (.waiting c next) := by
      simp [w₁, proceed, MarkedFlow.advance, known]
    have others : ∀ j, j ≠ i → w₁.tasks[j]? = w.tasks[j]? := fun j hj => by
      simp [w₁, proceed, List.getElem?_set_ne (Ne.symm hj)]
    have length : w₁.tasks.length = w.tasks.length := by simp [w₁, proceed]
    -- A call that is answered at once is answered in a move of its own.
    have answered : ∀ (reply : (c : BackendCall) → c.Answer) (b' : ScriptedBackend), b'.Calm →
        let r := (next (reply c)).plain.advance notices w.session b'
        ∃ moves, let w' := w₁.run moves
          w'.session = r.2.1 ∧ r.2.2.Calm ∧ w'.tasks.length = w.tasks.length ∧
            (∀ j, j ≠ i → w'.tasks[j]? = w.tasks[j]?) ∧ w'.Reached i r.1 := by
      intro reply b' calm'
      obtain ⟨moves, hsession, hcalm, hlength, hothers, hreached⟩ :=
        ih (reply c) (w := w₁) notices b' (length ▸ known) calm'
      refine ⟨.answer i reply :: moves, ?_⟩
      have first : w₁.run (.answer i reply :: moves) =
          (w₁.proceed i (next (reply c))).run moves := by
        rw [← step_answer waits reply]
        rfl
      rw [first]
      exact ⟨hsession, hcalm, hlength.trans length, fun j hj => (hothers j hj).trans (others j hj),
        hreached⟩
    obtain ⟨undisturbed, calm₁⟩ := calm.issue none c
    simp only [MarkedFlow.plain, Flow.advance]
    rcases issued : b.issue none c with ⟨passage, b₁⟩
    rw [issued] at undisturbed calm₁
    have alone : passage.disturb w.session = w.session := by
      simp only [Passage.disturb, show passage.overtakings = 0 from undisturbed]
      rfl
    simp only [alone]
    have calm₂ := calm₁.arrive none c
    cases passage.failure with
    | some e => exact answered (fun _ => .error e) b₁ calm₁
    | none =>
      cases (b₁.arrive none c).delay none c with
      | some delay =>
        exact ⟨[], rfl, calm₂, length, others, next, waits, fun _ => rfl⟩
      | none =>
        exact answered (fun c => ((b₁.arrive none c).reply none c).1) _ (calm₂.reply none c)

end World

namespace Schedule

def Stage.Fits (w : World) (i : Nat) : Stage Outcome → Prop
  | start flow =>
    ∃ r, w.tasks[i]? = some (.idle r) ∧ flow = r.mode.flow r.settings r.target
  | resume c _ next =>
    ∃ next', w.tasks[i]? = some (.waiting c next') ∧ ∀ answer, next answer = (next' answer).plain

variable {w : World} {b : ScriptedBackend}

theorem Stage.Fits.congr {w' : World} {i : Nat} {stage : Stage Outcome} (fits : stage.Fits w i)
    (same : w'.tasks[i]? = w.tasks[i]?) : stage.Fits w' i := by
  cases stage with
  | start flow => simpa only [Fits, same] using fits
  | resume c notices next => simpa only [Fits, same] using fits

theorem Stage.Fits.run {i : Nat} {stage : Stage Outcome} (fits : stage.Fits w i) (calm : b.Calm) :
    let r := stage.run w.session b
    ∃ moves, let w' := w.run moves
      w'.session = r.2.1 ∧ r.2.2.Calm ∧ w'.tasks.length = w.tasks.length ∧
        (∀ j, j ≠ i → w'.tasks[j]? = w.tasks[j]?) ∧ w'.Reached i r.1 := by
  cases stage with
  | start flow =>
    obtain ⟨request, idle, rfl⟩ := fits
    have known := (List.getElem?_eq_some_iff.1 idle).1
    obtain ⟨moves, h⟩ := World.advance_reached request.flow [] b known calm
    rw [← World.step_start idle, NavigationRequest.plain_flow] at h
    exact ⟨.start i :: moves, h⟩
  | resume c notices next =>
    obtain ⟨next', waits, same⟩ := fits
    have known := (List.getElem?_eq_some_iff.1 waits).1
    let reply : (c : BackendCall) → c.Answer := fun c => (b.reply none c).1
    obtain ⟨moves, h⟩ := World.advance_reached (next' (reply c)) notices _ known (calm.reply none c)
    rw [← World.step_answer waits reply, ← same] at h
    exact ⟨.answer i reply :: moves, h⟩

theorem file_perm (e : Event α) (events : List (Event α)) : (file e events).Perm (e :: events) := by
  induction events with
  | nil => exact .refl _
  | cons first rest ih =>
    rw [file]
    split
    · exact .refl _
    · exact (ih.cons first).trans (.swap e first rest)

theorem run_interleaved (fuel : Nat) (events : List (Event Outcome))
    (fits : ∀ e ∈ events, e.stage.Fits w e.item) (distinct : (events.map (·.item)).Nodup)
    (calm : b.Calm) :
    let r := run fuel events w.session b
    ∃ moves, let w' := w.run moves
      w'.session = r.session ∧ (∀ j, j ∉ events.map (·.item) → w'.tasks[j]? = w.tasks[j]?) ∧
        ∀ i outcome notices, (i, outcome, notices) ∈ r.finished →
          w'.tasks[i]? = some (.ended outcome) := by
  induction fuel generalizing events w b with
  | zero => exact ⟨[], rfl, fun _ _ => rfl, by simp [run]⟩
  | succ fuel ih =>
    cases events with
    | nil => exact ⟨[], rfl, fun _ _ => rfl, by simp [run]⟩
    | cons e rest =>
      obtain ⟨fitsFirst, fitsRest⟩ := List.forall_mem_cons.1 fits
      obtain ⟨alone, distinctRest⟩ := List.nodup_cons.1 distinct
      obtain ⟨moves, hsession, hcalm, -, others, reached⟩ := fitsFirst.run calm
      have different : ∀ e' ∈ rest, e'.item ≠ e.item := by
        intro e' he' same
        exact alone (List.mem_map.2 ⟨e', he', same⟩)
      have still : ∀ e' ∈ rest, e'.stage.Fits (w.run moves) e'.item := fun e' he' =>
        (fitsRest e' he').congr (others e'.item (different e' he'))
      rcases ran : e.stage.run w.session b with ⟨progress, s, b'⟩
      rw [ran] at hsession hcalm reached
      subst hsession
      cases progress with
      | finished outcome notices =>
        obtain ⟨moves', hsession', others', hfinished⟩ := ih rest still distinctRest hcalm
        refine ⟨moves ++ moves', ?_⟩
        simp only [run, ran, World.run_append]
        refine ⟨hsession', fun j hj => ?_, fun i o posted h => ?_⟩
        · obtain ⟨hfirst, hrest⟩ := not_or.1 (List.mem_cons.not.1 hj)
          exact (others' j hrest).trans (others j hfirst)
        · rcases List.mem_cons.1 h with first | later
          · cases first
            exact (others' e.item alone).trans reached
          · exact hfinished i o posted later
      | waiting c delay notices next =>
        have perm := file_perm ⟨e.time + delay, e.item, .resume c notices next⟩ rest
        have items := perm.map (·.item)
        obtain ⟨moves', hsession', others', hfinished⟩ := ih (file _ rest) (by
          intro e' he'
          rcases List.mem_cons.1 (perm.mem_iff.1 he') with rfl | he'
          · exact reached
          · exact still e' he') (items.nodup_iff.2 distinct) hcalm
        refine ⟨moves ++ moves', ?_⟩
        simp only [run, ran, World.run_append]
        refine ⟨hsession', fun j hj => ?_, hfinished⟩
        have hj' := items.mem_iff.not.2 hj
        exact (others' j hj').trans (others j fun same => hj (by simp [same]))

theorem starts_perm (flows : List (Nat × Flow α)) :
    (starts flows).Perm
      (flows.zipIdx.map fun ((time, flow), item) => ⟨time, item, .start flow⟩) := by
  have files : ∀ (numbered : List ((Nat × Flow α) × Nat)) (events : List (Event α)),
      (numbered.foldl (fun events ((time, flow), item) => file ⟨time, item, .start flow⟩ events)
        events).Perm
      (numbered.map (fun ((time, flow), item) => ⟨time, item, .start flow⟩) ++ events) := by
    intro numbered
    induction numbered with
    | nil => exact fun events => .refl _
    | cons first numbered ih =>
      intro events
      exact (ih _).trans (((file_perm _ events).append_left _).trans List.perm_middle)
  simpa [starts] using files flows.zipIdx []

/-- Whatever a schedule of navigations answers, it answers in an order in which the newest wins. -/
theorem runAll_newestWins (asked : List (Nat × NavigationRequest)) (s : Session)
    (calm : b.Calm) :
    ∃ log, NewestWins (asked.map Prod.snd) log ∧ ∀ i outcome notices,
      (i, outcome, notices) ∈ (runAll (asked.map fun (time, r) =>
        (time, r.mode.flow r.settings r.target)) s b).finished → (i, .settled outcome) ∈ log := by
  let flows := asked.map fun (time, r) => (time, r.mode.flow r.settings r.target)
  let w := World.initial s (asked.map Prod.snd)
  have fits : ∀ e ∈ starts flows, e.stage.Fits w e.item := by
    intro e he
    obtain ⟨⟨⟨time, flow⟩, item⟩, hitem, rfl⟩ := List.mem_map.1 ((starts_perm flows).mem_iff.1 he)
    have asking := List.mem_zipIdx_iff_getElem?.1 hitem
    rw [List.getElem?_map, Option.map_eq_some_iff] at asking
    obtain ⟨⟨time', r⟩, hasked, hflow⟩ := asking
    cases hflow
    exact ⟨r, by simp [w, World.initial, hasked], rfl⟩
  have distinct : ((starts flows).map (·.item)).Nodup := by
    rw [((starts_perm flows).map (·.item)).nodup_iff, List.map_map]
    have numbered : (flows.zipIdx.map Prod.snd).Nodup := by
      rw [List.zipIdx_map_snd]
      exact List.nodup_range'
    exact numbered
  obtain ⟨moves, -, -, hfinished⟩ := run_interleaved (flows.length * eventsPerFlow) _ fits distinct
    calm
  have sound := World.run_sound s (asked.map Prod.snd) moves
  exact ⟨_, sound.lawful.newestWins, fun i outcome notices h =>
    sound.tasks i _ (hfinished i outcome notices h)⟩

end Schedule

end ConsoleGateway
