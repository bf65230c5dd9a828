import ConsoleGateway.Proofs.Run

/-! What a flow can come to while the calls it puts are answered within given terms, and whoever
else is at the session meanwhile leaves it within them. -/

namespace ConsoleGateway

/-- Which answers a call may get, and which sessions a flow may find. -/
structure Terms where
  answers : (c : BackendCall) → c.Answer → Prop
  session : Session → Prop

namespace Terms

structure Hold (terms : Terms) (handle : Flow.Handler σ) (ok : σ → Prop) : Prop where
  answers : ∀ c s b, terms.session s → ok b → terms.answers c (handle c s b).1
  session : ∀ c s b, terms.session s → ok b → terms.session (handle c s b).2.1
  ok : ∀ c s b, terms.session s → ok b → ok (handle c s b).2.2

def any : Terms := ⟨fun _ _ => True, fun _ => True⟩

theorem any_hold (handle : Flow.Handler σ) : any.Hold handle fun _ => True :=
  ⟨fun _ _ _ _ _ => trivial, fun _ _ _ _ _ => trivial, fun _ _ _ _ _ => trivial⟩

end Terms

namespace Flow

variable {terms : Terms} {handle : Handler σ} {ok : σ → Prop}

/-- Within the terms, every value the flow can end in satisfies the condition, and the flow itself
leaves the session within them. -/
def Always (terms : Terms) (Q : α → Prop) : Flow α → Prop
  | done a => Q a
  | access update next =>
    ∀ s, terms.session s → terms.session (update s) ∧ (next (update s)).Always terms Q
  | notify _ next => next.Always terms Q
  | ask c next => ∀ answer, terms.answers c answer → (next answer).Always terms Q

theorem Always.bind {Q : α → Prop} {R : β → Prop} {f : Flow α} {k : α → Flow β}
    (hf : f.Always terms Q) (hk : ∀ a, Q a → (k a).Always terms R) :
    (f.bind k).Always terms R := by
  induction f with
  | done a => exact hk a hf
  | access update next ih => exact fun s hs => ⟨(hf s hs).1, ih _ (hf s hs).2⟩
  | notify n next ih => exact ih hf
  | ask c next ih => exact fun answer h => ih answer (hf answer h)

theorem Always.mono {Q R : α → Prop} {f : Flow α} (hf : f.Always terms Q) (h : ∀ a, Q a → R a) :
    f.Always terms R := by
  induction f with
  | done a => exact h a hf
  | access update next ih => exact fun s hs => ⟨(hf s hs).1, ih _ (hf s hs).2⟩
  | notify n next ih => exact ih hf
  | ask c next ih => exact fun answer ha => ih answer (hf answer ha)

theorem Always.run {Q : α → Prop} {f : Flow α} (hf : f.Always terms Q)
    (hold : terms.Hold handle ok) {s : Session} {b : σ} (hs : terms.session s) (hb : ok b) :
    let r := f.run handle s b
    Q r.value ∧ terms.session r.session ∧ ok r.backend := by
  induction f generalizing s b with
  | done a => exact ⟨hf, hs, hb⟩
  | access update next ih => exact ih _ (hf s hs).2 (hf s hs).1 hb
  | notify n next ih => exact ih hf hs hb
  | ask c next ih =>
    exact ih _ (hf _ (hold.answers c s b hs hb)) (hold.session c s b hs hb) (hold.ok c s b hs hb)

theorem always_any (f : Flow α) : f.Always .any fun _ => True := by
  induction f with
  | done a => trivial
  | access update next ih => exact fun s _ => ⟨trivial, ih _⟩
  | notify n next ih => exact ih
  | ask c next ih => exact fun answer _ => ih answer

theorem always_session : session.Always terms terms.session := fun _ hs => ⟨hs, hs⟩

theorem always_update {f : Session → Session} (h : ∀ s, terms.session s → terms.session (f s)) :
    (update f).Always terms fun _ => True := fun s hs => ⟨h s hs, trivial⟩

theorem always_post (terms : Terms) (notice : Notice) :
    (post notice).Always terms fun _ => True := trivial

theorem always_call (c : BackendCall) : (call c).Always terms (terms.answers c) :=
  fun _ h => h

end Flow

namespace Navigator

variable {terms : Terms} {token : Option Token} {settings : GuardSettings} {route : Route}
  {n : Navigation}

theorem always_settle {Q : Outcome → Prop} {outcome : Outcome} (delivered : Q outcome)
    (overtaken : Q .superseded) : (settle token outcome).Always terms Q := by
  cases token with
  | none => exact delivered
  | some token =>
    refine fun s hs => ⟨hs, ?_⟩
    cases h : s.isCurrent token <;> simpa [Flow.Always, h]

theorem always_runGuards {checks : List (Flow Decision × Prop)}
    (h : ∀ check ∈ checks, check.1.Always terms fun d => d = .allow → check.2) :
    (runGuards token (checks.map Prod.fst)).Always terms fun r =>
      (∀ route ps project, r ≠ some (.activated route ps project)) ∧
        (r = none → ∀ check ∈ checks, check.2) := by
  induction checks with
  | nil => simp [runGuards, Flow.Always]
  | cons check checks ih =>
    obtain ⟨hcheck, hchecks⟩ := List.forall_mem_cons.1 h
    refine hcheck.bind fun d hd => ?_
    cases d with
    | denyRedirect redirect =>
      refine Flow.Always.bind (Q := fun o => ∀ route ps project, o ≠ .activated route ps project)
        (always_settle (by simp) (by simp)) fun o ho => ?_
      simpa [Flow.Always] using ho
    | allow =>
      refine Flow.Always.bind (Q := fun _ => True) ?_ fun wanted _ => ?_
      · cases token with
        | none => trivial
        | some token => exact fun s hs => ⟨hs, trivial⟩
      · cases wanted with
        | false => simp [Flow.Always]
        | true => exact (ih hchecks).mono fun r hr =>
            ⟨hr.1, fun hnone => List.forall_mem_cons.2 ⟨hd rfl, hr.2 hnone⟩⟩

theorem always_resolveProject : (resolveProject n).Always terms fun _ => True := by
  unfold resolveProject
  split
  · trivial
  · intro answer _
    cases answer with
    | error e => trivial
    | ok p => exact fun s hs => ⟨hs, trivial⟩

theorem always_visit {checks : List (Flow Decision × Prop)}
    (chain : guards settings route n = checks.map Prod.fst)
    (h : ∀ check ∈ checks, check.1.Always terms fun d => d = .allow → check.2) :
    (visit settings token route n).Always terms fun outcome =>
      ∀ r ps project, outcome = .activated r ps project →
        r = route ∧ ps = n.params ∧ ∀ check ∈ checks, check.2 := by
  unfold visit
  rw [chain]
  refine (always_runGuards h).bind fun r hr => ?_
  cases r with
  | some outcome =>
    intro r ps project activated
    exact absurd (congrArg some activated) (hr.1 r ps project)
  | none =>
    have allowed := hr.2 rfl
    dsimp only
    split
    · refine always_resolveProject.bind fun found _ => ?_
      cases found with
      | resolved project => exact always_settle (by simpa using allowed) (by simp)
      | fallback redirect => exact always_settle (by simp) (by simp)
    · exact always_settle (by simpa using allowed) (by simp)

end Navigator

end ConsoleGateway
