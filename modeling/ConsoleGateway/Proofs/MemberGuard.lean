import ConsoleGateway.Proofs.NewestWins
import ConsoleGateway.Proofs.ProjectAccess
import ConsoleGateway.Proofs.Recorded

namespace ConsoleGateway

def NavigationRequest.projectId? (r : NavigationRequest) : Option Int64 :=
  match Navigation.parse r.target with
  | .ok n => (Route.find? n.path).bind fun (_, params) => { n with params }.projectId?
  | .error _ => none

def NavigationRequest.MayCall (r : NavigationRequest) (c : BackendCall) : Prop :=
  ∀ id, c = .projectMembers id → r.projectId? = some id

def Mark.memberGuard : Mark := .entered (.guard .member)

def NavigationRequest.MayEnd (r : NavigationRequest) (entered : Prop) : Outcome → Prop
  | .activated route params _ => route.resolveProject = true →
    entered ∧ r.projectId? = (params.lookup "id").bind Integer.int64?
  | _ => True

namespace MarkedFlow

def ForgetsMembers : MarkedFlow α → Prop
  | access update next =>
    ∀ s, (update s).projectMembers = [] ∧
      (next (update s)).plain.Bounded (fun _ => True) .nothing
  | _ => False

/-- The member guard starts by forgetting the members, and no page of a project is shown without
it. -/
def Resets (r : NavigationRequest) (entered : Prop) : MarkedFlow Outcome → Prop
  | done outcome => r.MayEnd entered outcome
  | access _ next => ∀ s, (next s).Resets r entered
  | notify _ next => next.Resets r entered
  | ask _ next => ∀ answer, (next answer).Resets r entered
  | mark m next =>
    (∀ outcome, m ≠ .settled outcome) ∧ (m = .memberGuard → next.ForgetsMembers) ∧
      next.Resets r (entered ∨ m = .memberGuard)

end MarkedFlow

namespace Task

def Bounded (may : BackendCall → Prop) : Task → Prop
  | idle request => request.flow.plain.Bounded may .nothing
  | waiting c next =>
    may c ∧ ∀ answer, (next answer).plain.Bounded may (.answer c answer)
  | ended _ => True

def Resets (r : NavigationRequest) (entered : Prop) : Task → Prop
  | idle request => request.flow.Resets r entered
  | waiting _ next => ∀ answer, (next answer).Resets r entered
  | ended _ => True

end Task

variable {r : NavigationRequest} {entered entered' : Prop} {may : BackendCall → Prop}
  {src : Sources} {f : MarkedFlow Outcome} {s : Session}

theorem NavigationRequest.MayEnd.mono {outcome : Outcome} (may : r.MayEnd entered outcome)
    (h : entered → entered') : r.MayEnd entered' outcome := by
  cases outcome with
  | activated route params project => exact fun isPage => (may isPage).imp_left h
  | _ => trivial

namespace MarkedFlow

theorem Resets.mono (hf : f.Resets r entered) (h : entered → entered') :
    f.Resets r entered' := by
  induction f generalizing entered entered' with
  | done outcome => exact NavigationRequest.MayEnd.mono hf h
  | access update next ih => exact fun s => ih s (hf s) h
  | notify n next ih => exact ih hf h
  | ask c next ih => exact fun answer => ih answer (hf answer) h
  | mark m next ih => exact ⟨hf.1, hf.2.1, ih hf.2.2 (Or.imp_left h)⟩

end MarkedFlow

theorem Task.Resets.mono {task : Task} (ht : task.Resets r entered) (h : entered → entered') :
    task.Resets r entered' := by
  cases task with
  | idle request => exact MarkedFlow.Resets.mono ht h
  | waiting c next => exact fun answer => (ht answer).mono h
  | ended outcome => trivial

namespace MarkedFlow

theorem advance_bounded (hf : f.plain.Bounded may src) (s : Session) :
    src.Allows s (f.advance s).session ∧ (f.advance s).task.Bounded may := by
  induction f generalizing s with
  | done outcome => exact ⟨.refl src s, trivial⟩
  | access update next ih =>
    obtain ⟨allows, bounded⟩ := ih _ (hf s).2 (update s)
    exact ⟨(hf s).1.trans allows, bounded⟩
  | notify n next ih => exact ih hf s
  | ask c next ih => exact ⟨.refl src s, hf⟩
  | mark m next ih => exact ih hf s

theorem entered_cons {m : Mark} {marks : List Mark}
    (h : (entered ∨ m = .memberGuard) ∨ .memberGuard ∈ marks) :
    entered ∨ .memberGuard ∈ m :: marks := by
  simpa [or_assoc, eq_comm] using h

theorem advance_resets (hf : f.Resets r entered) (s : Session) :
    (f.advance s).task.Resets r (entered ∨ .memberGuard ∈ (f.advance s).marks) := by
  induction f generalizing entered s with
  | done outcome => trivial
  | access update next ih => exact ih _ (hf _) _
  | notify n next ih => exact ih hf s
  | ask c next ih => exact fun answer => (hf answer).mono .inl
  | mark m next ih =>
    exact Task.Resets.mono (ih hf.2.2 s) entered_cons

theorem advance_settled (hf : f.Resets r entered) (s : Session) {outcome : Outcome}
    (settled : .settled outcome ∈ (f.advance s).marks) :
    r.MayEnd (entered ∨ .memberGuard ∈ (f.advance s).marks) outcome := by
  induction f generalizing entered s with
  | done outcome' =>
    cases List.mem_singleton.1 settled
    exact NavigationRequest.MayEnd.mono hf .inl
  | access update next ih => exact ih _ (hf _) _ settled
  | notify n next ih => exact ih hf s settled
  | ask c next ih => cases settled
  | mark m next ih =>
    rcases List.mem_cons.1 settled with this | later
    · exact absurd this.symm (hf.1 outcome)
    exact (ih hf.2.2 s later).mono entered_cons

theorem advance_forgets (hf : f.Resets r entered) (s : Session)
    (starts : .memberGuard ∈ (f.advance s).marks) :
    (f.advance s).session.projectMembers = [] := by
  induction f generalizing entered s with
  | done outcome => cases List.mem_singleton.1 starts
  | access update next ih => exact ih _ (hf _) _ starts
  | notify n next ih => exact ih hf s starts
  | ask c next ih => cases starts
  | mark m next ih =>
    rcases List.mem_cons.1 starts with this | later
    · cases next with
      | access update next =>
        obtain ⟨forgotten, bounded⟩ := hf.2.1 this.symm s
        have kept := (advance_bounded bounded (update s)).1.2
        rw [forgotten] at kept
        exact kept.elim id fun none => Decidable.of_not_not none
      | _ => exact (hf.2.1 this.symm).elim
    · exact ih hf.2.2 s later

end MarkedFlow

namespace Navigator

open MarkedFlow

variable {settings : GuardSettings} {token : Option Token} {route : Route} {n : Navigation}

theorem resets_stage (f : Flow α) {k : α → MarkedFlow Outcome} (hk : ∀ a, (k a).Resets r entered) :
    ((ofFlow f).bind k).Resets r entered := by
  induction f with
  | done a => exact hk a
  | access update next ih => exact fun s => ih s
  | notify n next ih => exact ih
  | ask c next ih => exact fun answer => ih answer

theorem resets_settle {outcome : Outcome} {k : Outcome → MarkedFlow Outcome}
    (delivered : (k outcome).Resets r entered) (overtaken : (k .superseded).Resets r entered) :
    ((ofFlow (settle token outcome)).bind k).Resets r entered := by
  cases token with
  | none => exact delivered
  | some token =>
    intro s
    cases current : s.isCurrent token <;> simpa [ofFlow, MarkedFlow.bind, current]

theorem resets_settled {outcome : Outcome} (may : r.MayEnd entered outcome) :
    (ofFlow (settle token outcome)).Resets r entered := by
  rw [← bind_done (ofFlow _)]
  exact resets_settle may trivial

variable {stages : List (Stage × Flow Decision)} {k : Option Outcome → MarkedFlow Outcome}

theorem bounded_markedGuards (bounded : ∀ stage ∈ stages, stage.2.Bounded may .nothing)
    (hk : ∀ denied, (k denied).plain.Bounded may .nothing) :
    ((markedGuards token stages).bind k).plain.Bounded may .nothing := by
  rw [plain_bind, plain_markedGuards]
  refine (bounded_runGuards fun guard hguard => ?_).bind hk
  obtain ⟨stage, hstage, rfl⟩ := List.mem_map.1 hguard
  exact bounded stage hstage

theorem resets_guards (bounded : ∀ stage ∈ stages, stage.2.Bounded (fun _ => True) .nothing)
    (forgets : ∀ stage ∈ stages, stage.1 = .guard .member →
      ∃ next, stage.2 = .access (fun s => { s with projectMembers := [] }) next)
    (hk : ∀ denied, (k denied).plain.Bounded (fun _ => True) .nothing)
    (denied : ∀ entered outcome, (∀ entered, r.MayEnd entered outcome) →
      (k (some outcome)).Resets r entered)
    (allowed : (k none).Resets r (entered ∨ .guard .member ∈ stages.map Prod.fst)) :
    ((markedGuards token stages).bind k).Resets r entered := by
  induction stages generalizing entered with
  | nil => exact allowed.mono (by simp)
  | cons stage stages ih =>
    obtain ⟨stage, guard⟩ := stage
    have whole : ((markedGuards token ((stage, guard) :: stages)).bind k).plain.Bounded
        (fun _ => True) .nothing := bounded_markedGuards bounded hk
    simp only [markedGuards, MarkedFlow.bind_eq, bind_assoc, enter] at whole ⊢
    refine ⟨by simp, fun isMember => ?_, resets_stage guard fun d => ?_⟩
    · obtain ⟨next, rfl⟩ := forgets _ List.mem_cons_self (by simpa [Mark.memberGuard] using isMember)
      exact fun s => ⟨rfl, (whole s).2⟩
    · cases d with
      | denyRedirect redirect =>
        simp only [bind_assoc]
        exact resets_settle (denied _ _ fun _ => trivial) (denied _ _ fun _ => trivial)
      | allow =>
        simp only [bind_assoc]
        refine resets_stage (isCurrent token) fun wanted => ?_
        cases wanted with
        | false => exact denied _ _ fun _ => trivial
        | true =>
          refine ih (fun stage h => bounded stage (List.mem_cons_of_mem _ h))
            (fun stage h => forgets stage (List.mem_cons_of_mem _ h)) (allowed.mono fun h => ?_)
          simpa [Mark.memberGuard, or_assoc, eq_comm] using h

theorem resets_arrive (may : ∀ project, r.MayEnd entered (.activated route n.params project)) :
    (markedArrive token route n).Resets r entered := by
  unfold markedArrive
  split
  · refine ⟨nofun, nofun, resets_stage (resolveProject n) fun found => ?_⟩
    cases found with
    | resolved project => exact resets_settled ((may _).mono .inl)
    | fallback redirect => exact resets_settled trivial
  · exact resets_settled (may none)

theorem stagedGuards_snd (settings : GuardSettings) (route : Route) (n : Navigation) :
    (stagedGuards settings route n).map Prod.snd = guards settings route n := by
  cases checked : route.authCheck <;> simp [stagedGuards, guards, checked]

theorem stagedGuards_member {stage : Stage × Flow Decision}
    (hstage : stage ∈ stagedGuards settings route n) (isMember : stage.1 = .guard .member) :
    stage.2 = memberGuard settings n := by
  rcases List.mem_append.1 hstage with first | rest
  · split at first
    · rw [List.mem_singleton.1 first] at isMember
      cases isMember
    · cases first
  · obtain ⟨kind, -, rfl⟩ := List.mem_map.1 rest
    cases isMember
    rfl

theorem resets_visit (onTable : route ∈ Route.table)
    (own : r.projectId? = (n.params.lookup "id").bind Integer.int64?) :
    (markedVisit settings token route n).Resets r False := by
  refine resets_guards (fun stage hstage => ?_) (fun stage hstage isMember => ?_) (fun denied => ?_)
    (fun _ outcome may => may _) ?_
  · refine (bounded_guards settings route n stage.2 ?_).mono (fun _ _ => trivial) (.refl _)
    rw [← stagedGuards_snd]
    exact List.mem_map_of_mem hstage
  · exact ⟨_, stagedGuards_member hstage isMember⟩
  · cases denied with
    | some outcome => trivial
    | none =>
      rw [show (markedArrive token route n).plain = arrive token route n from
        plain_markedArrive token route n]
      exact bounded_arrive.mono (fun _ _ => trivial) (.refl _)
  · refine resets_arrive fun project isPage => ⟨.inr ?_, own⟩
    obtain ⟨-, guarded, -⟩ := Route.table_projectPages route onTable isPage
    simp [stagedGuards, guarded]

theorem resets_go (token : Option Token) :
    (markedGo r.settings token r.target).Resets r False := by
  unfold markedGo
  split
  · trivial
  · rename_i n parsed
    split
    · trivial
    · split
      · trivial
      · rename_i route params found
        split
        · trivial
        · refine resets_visit (Route.find?_eq_some found).1 ?_
          simp [NavigationRequest.projectId?, parsed, found, Navigation.projectId?,
            Navigation.param]

end Navigator

namespace NavigationRequest

theorem resets_flow (r : NavigationRequest) : r.flow.Resets r False := by
  unfold flow
  split
  · exact fun s => ⟨nofun, nofun, (Navigator.resets_go _).mono .inl⟩
  · exact Navigator.resets_go none

theorem bounded_flow (r : NavigationRequest) : r.flow.plain.Bounded r.MayCall .nothing := by
  rw [plain_flow]
  refine Navigator.bounded_flow r.mode fun n route params parsed found c may id isMembers => ?_
  subst isMembers
  cases may with
  | guard hkind hcall =>
    rename_i kind
    cases kind with
    | member =>
      have named : ({ n with params } : Navigation).projectId? = some id := hcall
      simpa [projectId?, parsed, found] using named
    | signIn => exact hcall.elim
    | systemAdmin => exact hcall.elim

end NavigationRequest

end ConsoleGateway
