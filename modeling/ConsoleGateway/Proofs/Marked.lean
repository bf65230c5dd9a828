import ConsoleGateway.Proofs.Run

namespace ConsoleGateway

inductive Stage where
  | authCheck
  | guard (kind : GuardKind)
  | lookup
  deriving DecidableEq, Repr

inductive Mark where
  | began (token : Token)
  | entered (stage : Stage)
  | settled (outcome : Outcome)
  deriving DecidableEq, Repr

inductive MarkedFlow (α : Type) : Type where
  | done (a : α)
  | access (update : Session → Session) (next : Session → MarkedFlow α)
  | notify (notice : Notice) (next : MarkedFlow α)
  | ask (call : BackendCall) (next : call.Answer → MarkedFlow α)
  | mark (m : Mark) (next : MarkedFlow α)

namespace MarkedFlow

def bind : MarkedFlow α → (α → MarkedFlow β) → MarkedFlow β
  | done a, k => k a
  | access update next, k => access update fun s => (next s).bind k
  | notify n next, k => notify n (next.bind k)
  | ask c next, k => ask c fun answer => (next answer).bind k
  | mark m next, k => mark m (next.bind k)

instance : Monad MarkedFlow where
  pure := done
  bind := bind

@[simp] theorem bind_eq (f : MarkedFlow α) (k : α → MarkedFlow β) : f >>= k = f.bind k := rfl

@[simp] theorem pure_eq (a : α) : (pure a : MarkedFlow α) = done a := rfl

theorem bind_done (f : MarkedFlow α) : f.bind done = f := by
  induction f <;> simp [bind, *]

theorem bind_assoc (f : MarkedFlow α) (g : α → MarkedFlow β) (k : β → MarkedFlow γ) :
    (f.bind g).bind k = f.bind fun a => (g a).bind k := by
  induction f <;> simp [bind, *]

def ofFlow : Flow α → MarkedFlow α
  | .done a => done a
  | .access update next => access update fun s => ofFlow (next s)
  | .notify n next => notify n (ofFlow next)
  | .ask c next => ask c fun answer => ofFlow (next answer)

@[simp] theorem ofFlow_bind (f : Flow α) (k : α → Flow β) :
    ofFlow (f.bind k) = (ofFlow f).bind fun a => ofFlow (k a) := by
  induction f <;> simp [ofFlow, bind, Flow.bind, *]

/-- The flow that is left when the marks are taken away. -/
def plain : MarkedFlow α → Flow α
  | done a => .done a
  | access update next => .access update fun s => (next s).plain
  | notify n next => .notify n next.plain
  | ask c next => .ask c fun answer => (next answer).plain
  | mark _ next => next.plain

@[simp] theorem plain_ofFlow (f : Flow α) : (ofFlow f).plain = f := by
  induction f <;> simp [ofFlow, plain, *]

@[simp] theorem plain_bind (f : MarkedFlow α) (k : α → MarkedFlow β) :
    (f.bind k).plain = f.plain.bind fun a => (k a).plain := by
  induction f <;> simp [bind, plain, Flow.bind, *]

def enter (stage : Stage) (f : Flow α) : MarkedFlow α := mark (.entered stage) (ofFlow f)

@[simp] theorem plain_enter (stage : Stage) (f : Flow α) : (enter stage f).plain = f := by
  simp [enter, plain]

end MarkedFlow

namespace Navigator

open MarkedFlow

def stagedGuards (settings : GuardSettings) (route : Route) (n : Navigation) :
    List (Stage × Flow Decision) :=
  (if route.authCheck then [(.authCheck, authCheck settings n)] else []) ++
    route.guards.map fun kind => (.guard kind, kind.check settings n)

def markedGuards (token : Option Token) :
    List (Stage × Flow Decision) → MarkedFlow (Option Outcome)
  | [] => return none
  | (stage, guard) :: guards => do
    match ← enter stage guard with
    | .denyRedirect redirect => return some (← ofFlow (settle token (.redirected redirect)))
    | .allow =>
      if ← ofFlow (isCurrent token) then markedGuards token guards else return some .superseded

def markedArrive (token : Option Token) (route : Route) (n : Navigation) : MarkedFlow Outcome := do
  if route.resolveProject then
    match ← enter .lookup (resolveProject n) with
    | .resolved project => ofFlow (settle token (.activated route n.params (some project)))
    | .fallback redirect => ofFlow (settle token (.redirected redirect))
  else ofFlow (settle token (.activated route n.params none))

def markedVisit (settings : GuardSettings) (token : Option Token) (route : Route)
    (n : Navigation) : MarkedFlow Outcome := do
  match ← markedGuards token (stagedGuards settings route n) with
  | some outcome => return outcome
  | none => markedArrive token route n

def markedGo (settings : GuardSettings) (token : Option Token) (target : String) :
    MarkedFlow Outcome :=
  match Navigation.parse target with
  | .error _ => return .notFound
  | .ok n =>
    if n.path = "/" then return .redirected (.ofPath harborRoot)
    else match Route.find? n.path with
      | none => return .notFound
      | some (route, params) =>
        match route.redirectTo with
        | some path => return .redirected (.ofPath path)
        | none => markedVisit settings token route { n with params := params }

theorem plain_markedGuards (token : Option Token) (stages : List (Stage × Flow Decision)) :
    (markedGuards token stages).plain = runGuards token (stages.map Prod.snd) := by
  induction stages with
  | nil => rfl
  | cons stage stages ih =>
    obtain ⟨stage, guard⟩ := stage
    simp only [markedGuards, MarkedFlow.bind_eq, plain_bind, plain_enter, List.map_cons, runGuards]
    refine congrArg guard.bind (funext fun d => ?_)
    cases d with
    | denyRedirect redirect => simp [MarkedFlow.plain]
    | allow =>
      simp only [plain_bind, plain_ofFlow]
      refine congrArg (isCurrent token).bind (funext fun wanted => ?_)
      cases wanted <;> simp [ih, MarkedFlow.plain]

theorem plain_markedArrive (token : Option Token) (route : Route) (n : Navigation) :
    (markedArrive token route n).plain = arrive token route n := by
  unfold markedArrive arrive
  split
  · simp only [MarkedFlow.bind_eq, plain_bind, plain_enter]
    refine congrArg (resolveProject n).bind (funext fun found => ?_)
    cases found <;> simp
  · simp

theorem plain_markedVisit (settings : GuardSettings) (token : Option Token) (route : Route)
    (n : Navigation) :
    (markedVisit settings token route n).plain = visit settings token route n := by
  have chain : (stagedGuards settings route n).map Prod.snd = guards settings route n := by
    cases checked : route.authCheck <;> simp [stagedGuards, guards, checked]
  simp only [markedVisit, MarkedFlow.bind_eq, plain_bind, plain_markedGuards, chain]
  refine congrArg (runGuards token _).bind (funext fun denied => ?_)
  cases denied with
  | some outcome => rfl
  | none => exact plain_markedArrive token route n

theorem plain_markedGo (settings : GuardSettings) (token : Option Token) (target : String) :
    (markedGo settings token target).plain = go settings token target := by
  cases parsed : Navigation.parse target with
  | error e => simp [markedGo, go, parsed, MarkedFlow.plain]
  | ok n =>
    by_cases root : n.path = "/"
    · simp [markedGo, go, parsed, root, MarkedFlow.plain]
    cases found : Route.find? n.path with
    | none => simp [markedGo, go, parsed, root, found, MarkedFlow.plain]
    | some pair =>
      cases isPage : pair.1.redirectTo with
      | some path => simp [markedGo, go, parsed, root, found, isPage, MarkedFlow.plain]
      | none => simp [markedGo, go, parsed, root, found, isPage, plain_markedVisit]

end Navigator

structure NavigationRequest where
  settings : GuardSettings
  mode : NavigationMode
  target : String
  deriving DecidableEq, Repr

namespace NavigationRequest

def flow (r : NavigationRequest) : MarkedFlow Outcome :=
  match r.mode with
  | .navigate => .access Session.begin fun s =>
      .mark (.began s.newest) (Navigator.markedGo r.settings (some s.newest) r.target)
  | .load => Navigator.markedGo r.settings none r.target

theorem plain_flow (r : NavigationRequest) : r.flow.plain = r.mode.flow r.settings r.target := by
  obtain ⟨settings, mode, target⟩ := r
  cases mode with
  | navigate => simp [flow, MarkedFlow.plain, Navigator.plain_markedGo, NavigationMode.flow,
      Navigator.navigate]
  | load => exact Navigator.plain_markedGo settings none target

end NavigationRequest

end ConsoleGateway
