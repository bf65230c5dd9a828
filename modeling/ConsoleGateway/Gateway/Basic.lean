import ConsoleGateway.Gateway.Report
import ConsoleGateway.Http.Cookie
import ConsoleGateway.Session.Registry

namespace ConsoleGateway

abbrev BackendHandler (σ : Type) : Type := Option String → Flow.Handler σ

structure GatewayState (σ : Type) where
  registry : SessionRegistry
  backend : σ
  deriving Repr

inductive NavigationMode where
  -- Within the page; gives way to newer navigations.
  | navigate
  | load
  deriving DecidableEq, Repr

namespace NavigationMode

def flow (settings : GuardSettings) (target : String) : NavigationMode → Flow Outcome
  | navigate => Navigator.navigate settings target
  | load => Navigator.load settings target

end NavigationMode

/-- Whether a target is the sign-in page asked to end the session. -/
def endsSession (target : String) : Bool :=
  match Navigation.parse target with
  | .ok n => n.path = signInPath && n.isSigningOut
  | .error _ => false

namespace GatewayState

def initial (config : Config) (backend : σ) : GatewayState σ := ⟨.ofConfig config.session, backend⟩

def runOn (state : GatewayState σ) (handle : BackendHandler σ) (id : ContextId) (flow : Flow α) :
    (α × List Notice) × GatewayState σ :=
  let cookie := (state.registry.context? id).bind (·.cookie)
  let r := flow.run (handle cookie) (state.registry.session id) state.backend
  ((r.value, r.notices), ⟨state.registry.setSession id r.session, r.backend⟩)

def contextFor (state : GatewayState σ) (now : Int) (cookie : Option String) :
    ContextId × GatewayState σ :=
  let (id, registry) := state.registry.contextFor now cookie
  (id, { state with registry })

def forget (state : GatewayState σ) (cookie : String) : GatewayState σ :=
  { state with registry := (state.registry.invalidate cookie).2 }

/-- Runs a navigation for a cookie. After a sign-out the cookie's session is forgotten. -/
def navigate (config : Config) (handle : BackendHandler σ) (now : Int) (cookie : Option String)
    (mode : NavigationMode) (target : String) (state : GatewayState σ) :
    (Outcome × List Notice) × GatewayState σ :=
  let (id, state) := state.contextFor now cookie
  let (answer, state) := state.runOn handle id (mode.flow (.ofConfig config) target)
  match cookie with
  | some value => (answer, if endsSession target then state.forget value else state)
  | none => (answer, state)

end GatewayState

end ConsoleGateway
