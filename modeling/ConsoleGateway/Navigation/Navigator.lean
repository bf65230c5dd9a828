import ConsoleGateway.Guard.Basic

namespace ConsoleGateway

inductive Outcome where
  | activated (route : Route) (params : List (String × String)) (project : Option ResolvedProject)
  | redirected (redirect : Redirect)
  | notFound
  | superseded
  deriving DecidableEq, Repr

namespace Navigator

/-- Whether a navigation is still wanted; one without a token always is. -/
def isCurrent : Option Token → Flow Bool
  | none => return true
  | some token => return (← Flow.session).isCurrent token

def settle (token : Option Token) (outcome : Outcome) : Flow Outcome := do
  return if ← isCurrent token then outcome else .superseded

def runGuards (token : Option Token) : List (Flow Decision) → Flow (Option Outcome)
  | [] => return none
  | guard :: guards => do
    match ← guard with
    | .denyRedirect redirect => return some (← settle token (.redirected redirect))
    | .allow => if ← isCurrent token then runGuards token guards else return some .superseded

def guards (settings : GuardSettings) (route : Route) (n : Navigation) : List (Flow Decision) :=
  (if route.authCheck then [authCheck settings n] else []) ++
    route.guards.map (·.check settings n)

def visit (settings : GuardSettings) (token : Option Token) (route : Route) (n : Navigation) :
    Flow Outcome := do
  match ← runGuards token (guards settings route n) with
  | some outcome => return outcome
  | none =>
    if route.resolveProject then
      match ← resolveProject n with
      | .resolved project => settle token (.activated route n.params (some project))
      | .fallback redirect => settle token (.redirected redirect)
    else settle token (.activated route n.params none)

def go (settings : GuardSettings) (token : Option Token) (target : String) : Flow Outcome :=
  match Navigation.parse target with
  | .error _ => return .notFound
  | .ok n =>
    if n.path = "/" then return .redirected (.ofPath harborRoot)
    else match Route.find? n.path with
      | none => return .notFound
      | some (route, params) =>
        match route.redirectTo with
        | some path => return .redirected (.ofPath path)
        | none => visit settings token route { n with params := params }

def navigate (settings : GuardSettings) (target : String) : Flow Outcome := do
  go settings (some (← Flow.begin)) target

def load (settings : GuardSettings) (target : String) : Flow Outcome := go settings none target

end Navigator

end ConsoleGateway
