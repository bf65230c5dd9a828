import ConsoleGateway.Guard.Flow
import ConsoleGateway.Navigation.GuestPath
import ConsoleGateway.Navigation.Target
import ConsoleGateway.Route.Table
import ConsoleGateway.Settings.Config
import ConsoleGateway.Text.Integer

namespace ConsoleGateway

structure GuardSettings where
  readOnly : Bool := false
  defaultLanding : String := projectListPath
  deriving DecidableEq, Repr

namespace GuardSettings

def ofConfig (c : Config) : GuardSettings := ⟨c.readOnly, c.routes.defaultLanding⟩

def landing (settings : GuardSettings) : Decision := .denyRedirect (.ofPath settings.defaultLanding)

end GuardSettings

def signInRedirect (target : String) : Decision :=
  .denyRedirect ⟨signInPath, [(redirectUrlParam, target)]⟩

def isOpenUrl (url : String) : Bool :=
  url = harborRoot || signInPath.toList.isPrefixOf url.toList

def Navigation.projectId? (n : Navigation) : Option Int64 :=
  (n.param "id").bind Integer.int64?

def authCheckName : String := "auth-check"

/-- Stands before every page of the console. Also tells the page to clear its messages and its
search, and warns when the registry takes no changes. -/
def authCheck (settings : GuardSettings) (n : Navigation) : Flow Decision := do
  Flow.post .clearMessages
  if settings.readOnly then Flow.post .readOnly
  Flow.post .closeSearch
  match ← Flow.knownUser with
  | some _ => return .allow
  | none =>
    if isGuestPath n.url then return .allow
    else if isOpenUrl n.url then return .allow
    else return signInRedirect n.url

/-- Ends the session at the registry and forgets it here, whatever the registry says. -/
def signOut : Flow Decision := do
  let answer ← Flow.call .signOut
  Flow.update Session.clear
  match answer with
  | .ok _ => return .allow
  | .error _ => return .denyRedirect (.ofPath signInPath)

def signInGuard (settings : GuardSettings) (n : Navigation) : Flow Decision := do
  if n.isSigningOut then signOut
  else
    match ← Flow.knownUser with
    | some _ => return settings.landing
    | none => return .allow

def publicFallback (settings : GuardSettings) (projectId : Int64) : Flow Decision := do
  match ← Flow.call (.project projectId) with
  | .ok p => return if p.isPublic then .allow else settings.landing
  | .error _ => return settings.landing

/-- Lets those in who may see the members of a project, and remembers the members. -/
def checkMemberStatus (settings : GuardSettings) (projectId : Int64) : Flow Decision := do
  match ← Flow.call (.projectMembers projectId) with
  | .ok members =>
    Flow.update fun s => { s with projectMembers := members }
    return .allow
  | .error _ => publicFallback settings projectId

/-- Stands before the pages of one project. The members of the project before are forgotten
first. -/
def memberGuard (settings : GuardSettings) (n : Navigation) : Flow Decision := do
  Flow.update fun s => { s with projectMembers := [] }
  match n.projectId? with
  | none => return settings.landing
  | some projectId =>
    match ← Flow.knownUser with
    | some _ => checkMemberStatus settings projectId
    | none => publicFallback settings projectId

def systemAdminGuard (settings : GuardSettings) (n : Navigation) : Flow Decision := do
  match ← Flow.knownUser with
  | some u => return if u.admin then .allow else settings.landing
  | none => return signInRedirect n.url

namespace GuardKind

def check (settings : GuardSettings) (n : Navigation) : GuardKind → Flow Decision
  | signIn => signInGuard settings n
  | member => memberGuard settings n
  | systemAdmin => systemAdminGuard settings n

def name : GuardKind → String
  | signIn => "sign-in"
  | member => "member"
  | systemAdmin => "system-admin"

end GuardKind

inductive ResolveOutcome where
  | resolved (project : ResolvedProject)
  | fallback (redirect : Redirect)
  deriving DecidableEq, Repr

/-- Loads the project of a navigation for the user that is remembered then. Without a project the
caller goes to the list of projects. -/
def resolveProject (n : Navigation) : Flow ResolveOutcome := do
  match (n.param "id").or (n.queryParam projectIdParam) |>.bind Integer.int64? with
  | none => return .fallback (.ofPath projectListPath)
  | some projectId =>
    match ← Flow.call (.project projectId) with
    | .ok p => return .resolved (.resolve p (← Flow.session).user)
    | .error _ => return .fallback (.ofPath projectListPath)

end ConsoleGateway
