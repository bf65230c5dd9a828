import ConsoleGateway.Proofs.Redirects
import ConsoleGateway.Proofs.Requests
import ConsoleGateway.Proofs.Traffic
import ConsoleGateway.Proofs.Uncounted

namespace ConsoleGateway

open Json (Value)

def Context.uncounted (ctx : Context) : Context := { ctx with session := ctx.session.recount 0 }

namespace SessionRegistry

variable {r r' : SessionRegistry} {id : ContextId} {s s' : Session}

/-- The registry without its counts of navigations. -/
def uncounted (r : SessionRegistry) : SessionRegistry :=
  { r with contexts := r.contexts.map Context.uncounted }

theorem uncounted_modify {f g : Context → Context}
    (same : ∀ ctx, (f ctx).uncounted = g ctx.uncounted) :
    (r.modify id f).uncounted = r.uncounted.modify id g := by
  have contexts : (r.contexts.modify id.number f).map Context.uncounted =
      (r.contexts.map Context.uncounted).modify id.number g := by
    refine List.ext_getElem? fun i => ?_
    rw [List.getElem?_map, List.getElem?_modify, List.getElem?_modify, List.getElem?_map]
    cases r.contexts[i]? with
    | none => rfl
    | some ctx =>
      by_cases here : id.number = i
      · simp [here, same]
      · simp [here]
  exact congrArg (fun contexts => { r with contexts }) contexts

theorem uncounted_setSession (s : Session) :
    (r.setSession id s).uncounted = r.uncounted.setSession id (s.recount 0) :=
  uncounted_modify fun _ => rfl

theorem uncounted_invalidate (cookie : String) :
    (r.invalidate cookie).2.uncounted = (r.uncounted.invalidate cookie).2 := by
  have sameFind : r.uncounted.find? cookie = r.find? cookie := rfl
  cases found : r.find? cookie with
  | none => simp [invalidate, sameFind, found]
  | some id =>
    let clear (ctx : Context) : Context := { ctx with session := ctx.session.clear }
    have cleared : (r.modify id clear).uncounted = r.uncounted.modify id clear :=
      uncounted_modify fun _ => rfl
    simp only [invalidate, sameFind, found]
    exact congrArg (fun r : SessionRegistry =>
      { r with entries := r.entries.filter (·.1 ≠ fingerprint cookie) }) cleared

theorem uncounted_leave (errand : Errand) :
    (errand.leave r).uncounted = errand.leave r.uncounted := by
  unfold Errand.leave
  split
  · exact uncounted_invalidate _
  · rfl

end SessionRegistry

namespace GatewayState

theorem navigate_eq_load (config : Config)
    (answer : Option String → (c : BackendCall) → σ → c.Answer × σ) (now : Int)
    (cookie : Option String) (target : String) (state : GatewayState σ) :
    let load := state.navigate config (.ofAnswers answer) now cookie .load target
    let navigation := state.navigate config (.ofAnswers answer) now cookie .navigate target
    navigation.1 = load.1 ∧ navigation.2.backend = load.2.backend ∧
      navigation.2.registry.uncounted = load.2.registry.uncounted := by
  intro load navigation
  simp only [load, navigation, Traffic.navigate_eq, NavigationMode.flow, Navigator.run_navigate,
    true_and]
  rw [SessionRegistry.uncounted_leave, SessionRegistry.uncounted_leave,
    SessionRegistry.uncounted_setSession, SessionRegistry.uncounted_setSession]
  rfl

end GatewayState

namespace Redirect.Issued

variable {r : Redirect} {settings : GuardSettings} {target : String}

theorem isHeaderText_location (h : r.Issued settings target)
    (landing : Http.isHeaderText settings.defaultLanding = true) :
    Http.isHeaderText r.location = true := by
  have fixed : Http.isHeaderText harborRoot = true ∧ Http.isHeaderText signInPath = true ∧
      Http.isHeaderText projectListPath = true := by decide
  have places : ∀ path ∈ [harborRoot, signInPath, projectListPath, settings.defaultLanding],
      Http.isHeaderText path = true := by simp [fixed, landing]
  have path := places _ h.path_mem
  rw [Http.isHeaderText, location_toList, List.all_append, Bool.and_eq_true]
  refine ⟨path, ?_⟩
  split
  · rfl
  · refine List.all_eq_true.2 fun c hc => ?_
    rcases List.mem_cons.1 hc with rfl | written
    · decide
    · obtain ⟨low, high, -⟩ := Url.visible_of_escapedInQuery (Form.isSettledQuery_write _ c written)
      simp
      omega

end Redirect.Issued

def Reply.member? (reply : Reply) (name : String) : Option Value :=
  match reply.body with
  | .json (.object members) => members.lookup name
  | _ => none

namespace NavigationReport

theorem member?_redirect (report : NavigationReport) :
    (Reply.ofJson report.toJson).member? "redirect" =
      match report.outcome with
      | .redirected redirect => some (.string redirect.location)
      | _ => none := by
  obtain ⟨outcome, afterSignIn, notices⟩ := report
  have noNotices : ("redirect" == "notices") = false := by decide
  have noAfter : ("redirect" == "after_sign_in") = false := by decide
  have noRoute : ("redirect" == "route") = false := by decide
  have noParams : ("redirect" == "params") = false := by decide
  have noProject : ("redirect" == "project") = false := by decide
  have noOutcome : ("redirect" == "outcome") = false := by decide
  cases outcome with
  | activated route params project =>
    by_cases bare : params = [] <;> cases project <;> cases afterSignIn <;>
      simp [Reply.ofJson, Reply.member?, toJson, Outcome.details, *]
  | redirected redirect => rfl
  | notFound | superseded =>
    cases afterSignIn <;> simp [Reply.ofJson, Reply.member?, toJson, Outcome.details, *]

end NavigationReport

/-- What the status and the location of a page tell is what a report on it tells. -/
structure Reply.Agrees (page report : Reply) : Prop where
  activated : page.status = 200 ↔ report.member? "outcome" = some (.string "activated")
  redirected : page.status = 302 ↔ report.member? "outcome" = some (.string "redirected")
  notFound : page.status = 404 ↔ report.member? "outcome" = some (.string "not_found")
  location : page.location.map .string = report.member? "redirect"
  answered : page.status ∈ [200, 302, 404] ∧ report.status = 200
  current : report.member? "outcome" ≠ some (.string "superseded")

namespace Outcome

variable {config : Config} {files : FileTree} {content : String} {outcome : Outcome}

theorem agrees (index : files.find config.staticFiles.index = .file content)
    (delivered : outcome ≠ .superseded)
    (sendable : ∀ redirect, outcome = .redirected redirect →
      Http.isHeaderText redirect.location = true)
    (afterSignIn : Option String) (notices : List Notice) :
    (Reply.ofOutcome config files outcome).Agrees
      (.ofJson (NavigationReport.toJson ⟨outcome, afterSignIn, notices⟩)) := by
  let report := Reply.ofJson (NavigationReport.toJson ⟨outcome, afterSignIn, notices⟩)
  have told : report.member? "outcome" = some (.string outcome.name) := rfl
  have redirect := NavigationReport.member?_redirect ⟨outcome, afterSignIn, notices⟩
  have answered : report.status = 200 := rfl
  change (Reply.ofOutcome config files outcome).Agrees report
  change report.member? "redirect" = _ at redirect
  clear_value report
  cases outcome with
  | activated | notFound =>
    constructor <;> simp [Reply.ofOutcome, Reply.entryPage, index, told, redirect, answered, name]
  | redirected r =>
    constructor <;> simp [Reply.ofOutcome, Reply.redirect, sendable, told, redirect, answered, name]
  | superseded => exact absurd rfl delivered

end Outcome

namespace GatewayState

/-- The load of a console page and the report on a navigation to the same target, however the
target is percent-encoded, leave the registry, its sessions and the backend alike from every state,
but for the counts of navigations. The status and the location of the page say what the report
says, and neither of them is ever overtaken or fails. -/
theorem page_agrees_with_report (config : Config) (files : FileTree)
    (answer : Option String → (c : BackendCall) → σ → c.Answer × σ) (now : Int) (page : Request)
    (state : GatewayState σ) {escaped : Char → Bool} {content : String}
    (index : files.find config.staticFiles.index = .file content)
    (landing : Http.isHeaderText config.routes.defaultLanding = true)
    (mounted : Endpoint.isConsolePath page.path.toList = true)
    (safe : Percent.IsQuerySafe escaped) :
    let load := state.serve config files (.ofAnswers answer) now page
    let report := state.serve config files (.ofAnswers answer) now (page.report escaped)
    load.1.Agrees report.1 ∧ load.2.backend = report.2.backend ∧
      load.2.registry.uncounted = report.2.registry.uncounted := by
  intro load report
  let cookie := page.session? config
  let loads := state.navigate config (.ofAnswers answer) now cookie .load page.target
  let navigates := state.navigate config (.ofAnswers answer) now cookie .navigate page.target
  obtain ⟨same, backend, registry⟩ :=
    navigate_eq_load config answer now cookie page.target state
  have loaded : load = (.ofOutcome config files loads.1.1, loads.2) := by
    simp only [load, serve, Endpoint.ofPath_of_isConsolePath mounted]
    rfl
  have atReports : Endpoint.ofPath (page.report escaped).path.toList = .apiNavigation := by
    change Endpoint.ofPath "/api/navigation".toList = _
    decide
  have reported : report = (.ofJson (NavigationReport.toJson ⟨navigates.1.1,
      afterSignIn? config page.target navigates.1.1, navigates.1.2⟩), navigates.2) := by
    simp only [report, serve, atReports, Request.navigationTarget_report safe]
    rfl
  have issues : loads.1.1.Issues (.ofConfig config) page.target none := by
    rw [show loads = _ from Traffic.navigate_eq config _ now cookie .load page.target state]
    exact Navigator.run_issues .load (.ofConfig config) page.target _ _ _
  rw [loaded, reported]
  refine ⟨?_, backend.symm, registry.symm⟩
  have outcome : navigates.1.1 = loads.1.1 := congrArg Prod.fst same
  rw [outcome]
  refine Outcome.agrees index ?_ ?_ _ _
  · intro overtaken
    rw [overtaken] at issues
    exact issues rfl
  · intro redirect redirected
    rw [redirected] at issues
    exact Redirect.Issued.isHeaderText_location issues landing

def plainInLinks : List Char :=
  "ABCDEFGHIJKLMNOPQRSTUVWXYZabcdefghijklmnopqrstuvwxyz0123456789-._~/".toList

def escapedInLinks (c : Char) : Bool := !plainInLinks.contains c

theorem isQuerySafe_escapedInLinks : Percent.IsQuerySafe escapedInLinks := by
  have plain : plainInLinks.all fun c => c.toNat < 0x80 ∧ c ≠ '%' ∧ c ≠ '+' ∧ c ≠ '&' := by decide
  intro c kept
  rw [escapedInLinks, Bool.not_eq_false', List.contains_iff_mem] at kept
  exact of_decide_eq_true (List.all_eq_true.1 plain c kept)

theorem page_agrees_with_report_logs :
    let files : FileTree := ⟨[(["index.html"], "<html>")]⟩
    let page := Request.ofTarget "/harbor/logs?q=%C3%A4&b=1+2" (some "sid=abc")
    let answer := fun (_ : Option String) (c : BackendCall) (b : MemoryBackend) => b.answer c
    let state : GatewayState MemoryBackend := .initial {} {}
    let load := state.serve {} files (.ofAnswers answer) 0 page
    let report := state.serve {} files (.ofAnswers answer) 0 (page.report escapedInLinks)
    (files.find ({} : Config).staticFiles.index = .file "<html>" ∧
        Http.isHeaderText ({} : Config).routes.defaultLanding = true ∧
        Endpoint.isConsolePath page.path.toList = true ∧ Percent.IsQuerySafe escapedInLinks ∧
        (page.report escapedInLinks).query =
          some "url=/harbor/logs%3Fq%3D%25C3%25A4%26b%3D1%2B2") ∧
      load.1.Agrees report.1 ∧ load.2.backend = report.2.backend ∧
      load.2.registry.uncounted = report.2.registry.uncounted ∧ load.1.status = 302 ∧
      load.1.location =
        some "/harbor/sign-in?redirect_url=%2Fharbor%2Flogs%3Fq%3D%25C3%25A4%26b%3D1%2B2" := by
  intro files page answer state load report
  have index : files.find ({} : Config).staticFiles.index = .file "<html>" := by decide
  have landing : Http.isHeaderText ({} : Config).routes.defaultLanding = true := by decide
  have mounted : Endpoint.isConsolePath page.path.toList = true := by decide +kernel
  obtain ⟨agrees, backend, registry⟩ := page_agrees_with_report {} files answer 0 page
    state index landing mounted isQuerySafe_escapedInLinks
  exact ⟨⟨index, landing, mounted, isQuerySafe_escapedInLinks, by decide +kernel⟩, agrees, backend,
    registry, by decide +kernel, by decide +kernel⟩

end GatewayState

end ConsoleGateway
