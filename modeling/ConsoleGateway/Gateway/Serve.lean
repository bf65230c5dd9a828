import ConsoleGateway.Gateway.Basic
import ConsoleGateway.Gateway.Endpoint
import ConsoleGateway.Gateway.StaticFile
import ConsoleGateway.Http.Exchange

namespace ConsoleGateway

open Json (Value)

structure Request where
  path : String
  query : Option String := none
  cookies : Option String := none
  deriving DecidableEq, Repr

namespace Request

def ofTarget (target : String) (cookies : Option String) : Request :=
  let cs := target.toList.takeWhile (· ≠ '#')
  { path := .ofList (cs.takeWhile (· ≠ '?'))
    query := match cs.dropWhile (· ≠ '?') with
      | [] => none
      | _ :: query => some (.ofList query)
    cookies }

def target (r : Request) : String :=
  match r.query with
  | some query => r.path ++ "?" ++ query
  | none => r.path

def session? (config : Config) (r : Request) : Option String :=
  r.cookies.bind (Http.Cookie.value? config.backend.sessionCookie)

end Request

inductive Body where
  | text (s : String)
  | json (v : Value)
  deriving Repr

structure Reply where
  status : Nat
  location : Option String := none
  cacheControl : Option String := none
  body : Body := .text ""
  deriving Repr

namespace Reply

def ofJson (v : Value) : Reply := { status := 200, body := .json v }

def refuse (status : Nat) (text : String) : Reply := { status, body := .text text }

def redirect (location : String) : Reply :=
  if Http.isHeaderText location then { status := 302, location := some location }
  else refuse 500 "failed to parse header value"

def entryPage (config : Config) (files : FileTree) (status : Nat) : Reply :=
  match files.find config.staticFiles.index with
  | .file content =>
    { status, cacheControl := some config.staticFiles.cache.headerValue, body := .text content }
  | .belowFile => refuse 500 "Not a directory (os error 20)"
  | _ => refuse 404 "No such file or directory (os error 2)"

def staticFile (files : FileTree) (path : List Char) : Reply :=
  match FilePath.read path with
  | .error e => refuse 400 e.message
  | .ok segments =>
    match files.entry segments with
    | .file content => { status := 200, body := .text content }
    | .directory => refuse 404 "unable to render directory without index file"
    | _ => refuse 404 ""

def ofOutcome (config : Config) (files : FileTree) : Outcome → Reply
  | .activated .. => entryPage config files 200
  | .notFound => entryPage config files 404
  | .redirected r => redirect r.location
  | .superseded => refuse 409 ""

def apiIndex : Reply :=
  ofJson (.object
    [("name", .string "Registry Console Gateway API"), ("version", .string "0.1.0")])

end Reply

inductive QueryError where
  | missingUrl
  | duplicateUrl
  deriving DecidableEq, Repr

def QueryError.message : QueryError → String
  | missingUrl => "Query deserialize error: missing field `url`"
  | duplicateUrl => "Query deserialize error: duplicate field `url`"

def Request.navigationTarget (r : Request) : Except QueryError String :=
  match (Form.read (r.query.getD "").toList).filter (·.1 = "url".toList) with
  | [] => .error .missingUrl
  | [(_, target)] => .ok (.ofList target)
  | _ => .error .duplicateUrl

def afterSignIn? (config : Config) (target : String) (outcome : Outcome) : Option String :=
  if outcome.route?.map (·.name) = some "sign-in" then
    let redirectUrl := match Navigation.parse target with
      | .ok n => n.queryParam redirectUrlParam
      | .error _ => none
    some (postSignInTarget redirectUrl config.routes.defaultLanding)
  else none

namespace GatewayState

def serve (config : Config) (files : FileTree) (handle : BackendHandler σ) (now : Int)
    (r : Request) (state : GatewayState σ) : Reply × GatewayState σ :=
  let cookie := r.session? config
  match Endpoint.ofPath r.path.toList with
  | .apiIndex => (.apiIndex, state)
  | .apiNothing => (.refuse 404 "", state)
  | .apiSession =>
    let (id, state) := state.contextFor now cookie
    (.ofJson (state.registry.session id).snapshot.toJson, state)
  | .apiNavigation =>
    match r.navigationTarget with
    | .error e => (.refuse 400 e.message, state)
    | .ok target =>
      let ((outcome, notices), state) := state.navigate config handle now cookie .navigate target
      let afterSignIn := afterSignIn? config target outcome
      (.ofJson (NavigationReport.toJson { outcome, afterSignIn, notices }), state)
  | .consolePage =>
    let ((outcome, _), state) := state.navigate config handle now cookie .load r.target
    (.ofOutcome config files outcome, state)
  | .staticFile => (.staticFile files (Endpoint.routingPath r.path.toList), state)

end GatewayState

end ConsoleGateway
