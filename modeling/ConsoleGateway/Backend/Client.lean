import ConsoleGateway.Backend.Call
import ConsoleGateway.Http.Exchange
import ConsoleGateway.Settings.Config
import ConsoleGateway.Text.Integer

namespace ConsoleGateway

inductive RequestError where
  | badUrl (error : Url.Error)
  | unanswered (url : String) (failure : Http.Failure)
  | refusedWith (url : String) (status : UInt16)
  deriving DecidableEq, Repr

namespace RequestError

def message : RequestError → String
  | badUrl error => "invalid backend url: " ++ error.message
  | unanswered url failure => "request to " ++ url ++ " failed: " ++ failure.message
  | refusedWith url status => url ++ " answered with status " ++ toString status.toNat

def status? : RequestError → Option UInt16
  | refusedWith _ status => some status
  | _ => none

def toGuardError (e : RequestError) : GuardError :=
  match e.status? with
  | some status => .backend status e.message
  | none => .transport e.message

end RequestError

namespace BackendCall

def path : BackendCall → String
  | currentUser => "api/users/current"
  | signOut => "c/log_out"
  | project id => "api/projects/" ++ toString id.toInt
  | projectMembers id => "api/projects/" ++ toString id.toInt ++ "/members"

def meaning? : BackendCall → UInt16 → Option GuardError
  | currentUser, status => if status = 401 ∨ status = 403 then some .unauthenticated else none
  | signOut, _ => none
  | project id, status => if status = 404 then some (.projectNotFound id) else none
  | projectMembers id, status =>
    if status = 401 ∨ status = 403 ∨ status = 404 then some (.notAMember id) else none

def readBody : (c : BackendCall) → List UInt8 → Except Decode.Error c.Value
  | currentUser, body => Decode.ofBytes CurrentUser.reader body
  | signOut, _ => .ok ()
  | project _, body => Decode.ofBytes Project.reader body
  | projectMembers _, body => Decode.ofBytes (Decode.list ProjectMember.reader) body

def classify (c : BackendCall) (e : RequestError) : GuardError :=
  (e.status?.bind c.meaning?).getD e.toGuardError

end BackendCall

structure BackendClient where
  baseUrl : Url
  -- The name of the cookie that carries a session.
  cookieName : String
  deriving DecidableEq, Repr

namespace BackendClient

def baseText (s : String) : List Char :=
  (s.toList.reverse.dropWhile (· = '/')).reverse ++ ['/']

def ofConfig (config : BackendConfig) : Except Url.Error BackendClient := do
  return ⟨← Url.parse none (baseText config.baseUrl), config.sessionCookie⟩

def endpoint (client : BackendClient) (path : String) : Except Url.Error Url :=
  Url.parse (some client.baseUrl) path.toList

def cookieHeader (client : BackendClient) (session : String) : String :=
  client.cookieName ++ "=" ++ session

def get (client : BackendClient) (world : Http.World) (session : Option String) (path : String) :
    List Http.SentRequest × Except RequestError (Url × Http.Response) :=
  match client.endpoint path with
  | .error e => ([], .error (.badUrl e))
  | .ok url =>
    let (sent, result) := Http.fetch world url (session.map client.cookieHeader)
    (sent, match result with
      | .error failure => .error (.unanswered (Http.urlText url) failure)
      | .ok (final, r) =>
        if r.isSuccess then .ok (final, r) else .error (.refusedWith (Http.urlText url) r.status))

def call (client : BackendClient) (world : Http.World) (session : Option String)
    (c : BackendCall) : List Http.SentRequest × c.Answer :=
  let (sent, result) := client.get world session c.path
  (sent, match result with
    | .error e => .error (c.classify e)
    | .ok (url, r) =>
      match c.readBody r.body with
      | .ok value => .ok value
      | .error _ => .error (c.classify (.unanswered (Http.urlText url) .undecodable)))

end BackendClient

end ConsoleGateway
