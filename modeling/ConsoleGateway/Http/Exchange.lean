import ConsoleGateway.Text.Utf8
import ConsoleGateway.Url.Parse

namespace ConsoleGateway.Http

structure Response where
  status : UInt16
  -- Where the header is no text, it counts as missing.
  location : Option String := none
  body : List UInt8 := []
  deriving DecidableEq, Repr

namespace Response

def isSuccess (r : Response) : Bool := 200 ≤ r.status && r.status < 300

def isRedirection (r : Response) : Bool := [301, 302, 303, 307, 308].contains r.status

end Response

/-- What becomes of a request for a url. -/
inductive Delivery where
  -- The url cannot stand in a request, by the rules of whoever writes requests; these are stricter
  -- than those that urls are parsed by. Redirections to such a url are not followed.
  | unwritable
  -- No connection: the request is never sent.
  | refused
  -- The request is sent, and the connection closes without an answer.
  | dropped
  | answered (r : Response)
  deriving DecidableEq, Repr

def Delivery.isSent : Delivery → Bool
  | unwritable => false
  | refused => false
  | _ => true

abbrev World : Type := String → Delivery

def World.unreachable : World := fun _ => .refused

structure SentRequest where
  url : String
  cookie : Option String
  deriving DecidableEq, Repr

def SentRequest.accept : String := "application/json"

inductive Failure where
  | badHeader
  | badScheme (url : String)
  | badUri (url : String)
  | unsent (url : String)
  | tooManyRedirections (url : String)
  | undecodable
  deriving DecidableEq, Repr

def Failure.message : Failure → String
  | .badHeader => "builder error"
  | .badScheme url => "builder error for url (" ++ url ++ ")"
  | .badUri url => "builder error for url (" ++ url ++ ")"
  | .unsent url => "error sending request for url (" ++ url ++ ")"
  | .tooManyRedirections url => "error following redirect for url (" ++ url ++ ")"
  | .undecodable => "error decoding response body"

/-- Whether a text may stand in a header: it holds no controls but tabs. -/
def isHeaderText (s : String) : Bool :=
  s.toList.all fun c => c = '\t' || (32 ≤ c.toNat && c.toNat ≠ 127)

def isWebScheme (scheme : List Char) : Bool :=
  scheme = ['h', 't', 't', 'p'] || scheme = ['h', 't', 't', 'p', 's']

def hasHost (url : Url) : Bool := url.host ≠ none && url.host ≠ some (.domain [])

/-- A url without the name and the password in it, when they can be read. -/
def withoutCredentials (url : Url) : Url :=
  let name := Utf8.decode? (Percent.decode url.username)
  let password := Utf8.decode? (Percent.decode url.password)
  let found := match name with
    | none => false
    | some name => name ≠ [] || (url.password ≠ [] && password.isSome)
  if found then { url with username := [], password := [] } else url

def urlText (url : Url) : String := .ofList url.text

/-- The text by which a server knows a url: fragments are not sent. -/
def requestText (url : Url) : String := urlText { url with fragment := none }

def isSameServer (a b : Url) : Bool :=
  a.host = b.host &&
    a.port.or (Url.defaultPort? a.scheme) = b.port.or (Url.defaultPort? b.scheme)

def redirectionLimit : Nat := 10

def Response.target? (world : World) (r : Response) (url : Url) : Option Url :=
  if r.isRedirection then
    (r.location.bind fun location => (Url.parse (some url) location.toList).toOption).filter
      fun target => world (requestText target) ≠ .unwritable
  else none

/-- Requests a url, following at most so many redirections. The cookie goes to one server only.
Gives the requests sent, and the last url with its answer. -/
def follow (world : World) (cookie : Option String) :
    Nat → Url → List SentRequest × Except Failure (Url × Response)
  | limit, url =>
    let sent : SentRequest := ⟨requestText url, cookie⟩
    match world (requestText url) with
    | .unwritable => ([], .error (.badUri (urlText url)))
    | .refused => ([], .error (.unsent (urlText url)))
    | .dropped => ([sent], .error (.unsent (urlText url)))
    | .answered r =>
      match r.target? world url with
      | none => ([sent], .ok (url, r))
      | some target =>
        match limit with
        | 0 => ([sent], .error (.tooManyRedirections (urlText url)))
        | limit + 1 =>
          if isWebScheme target.scheme then
            let cookie := if isSameServer target url then cookie else none
            let (later, result) := follow world cookie limit target
            (sent :: later, result)
          else ([sent], .error (.badScheme (urlText target)))

def fetch (world : World) (url : Url) (cookie : Option String) :
    List SentRequest × Except Failure (Url × Response) :=
  let url := withoutCredentials url
  if !hasHost url then ([], .error (.badScheme (urlText url)))
  else if !(cookie.map isHeaderText).getD true then ([], .error .badHeader)
  else if !isWebScheme url.scheme then ([], .error (.badScheme (urlText url)))
  else follow world cookie redirectionLimit url

end ConsoleGateway.Http
