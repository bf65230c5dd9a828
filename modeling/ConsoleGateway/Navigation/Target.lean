import ConsoleGateway.Url.Parse
import ConsoleGateway.Unicode.Blank

namespace ConsoleGateway

def harborRoot : String := "/harbor"

def signInPath : String := "/harbor/sign-in"

def projectListPath : String := "/harbor/projects"

def redirectUrlParam : String := "redirect_url"

def signOutParam : String := "signout"

def projectIdParam : String := "project_id"

def standInOrigin : Url :=
  { scheme := ['h', 't', 't', 'p']
    username := []
    password := []
    host := some (.domain "console.invalid".toList)
    port := none
    path := .segments [[]]
    query := none
    fragment := none }

def setKey (key value : String) : List (String × String) → List (String × String)
  | [] => [(key, value)]
  | (k, v) :: pairs => if k = key then (key, value) :: pairs else (k, v) :: setKey key value pairs

def lastWins (pairs : List (String × String)) : List (String × String) :=
  pairs.foldl (fun found (k, v) => setKey k v found) []

structure Navigation where
  url : String
  path : String
  params : List (String × String)
  query : List (String × String)
  deriving DecidableEq, Repr

namespace Navigation

def ofUrl (url : Url) : Navigation :=
  let path := String.ofList url.path.text
  { url := match url.query with
      | some query => path ++ "?" ++ .ofList query
      | none => path
    path := path
    params := []
    query := lastWins (url.queryPairs.map fun (k, v) => (.ofList k, .ofList v)) }

def parse (target : String) : Except Url.Error Navigation :=
  (Url.parse (some standInOrigin) target.toList).map ofUrl

def param (n : Navigation) (name : String) : Option String := n.params.lookup name

def queryParam (n : Navigation) (name : String) : Option String := n.query.lookup name

def isSigningOut (n : Navigation) : Bool :=
  match n.queryParam signOutParam with
  | some value => value ≠ ""
  | none => false

end Navigation

def isSameOriginPath (url : List Char) : Bool :=
  match url with
  | '/' :: '/' :: _ => false
  | '/' :: _ =>
    !url.contains '\\' &&
      match Url.parse (some standInOrigin) url with
      | .ok joined => joined.origin?.isSome && joined.origin? = standInOrigin.origin?
      | .error _ => false
  | _ => false

/-- Where to go once the sign-in form has succeeded: the target asked for if it stays on the
console, the default otherwise. -/
def postSignInTarget (redirectUrl : Option String) (defaultLanding : String) : String :=
  match redirectUrl with
  | some url =>
    let trimmed := Unicode.trim url.toList
    if isSameOriginPath trimmed then .ofList trimmed else defaultLanding
  | none => defaultLanding

end ConsoleGateway
