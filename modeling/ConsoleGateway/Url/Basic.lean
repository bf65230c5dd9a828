import ConsoleGateway.Url.Host

namespace ConsoleGateway

namespace Url

inductive Path where
  | opaquePath (text : List Char)
  | segments (list : List (List Char))
  deriving DecidableEq, Repr

def Path.text : Path → List Char
  | .opaquePath text => text
  | .segments list => list.flatMap ('/' :: ·)

end Url

structure Url where
  scheme : List Char
  username : List Char
  password : List Char
  host : Option Url.Host
  port : Option Nat
  path : Url.Path
  query : Option (List Char)
  fragment : Option (List Char)
  deriving DecidableEq, Repr

namespace Url

def defaultPort? (scheme : List Char) : Option Nat :=
  if scheme = ['h', 't', 't', 'p'] ∨ scheme = ['w', 's'] then some 80
  else if scheme = ['h', 't', 't', 'p', 's'] ∨ scheme = ['w', 's', 's'] then some 443
  else if scheme = ['f', 't', 'p'] then some 21
  else none

def fileScheme : List Char := ['f', 'i', 'l', 'e']

def isSpecial (scheme : List Char) : Bool :=
  (defaultPort? scheme).isSome || scheme = fileScheme

def userinfoText (url : Url) : List Char :=
  if url.username = [] ∧ url.password = [] then []
  else url.username ++ (if url.password = [] then [] else ':' :: url.password) ++ ['@']

def authorityText (url : Url) : List Char :=
  match url.host with
  | some host =>
    '/' :: '/' :: url.userinfoText ++ host.text ++
      match url.port with
      | some port => ':' :: (toString port).toList
      | none => []
  | none =>
    match url.path with
    | .segments ([] :: _ :: _) => ['/', '.']
    | _ => []

def text (url : Url) : List Char :=
  url.scheme ++ ':' :: url.authorityText ++ url.path.text
    ++ (match url.query with | some query => '?' :: query | none => [])
    ++ (match url.fragment with | some fragment => '#' :: fragment | none => [])

/-- Scheme, host and port: what pages of one site share. Urls of unknown schemes have none. -/
def origin? (url : Url) : Option (List Char × Host × Nat) := do
  let port ← defaultPort? url.scheme
  let host ← url.host
  return (url.scheme, host, url.port.getD port)

def queryPairs (url : Url) : List (List Char × List Char) := Form.read (url.query.getD [])

end Url

end ConsoleGateway
