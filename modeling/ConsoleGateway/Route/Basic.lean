import ConsoleGateway.Text.Form

namespace ConsoleGateway

inductive GuardKind where
  | signIn
  | member
  | systemAdmin
  deriving DecidableEq, Repr

inductive Segment where
  | literal (text : String)
  | param (name : String)
  deriving DecidableEq, Repr

structure Route where
  name : String
  pattern : List Segment
  -- Pages of the console proper pass the auth check first.
  authCheck : Bool := true
  guards : List GuardKind := []
  resolveProject : Bool := false
  redirectTo : Option String := none
  deriving DecidableEq, Repr

namespace Segment

def text : Segment → String
  | literal text => text
  | param name => "\x7b" ++ name ++ "\x7d"

end Segment

namespace Route

def patternText (r : Route) : String := String.join (r.pattern.map fun s => "/" ++ s.text)

def params? : List Segment → List (List Char) → Option (List (String × String))
  | [], [] => some []
  | .literal text :: pattern, segment :: segments =>
    if segment = text.toList then params? pattern segments else none
  | .param name :: pattern, segment :: segments =>
    if segment = [] then none
    else (params? pattern segments).map ((name, .ofList segment) :: ·)
  | _, _ => none

def trimSlashes (path : List Char) : List Char := (path.reverse.dropWhile (· = '/')).reverse

def segments? (path : List Char) : Option (List (List Char)) :=
  match Form.splitOn '/' (trimSlashes path) with
  | [] :: segments => some segments
  | _ => none

end Route

end ConsoleGateway
