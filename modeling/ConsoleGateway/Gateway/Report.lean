import ConsoleGateway.Navigation.Navigator

namespace ConsoleGateway

open Json (Value)

structure NavigationReport where
  outcome : Outcome
  -- Where the sign-in page leads once it has succeeded.
  afterSignIn : Option String := none
  notices : List Notice
  deriving DecidableEq, Repr

namespace Outcome

def name : Outcome → String
  | activated .. => "activated"
  | redirected _ => "redirected"
  | notFound => "not_found"
  | superseded => "superseded"

def route? : Outcome → Option Route
  | activated route _ _ => some route
  | _ => none

def details : Outcome → List (String × Value)
  | activated route params project =>
    [("route", .string route.name)]
      ++ (if params = [] then []
          else [("params", .object (params.map fun (k, v) => (k, .string v)))])
      ++ (project.map fun p => ("project", p.toJson)).toList
  | redirected redirect => [("redirect", .string redirect.location)]
  | notFound => []
  | superseded => []

end Outcome

namespace NavigationReport

def toJson (r : NavigationReport) : Value :=
  .object ([("outcome", .string r.outcome.name)] ++ r.outcome.details
    ++ (r.afterSignIn.map fun target => ("after_sign_in", .string target)).toList
    ++ [("notices", .array (r.notices.map Notice.toJson))])

end NavigationReport

end ConsoleGateway
