import ConsoleGateway.Decode.Reader
import ConsoleGateway.Json.Value

namespace ConsoleGateway

open Json (Value)

inductive Role where
  | projectAdmin
  | developer
  | guest
  | noRole
  | unrecognized (id : Int64)
  deriving DecidableEq, Repr

namespace Role

def ofId (id : Int64) : Role :=
  if id = 1 then .projectAdmin
  else if id = 2 then .developer
  else if id = 3 then .guest
  else if id ≤ 0 then .noRole
  else .unrecognized id

def id : Role → Int64
  | .projectAdmin => 1
  | .developer => 2
  | .guest => 3
  | .noRole => 0
  | .unrecognized id => id

def label : Role → Option String
  | .projectAdmin => some "project-admin"
  | .developer => some "developer"
  | .guest => some "guest"
  | .noRole => none
  | .unrecognized _ => none

def named : List (String × Role) :=
  [("project_admin", .projectAdmin), ("developer", .developer), ("guest", .guest),
   ("no_role", .noRole)]

def toJson : Role → Value
  | .projectAdmin => .string "project_admin"
  | .developer => .string "developer"
  | .guest => .string "guest"
  | .noRole => .string "no_role"
  | .unrecognized id => .object [("unrecognized", .int id.toInt)]

def reader : Decode.Reader Role :=
  Decode.variant
    (fun name =>
      if name = "unrecognized" then some (Decode.int64.map .unrecognized)
      else (named.lookup name).map fun role => (Decode.unit "unit").map fun _ => role)
    (fun name => match named.lookup name with
      | some role => .ok role
      | none => .error (.wrongType .unitVariant "newtype variant"))
    (named.map (·.1) ++ ["unrecognized"])

end Role

end ConsoleGateway
