import ConsoleGateway.Decode.Record
import ConsoleGateway.Model.Role

namespace ConsoleGateway

open Decode Json

structure CurrentUser where
  id : Int64
  username : String
  admin : Bool
  deriving DecidableEq, Repr

structure ProjectMember where
  id : Int64
  projectId : Int64
  entityName : String
  entityType : String
  roleId : Int64
  deriving DecidableEq, Repr

namespace CurrentUser

def toJson (u : CurrentUser) : Value :=
  .object [("id", .int u.id.toInt), ("username", .string u.username), ("admin", .bool u.admin)]

def fields : Fields [Int64, String, Bool] :=
  .cons (.required "id" ["user_id"] int64) <|
  .cons (.required "username" [] string) <|
  .cons (.withDefault "admin" ["has_admin_role"] flag false) .nil

def reader : Reader CurrentUser :=
  (record "CurrentUser" fields).map fun (id, username, admin, ()) => ⟨id, username, admin⟩

end CurrentUser

namespace ProjectMember

def role (m : ProjectMember) : Role := .ofId m.roleId

def toJson (m : ProjectMember) : Value :=
  .object [("id", .int m.id.toInt), ("project_id", .int m.projectId.toInt),
    ("entity_name", .string m.entityName), ("entity_type", .string m.entityType),
    ("role_id", .int m.roleId.toInt)]

def fields : Fields [Int64, Int64, String, String, Int64] :=
  .cons (.required "id" [] int64) <|
  .cons (.withDefault "project_id" [] int64 0) <|
  .cons (.withDefault "entity_name" [] string "") <|
  .cons (.withDefault "entity_type" [] string "") <|
  .cons (.withDefault "role_id" [] int64 0) .nil

def reader : Reader ProjectMember :=
  (record "ProjectMember" fields).map fun (id, projectId, entityName, entityType, roleId, ()) =>
    ⟨id, projectId, entityName, entityType, roleId⟩

end ProjectMember

end ConsoleGateway
