import ConsoleGateway.Model.User

namespace ConsoleGateway

open Decode Json

structure Project where
  id : Int64
  name : String
  isPublic : Bool
  currentUserRoleId : Int64
  deriving DecidableEq, Repr

structure ResolvedProject where
  project : Project
  hasProjectAdminRole : Bool
  isMember : Bool
  roleName : Option String
  deriving DecidableEq, Repr

namespace Project

def role (p : Project) : Role := .ofId p.currentUserRoleId

def jsonMembers (p : Project) : List (String × Value) :=
  [("id", .int p.id.toInt), ("name", .string p.name), ("public", .bool p.isPublic),
   ("current_user_role_id", .int p.currentUserRoleId.toInt)]

def toJson (p : Project) : Value := .object p.jsonMembers

def fields : Fields [Int64, String, Bool, Int64] :=
  .cons (.required "id" ["project_id"] int64) <|
  .cons (.required "name" [] string) <|
  .cons (.withDefault "public" [] flag false) <|
  .cons (.withDefault "current_user_role_id" [] int64 0) .nil

def ofValues : Values [Int64, String, Bool, Int64] → Project
  | (id, name, isPublic, roleId, ()) => ⟨id, name, isPublic, roleId⟩

def reader : Reader Project := (record "Project" fields).map ofValues

end Project

namespace ResolvedProject

def systemAdminLabel : String := "system-admin"

/-- A project for a caller. Administrators may do everything, visitors nothing. -/
def resolve (p : Project) : Option CurrentUser → ResolvedProject
  | some u =>
    if u.admin then ⟨p, true, true, some systemAdminLabel⟩
    else ⟨p, p.role = .projectAdmin, 0 < p.currentUserRoleId, p.role.label⟩
  | none => ⟨p, false, false, none⟩

def toJson (r : ResolvedProject) : Value :=
  .object (r.project.jsonMembers ++
    [("has_project_admin_role", .bool r.hasProjectAdminRole), ("is_member", .bool r.isMember),
     ("role_name", .ofOption .string r.roleName)])

def fields : Fields [Bool, Bool, Option String] :=
  .cons (.required "has_project_admin_role" [] bool) <|
  .cons (.required "is_member" [] bool) <|
  .cons (.nullable "role_name" string) .nil

def collect (ctx : Context) : List (Doc × Doc) → Slots [Bool, Bool, Option String] →
    Except Decode.Error (Slots [Bool, Bool, Option String] × List (Doc × Doc))
  | [], slots => .ok (slots, [])
  | (key, d) :: members, slots =>
    match text? key with
    | none => .error .malformed
    | some name =>
      match fields.put? ctx name d slots with
      | some (.ok slots) => collect ctx members slots
      | some (.error e) => .error e
      | none => do
        buffer ctx d
        let (slots, others) ← collect ctx members slots
        return (slots, (key, d) :: others)

def reader : Reader ResolvedProject := fun ctx d =>
  match d with
  | .object members closed => do
    let inner ← ctx.enter
    let (slots, others) ← collect inner members fields.empty
    if !closed then .error .malformed
    else
      let (admin, member, roleName, ()) ← fields.finish slots
      let values ← Project.fields.ofMembers inner.kept others true
      return ⟨Project.ofValues values, admin, member, roleName⟩
  | d => .error (mismatch d "struct ResolvedProject")

end ResolvedProject

end ConsoleGateway
