import ConsoleGateway.Model.User

namespace ConsoleGateway

open Decode Json

structure SessionSnapshot where
  user : Option CurrentUser
  projectMembers : List ProjectMember
  deriving DecidableEq, Repr

namespace SessionSnapshot

def isAuthenticated (s : SessionSnapshot) : Bool := s.user.isSome

def toJson (s : SessionSnapshot) : Value :=
  .object [("user", .ofOption CurrentUser.toJson s.user),
    ("project_members", .array (s.projectMembers.map ProjectMember.toJson))]

def fields : Fields [Option CurrentUser, List ProjectMember] :=
  .cons (.nullable "user" CurrentUser.reader) <|
  .cons (.required "project_members" [] (list ProjectMember.reader)) .nil

def reader : Reader SessionSnapshot :=
  (record "SessionSnapshot" fields).map fun (user, members, ()) => ⟨user, members⟩

end SessionSnapshot

end ConsoleGateway
