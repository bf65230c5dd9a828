import ConsoleGateway.Route.Basic

namespace ConsoleGateway

namespace Route

def page (name : String) (pattern : List Segment) (guards : List GuardKind) : Route :=
  { name, pattern, guards }

def projectPage (name : String) (pattern : List Segment) : Route :=
  { name, pattern, guards := [.member], resolveProject := true }

def underHarbor (segments : List Segment) : List Segment := .literal "harbor" :: segments

def underProject (segments : List Segment) : List Segment :=
  underHarbor (.literal "projects" :: .param "id" :: segments)

def table : List Route :=
  [{ name := "reset-password", pattern := [.literal "reset_password"], authCheck := false },
   { name := "root", pattern := underHarbor [], redirectTo := some "/harbor/sign-in" },
   page "sign-in" (underHarbor [.literal "sign-in"]) [.signIn],
   page "projects" (underHarbor [.literal "projects"]) [],
   page "logs" (underHarbor [.literal "logs"]) [],
   page "users" (underHarbor [.literal "users"]) [.systemAdmin],
   page "groups" (underHarbor [.literal "groups"]) [.systemAdmin],
   page "registries" (underHarbor [.literal "registries"]) [.systemAdmin],
   page "replications" (underHarbor [.literal "replications"]) [.systemAdmin],
   page "configs" (underHarbor [.literal "configs"]) [.systemAdmin],
   page "registry" (underHarbor [.literal "registry"]) [.systemAdmin],
   projectPage "tag-repository" (underHarbor [.literal "tags", .param "id", .param "repo"]),
   projectPage "repository" (underProject [.literal "repositories", .param "repo"]),
   projectPage "tag-detail"
     (underProject [.literal "repositories", .param "repo", .literal "tags", .param "tag"]),
   projectPage "chart-versions"
     (underProject [.literal "helm-charts", .param "chart", .literal "versions"]),
   projectPage "chart-detail"
     (underProject [.literal "helm-charts", .param "chart", .literal "versions",
       .param "version"]),
   projectPage "project-detail" (underProject []),
   projectPage "project-repositories" (underProject [.literal "repositories"]),
   projectPage "project-charts" (underProject [.literal "helm-charts"]),
   projectPage "project-repository-tags"
     (underProject [.literal "repositories", .param "repo", .literal "tags"]),
   projectPage "project-replications" (underProject [.literal "replications"]),
   projectPage "project-members" (underProject [.literal "members"]),
   projectPage "project-logs" (underProject [.literal "logs"]),
   projectPage "project-labels" (underProject [.literal "labels"]),
   projectPage "project-configs" (underProject [.literal "configs"])]

/-- The first route that a path matches. Paths count as shorter than 2^16 bytes; a router that keeps
sixteen bits of where parameters begin and end would cut longer ones in the wrong places. -/
def find? (path : String) : Option (Route × List (String × String)) :=
  (segments? path.toList).bind fun segments =>
    table.findSome? fun route => (params? route.pattern segments).map fun params => (route, params)

end Route

end ConsoleGateway
