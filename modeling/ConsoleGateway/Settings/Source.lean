import ConsoleGateway.Settings.KeyPath
import ConsoleGateway.Toml.Document
import ConsoleGateway.Text.Form
import ConsoleGateway.Unicode.Lowercase

namespace ConsoleGateway.Settings

/-- What a program finds when it starts: where it runs, the files by their names, and the
environment. Names that do not start with a slash are relative to the working directory. -/
structure Surroundings where
  -- By its absolute name, without dots.
  workingDirectory : String := "/srv/console"
  files : List (String × String) := []
  environment : List (String × String) := []
  deriving DecidableEq, Repr

def nameParts (name : String) : List (List Char) :=
  (Form.splitOn '/' name.toList).filter fun part => part ≠ [] && part ≠ ['.']

def isAbsolute (name : String) : Bool := name.toList.head? = some '/'

abbrev Place : Type := List (List Char)

namespace Place

-- Nothing is above the root.
def step (l : Place) (part : List Char) : Place :=
  if part = ['.', '.'] then l.dropLast else l ++ [part]

def stepsFrom : Place → Place → List (List Char)
  | part :: start, part' :: l =>
    if part = part' then stepsFrom start l
    else (part :: start).map (fun _ => ['.', '.']) ++ part' :: l
  | start, l => start.map (fun _ => ['.', '.']) ++ l

end Place

namespace Surroundings

def home (s : Surroundings) : Place := nameParts s.workingDirectory

def base (s : Surroundings) (name : String) : Place := if isAbsolute name then [] else s.home

def place (s : Surroundings) (name : String) : Place :=
  (nameParts name).foldl Place.step (s.base name)

def places (s : Surroundings) : List (Place × String) :=
  s.files.map fun (name, content) => (s.place name, content)

def isDirectory (s : Surroundings) (l : Place) : Bool :=
  l.isPrefixOf s.home || s.places.any fun (file, _) =>
    l.isPrefixOf file && l.length < file.length

def walk (s : Surroundings) (l : Place) : List (List Char) → Option Place
  | [] => some l
  | part :: parts => if s.isDirectory l then s.walk (l.step part) parts else none

def file? (s : Surroundings) (name : String) : Option String :=
  (s.walk (s.base name) (nameParts name)).bind fun l => s.places.lookup l

def hasDirectory (s : Surroundings) (name : String) : Bool :=
  ((s.walk (s.base name) (nameParts name)).map s.isDirectory).getD false

/-- How messages name a file: by the way to it from the working directory. -/
def shownName (s : Surroundings) (name : String) : String :=
  let steps := Place.stepsFrom s.home (s.base name ++ nameParts name)
  .ofList ((steps.intersperse ['/']).flatten)

def valueOf? (s : Surroundings) (name : String) : Option String := s.environment.lookup name

end Surroundings

def joinName (dir name : String) : String :=
  match name.toList with
  | '/' :: _ => name
  | _ => if dir = "" then name else dir ++ "/" ++ name

def hasExtension (extension : List Char) (name : String) : Bool :=
  match (nameParts name).getLast? with
  | some part => ('.' :: extension).isSuffixOf part && part.length ≠ extension.length + 1
  | none => false

def fileSettings (s : Surroundings) (name : String) : Except Unit (List (String × Tree)) :=
  if hasExtension "toml".toList name then
    match s.file? name with
    | none => .ok []
    | some content =>
      match Toml.Table.ofText? content.toList with
      | some t => .ok (Tree.ofEntries (s.shownName name) t)
      | none => .error ()
  else .ok []

def variableStart : List Char := "app__".toList

def environmentName : String := "the environment"

def pointLevels : List Char → List Char
  | '_' :: '_' :: cs => '.' :: pointLevels cs
  | c :: cs => c :: pointLevels cs
  | [] => []

def variableKey? (name : String) : Option String :=
  let name := Unicode.lowercase name.toList
  if variableStart.isPrefixOf name then
    some (.ofList (pointLevels (name.drop variableStart.length)))
  else none

def environmentSettings (s : Surroundings) : List (String × Tree) :=
  s.environment.filterMap fun (name, value) =>
    (variableKey? name).map fun key => (key, .leaf (some environmentName) (.string value))

end ConsoleGateway.Settings
