import ConsoleGateway.Text.Form

namespace ConsoleGateway

structure FileTree where
  files : List (List String × String)
  deriving DecidableEq, Repr

namespace FileTree

inductive Entry where
  | file (content : String)
  | directory
  | missing
  | belowFile
  deriving DecidableEq, Repr

def entry (tree : FileTree) (segments : List String) : Entry :=
  match tree.files.lookup segments with
  | some content => .file content
  | none =>
    if tree.files.any fun (path, _) => segments.isPrefixOf path then .directory
    else if tree.files.any fun (path, _) => path.isPrefixOf segments then .belowFile
    else .missing

def walk (tree : FileTree) : List String → List String → Entry
  | here, [] => tree.entry here
  | here, segment :: rest =>
    match tree.entry here with
    | .directory =>
      if segment = "" ∨ segment = "." then walk tree here rest
      else if segment = ".." then
        if here = [] then .missing else walk tree here.dropLast rest
      else walk tree (here ++ [segment]) rest
    | .file _ => .belowFile
    | other => other

def find (tree : FileTree) (path : String) : Entry :=
  match path.toList with
  | '/' :: _ => .missing
  | cs => tree.walk [] ((Form.splitOn '/' cs).map .ofList)

end FileTree

inductive PathError where
  | badStart (c : Char)
  | badEnd (c : Char)
  | badCharacter (c : Char)
  | notText
  deriving DecidableEq, Repr

namespace PathError

def message : PathError → String
  | badStart c => "segment started with invalid character: ('" ++ c.toString ++ "')"
  | badEnd c => "segment ended with invalid character: ('" ++ c.toString ++ "')"
  | badCharacter c => "segment contained invalid character ('" ++ c.toString ++ "')"
  | notText => "path is not a valid UTF-8 string after percent-decoding"

end PathError

namespace FilePath

def push (above : List (List Char)) (segment : List Char) :
    Except PathError (List (List Char)) :=
  if segment = ['.', '.'] then .ok above.dropLast
  else if segment.head? = some '.' then .error (.badStart '.')
  else if segment.head? = some '*' then .error (.badStart '*')
  else if segment.getLast? = some ':' then .error (.badEnd ':')
  else if segment.getLast? = some '>' then .error (.badEnd '>')
  else if segment.getLast? = some '<' then .error (.badEnd '<')
  else if segment = [] then .ok above
  else .ok (above ++ [segment])

def read (path : List Char) : Except PathError (List String) := do
  match Utf8.decode? (Percent.decode path) with
  | none => .error .notText
  | some decoded =>
    if decoded.count '/' ≠ path.count '/' then .error (.badCharacter '/')
    else return (← (Form.splitOn '/' decoded).foldlM push []).map .ofList

end FilePath

end ConsoleGateway
