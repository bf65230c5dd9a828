import ConsoleGateway.Url.Basic

namespace ConsoleGateway.Url

def escapedInFragment (c : Char) : Bool :=
  isControl c || [' ', '"', '<', '>', '\x60'].contains c

def escapedInPath (c : Char) : Bool :=
  escapedInFragment c || ['#', '?', '\x7b', '\x7d'].contains c

def escapedInUserinfo (c : Char) : Bool :=
  escapedInPath c || ['/', ':', ';', '=', '@', '[', '\\', ']', '^', '|'].contains c

def escapedInQuery (special : Bool) (c : Char) : Bool :=
  isControl c || [' ', '"', '#', '<', '>'].contains c || (special && c = '\'')

def isSlash (special : Bool) (c : Char) : Bool := c = '/' || (special && c = '\\')

/-- A text as it is read: without controls and spaces at its ends, tabs and line breaks. -/
def clean (cs : List Char) : List Char :=
  let drop (c : Char) : Bool := c.toNat ≤ 0x20
  (((cs.dropWhile drop).reverse.dropWhile drop).reverse).filter
    fun c => !(c = '\t' || c = '\n' || c = '\r')

def isLetter (c : Char) : Bool :=
  (65 ≤ c.toNat && c.toNat ≤ 90) || (97 ≤ c.toNat && c.toNat ≤ 122)

def smallLetter (c : Char) : Char :=
  if 65 ≤ c.toNat ∧ c.toNat ≤ 90 then .ofNat (c.toNat + 32) else c

def isSchemeChar (c : Char) : Bool :=
  isLetter c || isDigit c || c = '+' || c = '-' || c = '.'

def splitScheme? (cs : List Char) : Option (List Char × List Char) :=
  if (cs.head?.map isLetter).getD false then
    match cs.dropWhile isSchemeChar with
    | ':' :: rest => some ((cs.takeWhile isSchemeChar).map smallLetter, rest)
    | _ => none
  else none

def splitTail (cs : List Char) : List Char × Option (List Char) × Option (List Char) :=
  let beforeFragment := cs.takeWhile (· ≠ '#')
  let fragment := match cs.dropWhile (· ≠ '#') with
    | _ :: rest => some rest
    | [] => none
  match beforeFragment.dropWhile (· ≠ '?') with
  | _ :: query => (beforeFragment.takeWhile (· ≠ '?'), some query, fragment)
  | [] => (beforeFragment, none, fragment)

def splitSegments (special : Bool) : List Char → List (List Char)
  | [] => [[]]
  | c :: cs =>
    if isSlash special c then [] :: splitSegments special cs
    else match splitSegments special cs with
      | [] => [[c]]
      | segment :: segments => (c :: segment) :: segments

def isSingleDot (segment : List Char) : Bool :=
  segment = ['.'] || segment.map smallLetter = ['%', '2', 'e']

def isDoubleDot (segment : List Char) : Bool :=
  match segment.map smallLetter with
  | ['.', '.'] => true
  | ['.', '%', '2', 'e'] => true
  | ['%', '2', 'e', '.'] => true
  | ['%', '2', 'e', '%', '2', 'e'] => true
  | _ => false

def isDrive : List Char → Bool
  | [c, d] => isLetter c && (d = ':' || d = '|')
  | _ => false

def parent (file : Bool) : List (List Char) → List (List Char)
  | [] => []
  | [segment] => if file && isDrive segment then [segment] else []
  | _ :: above => above

def below (file : Bool) (above : List (List Char)) (segment : List Char) : List (List Char) :=
  if file && above = [] && isDrive segment then [segment.take 1 ++ [':']]
  else Percent.encode escapedInPath segment :: above

/-- Follows segments from a directory, given the lowest segment first. A path that ends in dots
ends in a slash. -/
def walk (file : Bool) (above : List (List Char)) : List (List Char) → List (List Char)
  | [] => above
  | [segment] =>
    if isDoubleDot segment then [] :: parent file above
    else if isSingleDot segment then [] :: above
    else below file above segment
  | segment :: segments =>
    if isDoubleDot segment then walk file (parent file above) segments
    else if isSingleDot segment then walk file above segments
    else walk file (below file above segment) segments

def fileSegments (segments : List (List Char)) : List (List Char) :=
  match segments.dropWhile (· = []) with
  | [] => [[]]
  | segments => segments

def resolvePath (scheme : List Char) (base : List (List Char)) (cs : List Char) : Path :=
  let file := scheme = fileScheme
  let segments := (walk file base.reverse (splitSegments (isSpecial scheme) cs)).reverse
  .segments (if file then fileSegments segments else segments)

def rootedPath (scheme : List Char) (cs : List Char) : Path :=
  match cs with
  | [] => if isSpecial scheme then .segments [[]] else .segments []
  | c :: rest =>
    resolvePath scheme [] (if isSlash (isSpecial scheme) c then rest else cs)

def withTail (url : Url) (query fragment : Option (List Char)) : Url :=
  { url with
    query := query.map (Percent.encode (escapedInQuery (isSpecial url.scheme)))
    fragment := fragment.map (Percent.encode escapedInFragment) }

def splitUserinfo (cs : List Char) : Option (List Char) × List Char :=
  if cs.contains '@' then
    let back := cs.reverse
    (some ((back.dropWhile (· ≠ '@')).drop 1).reverse, (back.takeWhile (· ≠ '@')).reverse)
  else (none, cs)

def hostLength : Bool → List Char → Nat
  | _, [] => 0
  | inside, c :: cs =>
    if c = ':' && !inside then 0
    else hostLength (if c = '[' then true else if c = ']' then false else inside) cs + 1

def parsePort (scheme : List Char) (cs : List Char) : Except Error (Option Nat) :=
  if !cs.all isDigit ∨ 65535 < readBase 10 cs then .error .invalidPort
  else if cs = [] ∨ defaultPort? scheme = some (readBase 10 cs) then .ok none
  else .ok (some (readBase 10 cs))

def parseAuthority (scheme : List Char) (cs : List Char) : Except Error Url := do
  let special := isSpecial scheme
  let (beforeTail, query, fragment) := splitTail cs
  let ends (c : Char) : Bool := isSlash special c
  let authority := beforeTail.takeWhile (!ends ·)
  let path := beforeTail.dropWhile (!ends ·)
  let (userinfo, hostPort) := splitUserinfo authority
  if userinfo = some [] ∧ hostPort = [] ∧ (path ≠ [] ∨ query.isSome ∨ fragment.isSome) then
    .error .emptyHost
  else
    let userinfo := userinfo.getD []
    let username := Percent.encode escapedInUserinfo (userinfo.takeWhile (· ≠ ':'))
    let password := Percent.encode escapedInUserinfo ((userinfo.dropWhile (· ≠ ':')).drop 1)
    let hostText := hostPort.take (hostLength false hostPort)
    let rest := hostPort.drop (hostLength false hostPort)
    if hostText = [] ∧ (special ∨ rest ≠ [] ) then .error .emptyHost
    else
      let host ← if special then parseHost hostText else parseOpaqueHost hostText
      let port ← parsePort scheme (rest.drop 1)
      if hostText = [] ∧ (username ≠ [] ∨ password ≠ []) then .error .emptyHost
      else
        let url : Url :=
          ⟨scheme, username, password, some host, port, rootedPath scheme path, none, none⟩
        return url.withTail query fragment

def parseFileHost (cs : List Char) : Except Error (Option Host) :=
  if cs = [] then .ok none
  else do
    let host ← parseHost cs
    if host = .domain ['l', 'o', 'c', 'a', 'l', 'h', 'o', 's', 't'] then return none
    else return some host

def baseDirectory (base : Option Url) : List (List Char) :=
  match base with
  | some ⟨_, _, _, _, _, .segments list, _, _⟩ => list.dropLast
  | _ => []

def parseFile (base : Option Url) (cs : List Char) : Except Error Url := do
  let (beforeTail, query, fragment) := splitTail cs
  let file (host : Option Host) (path : Path) : Url :=
    ⟨fileScheme, [], [], some (host.getD (.domain [])), none, path, none, none⟩
  match beforeTail with
  | a :: b :: rest =>
    if isSlash true a && isSlash true b then
      let hostText := rest.takeWhile (!isSlash true ·)
      if isDrive hostText then
        return (file none (resolvePath fileScheme [] rest)).withTail query fragment
      else
        let host ← parseFileHost hostText
        let path := rootedPath fileScheme (rest.dropWhile (!isSlash true ·))
        match path with
        | .segments (first :: _) =>
          return (file (if isDrive first then none else host) path).withTail query fragment
        | path => return (file host path).withTail query fragment
    else if isSlash true a then
      return (file (base.bind (·.host)) (resolvePath fileScheme [] (b :: rest))).withTail
        query fragment
    else
      return (file (base.bind (·.host))
        (resolvePath fileScheme (baseDirectory base) beforeTail)).withTail query fragment
  | [a] =>
    if isSlash true a then
      return (file (base.bind (·.host)) (.segments [[]])).withTail query fragment
    else
      return (file (base.bind (·.host))
        (resolvePath fileScheme (baseDirectory base) [a])).withTail query fragment
  | [] =>
    match base with
    | none => return (file none (.segments [[]])).withTail query fragment
    | some base =>
      if query.isSome then return base.withTail query fragment
      else return { base with fragment := fragment.map (Percent.encode escapedInFragment) }

def parseRelative (base : Url) (cs : List Char) : Except Error Url :=
  let special := isSpecial base.scheme
  match cs with
  | '/' :: '/' :: rest => parseAuthority base.scheme rest
  | cs =>
    if special && 2 ≤ (cs.takeWhile (isSlash true)).length then
      parseAuthority base.scheme (cs.dropWhile (isSlash true))
    else
      let (beforeTail, query, fragment) := splitTail cs
      match beforeTail with
      | [] =>
        if query.isSome then .ok (base.withTail query fragment)
        else .ok { base with fragment := fragment.map (Percent.encode escapedInFragment) }
      | c :: rest =>
        let path :=
          if isSlash special c then resolvePath base.scheme [] rest
          else resolvePath base.scheme (baseDirectory (some base)) beforeTail
        .ok ({ base with path := path }.withTail query fragment)

def parseWithoutScheme (base : Option Url) (cs : List Char) : Except Error Url :=
  match base with
  | none => .error .relativeWithoutBase
  | some base =>
    match cs with
    | '#' :: fragment =>
      .ok { base with fragment := some (Percent.encode escapedInFragment fragment) }
    | cs =>
      match base.path with
      | .opaquePath _ => .error .relativeWithOpaqueBase
      | .segments _ =>
        if base.scheme = fileScheme then parseFile (some base) cs else parseRelative base cs

def parseAfterScheme (base : Option Url) (scheme : List Char) (cs : List Char) :
    Except Error Url :=
  if scheme = fileScheme then
    parseFile (base.filter (·.scheme = fileScheme)) cs
  else if isSpecial scheme then
    match base with
    | some base =>
      if (cs.takeWhile (isSlash true)).length < 2 ∧ base.scheme = scheme then
        parseRelative base cs
      else parseAuthority scheme (cs.dropWhile (isSlash true))
    | none => parseAuthority scheme (cs.dropWhile (isSlash true))
  else
    match cs with
    | '/' :: '/' :: rest => parseAuthority scheme rest
    | '/' :: rest =>
      let (beforeTail, query, fragment) := splitTail rest
      let url : Url :=
        ⟨scheme, [], [], none, none, resolvePath scheme [] beforeTail, none, none⟩
      .ok (url.withTail query fragment)
    | cs =>
      let (beforeTail, query, fragment) := splitTail cs
      let url : Url :=
        ⟨scheme, [], [], none, none, .opaquePath (Percent.encode isControl beforeTail), none, none⟩
      .ok (url.withTail query fragment)

def parse (base : Option Url) (cs : List Char) : Except Error Url :=
  let cs := clean cs
  match splitScheme? cs with
  | some (scheme, rest) => parseAfterScheme base scheme rest
  | none => parseWithoutScheme base cs

end ConsoleGateway.Url
