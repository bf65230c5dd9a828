import ConsoleGateway.Json.Token

namespace ConsoleGateway.Json

inductive Doc where
  | null
  | bool (b : Bool)
  | number (l : Literal)
  | string (ps : List Piece)
  | array (items : List Doc) (closed : Bool)
  | object (members : List (Doc × Doc)) (closed : Bool)
  | broken
  deriving Repr

inductive Frame where
  | items (done : List Doc)
  | members (done : List (Doc × Doc)) (key : Option Doc)

inductive Awaiting where
  | value
  | valueOrClose
  | key
  | keyOrClose
  | colon
  | commaOrClose

/-- Ends all open lists where the text breaks off; `inner` is the list that was open inside. -/
def breakOff (inner : Option Doc) : List Frame → Doc
  | [] => inner.getD .broken
  | .items done :: frames =>
    breakOff (some (.array (done.reverse ++ inner.toList) false)) frames
  | .members done (some key) :: frames =>
    breakOff (some (.object (done.reverse ++ [(key, inner.getD .broken)]) false)) frames
  | .members done none :: frames => breakOff (some (.object done.reverse false)) frames

def Token.scalar? : Token → Option Doc
  | .null => some .null
  | .bool b => some (.bool b)
  | .number l => some (.number l)
  | .string ps => some (.string ps)
  | _ => none

inductive Step where
  | next (frames : List Frame) (awaiting : Awaiting)
  | whole (d : Doc)
  | stop (d : Doc)

def place (d : Doc) : List Frame → Step
  | [] => .whole d
  | .items done :: frames => .next (.items (d :: done) :: frames) .commaOrClose
  | .members done (some key) :: frames =>
    .next (.members ((key, d) :: done) none :: frames) .commaOrClose
  | .members done none :: frames => .next (.members done none :: frames) .commaOrClose

def startValue (t : Token) (frames : List Frame) : Step :=
  match t with
  | .openBracket => .next (.items [] :: frames) .valueOrClose
  | .openBrace => .next (.members [] none :: frames) .keyOrClose
  | t =>
    match t.scalar? with
    | some d => place d frames
    | none => .stop (breakOff none frames)

/-- A token where a key must stand. Only a string is one; anything else is kept as the key of a
member that breaks off. -/
def startKey (t : Token) (frames : List Frame) : Step :=
  match frames with
  | .members done _ :: frames =>
    match t with
    | .string ps => .next (.members done (some (.string ps)) :: frames) .colon
    | t =>
      let key : Doc := match t with
        | .openBracket => .array [] false
        | .openBrace => .object [] false
        | t => t.scalar?.getD .broken
      .stop (breakOff none (.members done (some key) :: frames))
  | frames => .stop (breakOff none frames)

def close (t : Token) (frames : List Frame) : Step :=
  match t, frames with
  | .closeBracket, .items done :: frames => place (.array done.reverse true) frames
  | .closeBrace, .members done none :: frames => place (.object done.reverse true) frames
  | _, frames => .stop (breakOff none frames)

def step (t : Token) (frames : List Frame) : Awaiting → Step
  | .value => startValue t frames
  | .valueOrClose => if t = .closeBracket then close t frames else startValue t frames
  | .key => startKey t frames
  | .keyOrClose => if t = .closeBrace then close t frames else startKey t frames
  | .colon =>
    if t = .colon then .next frames .value else .stop (breakOff none frames)
  | .commaOrClose =>
    if t = .comma then
      match frames with
      | .members _ _ :: _ => .next frames .key
      | frames => .next frames .value
    else close t frames

structure Reading where
  doc : Doc
  clean : Bool
  deriving Repr

def build : List Token → List Frame → Awaiting → Reading
  | [], frames, _ => ⟨breakOff none frames, false⟩
  | t :: tokens, frames, awaiting =>
    match step t frames awaiting with
    | .next frames awaiting => build tokens frames awaiting
    | .whole d => ⟨d, tokens.isEmpty⟩
    | .stop d => ⟨d, false⟩

def Doc.ofInput (cs : Input) : Reading := build (lex cs) [] .value

def Doc.ofText (cs : List Char) : Reading := ofInput (cs.map some)

end ConsoleGateway.Json
