import ConsoleGateway.Backend.Call
import ConsoleGateway.Model.Redirect
import ConsoleGateway.Session.Basic

namespace ConsoleGateway

inductive Flow (α : Type) : Type where
  | done (a : α)
  -- Changes the session and goes on with the changed one.
  | access (update : Session → Session) (next : Session → Flow α)
  | notify (notice : Notice) (next : Flow α)
  | ask (call : BackendCall) (next : call.Answer → Flow α)

namespace Flow

def bind : Flow α → (α → Flow β) → Flow β
  | done a, f => f a
  | access update next, f => access update fun s => (next s).bind f
  | notify n next, f => notify n (next.bind f)
  | ask c next, f => ask c fun answer => (next answer).bind f

instance : Monad Flow where
  pure := done
  bind := bind

def session : Flow Session := access id done

def update (f : Session → Session) : Flow Unit := access f fun _ => done ()

def post (n : Notice) : Flow Unit := notify n (done ())

def call (c : BackendCall) : Flow c.Answer := ask c done

def begin : Flow Token := access Session.begin fun s => done s.newest

/-- Asks who the caller is and remembers the answer. Any failure means that nobody is signed in,
and forgets the user. -/
def retrieveUser : Flow (Except GuardError CurrentUser) := do
  match ← call .currentUser with
  | .ok u =>
    update fun s => { s with user := some u }
    return .ok u
  | .error _ =>
    update fun s => { s with user := none }
    return .error .unauthenticated

def knownUser : Flow (Option CurrentUser) := do
  match (← session).user with
  | some u => return some u
  | none =>
    match ← retrieveUser with
    | .ok u => return some u
    | .error _ => return none

structure Result (α σ : Type) where
  value : α
  notices : List Notice
  session : Session
  backend : σ

/-- How calls are answered: the answer, and the session and the registry after it. -/
abbrev Handler (σ : Type) : Type := (c : BackendCall) → Session → σ → c.Answer × Session × σ

def run (handle : Handler σ) : Flow α → Session → σ → Result α σ
  | done a, s, b => ⟨a, [], s, b⟩
  | access f next, s, b => (next (f s)).run handle (f s) b
  | notify n next, s, b =>
    let r := next.run handle s b
    { r with notices := n :: r.notices }
  | ask c next, s, b =>
    let (answer, s, b) := handle c s b
    (next answer).run handle s b

end Flow

end ConsoleGateway
