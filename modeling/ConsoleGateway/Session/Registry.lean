import ConsoleGateway.Digest.Sha256
import ConsoleGateway.Settings.Config
import ConsoleGateway.Session.Basic

namespace ConsoleGateway

def fingerprint (cookie : String) : String := Sha256.hexDigest cookie

structure ContextId where
  number : Nat
  deriving DecidableEq, Repr

structure Context where
  -- The cookie that calls for this session carry.
  cookie : Option String
  session : Session := {}
  -- When the browser was last seen, in seconds.
  lastActive : Int
  deriving DecidableEq, Repr

namespace Context

/-- Whether a context has been idle for longer than the time to live. -/
def isExpired (ctx : Context) (ttl : Int64) (now : Int) : Bool := ttl.toInt < now - ctx.lastActive

end Context

structure SessionMetrics where
  total : Nat
  authenticated : Nat
  expired : Nat
  deriving DecidableEq, Repr

structure SessionRegistry where
  -- How many seconds a context may be idle.
  ttl : Int64
  -- Every context that was ever made, by its number.
  contexts : List Context := []
  -- The contexts that can be found, by the key of their cookie.
  entries : List (String × ContextId) := []
  -- How many contexts have been swept away.
  expiredCount : Nat := 0
  deriving DecidableEq, Repr

namespace SessionRegistry

def ofConfig (config : SessionConfig) : SessionRegistry := { ttl := config.ttlSecs }

def context? (r : SessionRegistry) (id : ContextId) : Option Context := r.contexts[id.number]?

def session (r : SessionRegistry) (id : ContextId) : Session :=
  ((r.context? id).map (·.session)).getD {}

def modify (r : SessionRegistry) (id : ContextId) (f : Context → Context) : SessionRegistry :=
  { r with contexts := r.contexts.modify id.number f }

def setSession (r : SessionRegistry) (id : ContextId) (s : Session) : SessionRegistry :=
  r.modify id fun ctx => { ctx with session := s }

def create (r : SessionRegistry) (now : Int) (cookie : Option String) :
    ContextId × SessionRegistry :=
  (⟨r.contexts.length⟩, { r with contexts := r.contexts ++ [{ cookie, lastActive := now }] })

def register (r : SessionRegistry) (now : Int) (cookie : String) : ContextId × SessionRegistry :=
  let key := fingerprint cookie
  let (id, r) := r.create now (some cookie)
  (id, { r with entries := (key, id) :: r.entries.filter (·.1 ≠ key) })

def find? (r : SessionRegistry) (cookie : String) : Option ContextId :=
  r.entries.lookup (fingerprint cookie)

def isExpired (r : SessionRegistry) (now : Int) (id : ContextId) : Bool :=
  ((r.context? id).map (·.isExpired r.ttl now)).getD true

/-- The context of a browser. Without a cookie it is a new one for this once; with a cookie it is
the one registered, or a newly registered one when there is none or it has expired. -/
def contextFor (r : SessionRegistry) (now : Int) (cookie : Option String) :
    ContextId × SessionRegistry :=
  match cookie with
  | none => r.create now none
  | some value =>
    if value = "" then r.create now none
    else match r.find? value with
      | some id =>
        if r.isExpired now id then r.register now value
        else (id, r.modify id fun ctx => { ctx with lastActive := now })
      | none => r.register now value

def invalidate (r : SessionRegistry) (cookie : String) : Bool × SessionRegistry :=
  match r.find? cookie with
  | some id =>
    let r := r.modify id fun ctx => { ctx with session := ctx.session.clear }
    (true, { r with entries := r.entries.filter (·.1 ≠ fingerprint cookie) })
  | none => (false, r)

def cleanupExpired (r : SessionRegistry) (now : Int) : Nat × SessionRegistry :=
  let kept := r.entries.filter fun (_, id) => !r.isExpired now id
  let count := r.entries.length - kept.length
  (count, { r with entries := kept, expiredCount := r.expiredCount + count })

def metrics (r : SessionRegistry) : SessionMetrics :=
  { total := r.entries.length
    authenticated := r.entries.countP fun (_, id) => (r.session id).user.isSome
    expired := r.expiredCount }

end SessionRegistry

structure Sweeper where
  interval : Nat
  -- The seconds since its last run, once it has run.
  elapsed : Option Nat := none
  deriving DecidableEq, Repr

namespace Sweeper

def ofConfig (config : SessionConfig) : Sweeper :=
  { interval := max config.cleanupIntervalSecs.toNat 1 }

def advance (w : Sweeper) (secs : Nat) : Nat × Sweeper :=
  match w.elapsed with
  | none => (1, { w with elapsed := some 0 })
  | some elapsed =>
    ((elapsed + secs) / w.interval, { w with elapsed := some ((elapsed + secs) % w.interval) })

end Sweeper

namespace SessionRegistry

def sweep (r : SessionRegistry) (now : Int) (runs : Nat) : SessionRegistry :=
  if runs = 0 then r else (r.cleanupExpired now).2

end SessionRegistry

end ConsoleGateway
