import ConsoleGateway.Decode.Record
import ConsoleGateway.Json.Value
import ConsoleGateway.Text.Form

namespace ConsoleGateway

open Decode Json

structure Redirect where
  path : String
  query : List (String × String)
  deriving DecidableEq, Repr

inductive Decision where
  | allow
  | denyRedirect (redirect : Redirect)
  deriving DecidableEq, Repr

inductive Notice where
  | clearMessages
  | closeSearch
  | readOnly
  deriving DecidableEq, Repr

namespace Redirect

def ofPath (path : String) : Redirect := ⟨path, []⟩

def queryValue (r : Redirect) (key : String) : Option String := r.query.lookup key

def location (r : Redirect) : String :=
  if r.query = [] then r.path
  else r.path ++ "?" ++ .ofList (Form.write (r.query.map fun (k, v) => (k.toList, v.toList)))

def toJson (r : Redirect) : Value :=
  .object [("path", .string r.path),
    ("query", .array (r.query.map fun (k, v) => .array [.string k, .string v]))]

def queryReader : Reader (List (String × String)) := list (pair string string)

def fields : Fields [String, List (String × String)] :=
  .cons (.required "path" [] string) <| .cons (.required "query" [] queryReader) .nil

def reader : Reader Redirect :=
  (record "Redirect" fields).map fun (path, query, ()) => ⟨path, query⟩

end Redirect

namespace Decision

def isAllowed : Decision → Bool
  | .allow => true
  | .denyRedirect _ => false

def toJson : Decision → Value
  | .allow => .object [("decision", .string "allow")]
  | .denyRedirect r => .object [("decision", .string "deny_redirect"), ("redirect", r.toJson)]

inductive Kind where
  | allow
  | denyRedirect
  deriving DecidableEq, Repr

def kindReader : Reader Kind := word [("allow", .allow), ("deny_redirect", .denyRedirect)]

def contentReader : Kind → Reader Decision
  | .allow => (unit "unit variant Decision::Allow").map fun _ => .allow
  | .denyRedirect => Redirect.reader.map .denyRedirect

inductive Partial where
  | nothing
  | kept (content : Doc)
  | named (kind : Kind)
  | complete (d : Decision)

def collect (ctx : Context) : List (Doc × Doc) → Partial → Except Decode.Error Partial
  | [], state => .ok state
  | (key, d) :: members, state =>
    match text? key, state with
    | none, _ => .error .malformed
    | some "decision", .nothing => do collect ctx members (.named (← kindReader ctx d))
    | some "decision", .kept content => do
      let kind ← kindReader ctx d
      collect ctx members (.complete (← contentReader kind ctx.kept content))
    | some "decision", _ => .error (.duplicate "decision")
    | some "redirect", .nothing => do
      buffer ctx d
      collect ctx members (.kept d)
    | some "redirect", .named kind => do
      collect ctx members (.complete (← contentReader kind ctx d))
    | some "redirect", _ => .error (.duplicate "redirect")
    | some _, state => if skippable d then collect ctx members state else .error .malformed

def finish : Partial → Except Decode.Error Decision
  | .complete d => .ok d
  | .named .allow => .ok .allow
  | .named .denyRedirect => .error (.missing "redirect")
  | .nothing => .error (.missing "decision")
  | .kept _ => .error (.missing "decision")

def title : String := "adjacently tagged enum Decision"

def reader : Reader Decision := fun ctx d =>
  match d with
  | .object members closed => do
    let inner ← ctx.enter
    let state ← collect inner members .nothing
    if closed then finish state else .error .malformed
  | .array items closed => do
    let inner ← ctx.enter
    let short (n : Nat) : Decode.Error := if closed then .wrongLength n title else .malformed
    match items with
    | [] => .error (short 0)
    | [kind] =>
      let _ ← kindReader inner kind
      .error (short 1)
    | kind :: content :: rest =>
      let kind ← kindReader inner kind
      let value ← contentReader kind inner content
      if rest ≠ [] then .error (ctx.surplus items.length 2)
      else if closed then return value
      else .error .malformed
  | d => .error (mismatch d title)

end Decision

namespace Notice

def named : List (String × Notice) :=
  [("clear_messages", .clearMessages), ("close_search", .closeSearch), ("read_only", .readOnly)]

def toJson : Notice → Value
  | .clearMessages => .string "clear_messages"
  | .closeSearch => .string "close_search"
  | .readOnly => .string "read_only"

def reader : Reader Notice := word named

end Notice

end ConsoleGateway
