import ConsoleGateway.Decode.Error
import ConsoleGateway.Json.Doc
import ConsoleGateway.Text.Utf8
import ConsoleGateway.Unicode.Blank
import ConsoleGateway.Unicode.Lowercase

namespace ConsoleGateway.Decode

open Json

/-- Where the tree that is being read comes from. It decides how items beyond those expected are
reported: in a text they stand where the list should close, elsewhere the list has a wrong
length. -/
inductive Source where
  | text
  | value
  | buffer
  deriving DecidableEq, Repr

structure Context where
  source : Source
  -- How many more lists may be entered.
  depth : Nat
  deriving DecidableEq, Repr

def Context.text : Context := ⟨.text, 127⟩

def Context.value : Context := ⟨.value, 127⟩

abbrev Reader (α : Type) := Context → Doc → Except Error α

def Context.enter (ctx : Context) : Except Error Context :=
  match ctx.source, ctx.depth with
  | .text, 0 => .error .malformed
  | .text, depth + 1 => .ok ⟨.text, depth⟩
  | _, _ => .ok ctx

def Context.surplus (ctx : Context) (length wanted : Nat) : Error :=
  match ctx.source with
  | .text => .malformed
  | .value => .wrongLength length "fewer elements in array"
  | .buffer =>
    .wrongLength length
      (toString wanted ++ if wanted = 1 then " element in sequence" else " elements in sequence")

def text? : Doc → Option String
  | .string ps => (joinPieces ps).map .ofList
  | _ => none

def found? : Doc → Option Found
  | .null => some .null
  | .bool b => some (.bool b)
  | .number l =>
    match l.value? with
    | some (.natural n) => some (.integer n)
    | some (.negative z) => some (.integer z)
    | some (.floating f) => some (.double (doubleFormat.write f))
    | none => none
  | .string ps => (joinPieces ps).map fun cs => .string (.ofList cs)
  | .array _ _ => some .sequence
  | .object _ _ => some .map
  | .broken => none

def mismatch (d : Doc) (expected : String) : Error :=
  match found? d with
  | some found => .wrongType found expected
  | none => .malformed

mutual

def skippable : Doc → Bool
  | .array items closed => skippableItems items && closed
  | .object members closed => skippableMembers members && closed
  | .broken => false
  | _ => true

def skippableItems : List Doc → Bool
  | [] => true
  | d :: ds => skippable d && skippableItems ds

def skippableMembers : List (Doc × Doc) → Bool
  | [] => true
  | (_, d) :: ms => skippable d && skippableMembers ms

end

mutual

def readable : Nat → Doc → Bool
  | 0, .array _ _ => false
  | 0, .object _ _ => false
  | depth + 1, .array items closed => readableItems depth items && closed
  | depth + 1, .object members closed => readableMembers depth members && closed
  | _, d => (found? d).isSome

def readableItems : Nat → List Doc → Bool
  | _, [] => true
  | depth, d :: ds => readable depth d && readableItems depth ds

def readableMembers : Nat → List (Doc × Doc) → Bool
  | _, [] => true
  | depth, (k, d) :: ms => (text? k).isSome && readable depth d && readableMembers depth ms

end

def buffer (ctx : Context) (d : Doc) : Except Error Unit :=
  if ctx.source = .text ∧ !readable ctx.depth d then .error .malformed else .ok ()

def Context.kept (ctx : Context) : Context :=
  { ctx with source := if ctx.source = .text then .buffer else ctx.source }

def Reader.map (f : α → β) (r : Reader α) : Reader β := fun ctx d => (r ctx d).map f

def int64 : Reader Int64 := fun _ d =>
  match d with
  | .number l =>
    match l.value? with
    | some (.natural n) =>
      if Integer.fitsInt64 n then .ok (.ofInt n) else .error (.wrongValue (.integer n) "i64")
    | some (.negative z) => .ok (.ofInt z)
    | _ => .error (mismatch d "i64")
  | d => .error (mismatch d "i64")

def natural (expected : String) (bound : Nat) : Reader Nat := fun _ d =>
  match d with
  | .number l =>
    match l.value? with
    | some (.natural n) =>
      if n < bound then .ok n else .error (.wrongValue (.integer n) expected)
    | some (.negative z) => .error (.wrongValue (.integer z) expected)
    | _ => .error (mismatch d expected)
  | d => .error (mismatch d expected)

def uint64 : Reader UInt64 := (natural "u64" UInt64.size).map .ofNat

def uint32 : Reader UInt32 := (natural "u32" UInt32.size).map .ofNat

def bool : Reader Bool := fun _ d =>
  match d with
  | .bool b => .ok b
  | d => .error (mismatch d "a boolean")

def string : Reader String := fun _ d =>
  match text? d with
  | some s => .ok s
  | none => .error (mismatch d "a string")

def unit (expected : String) : Reader Unit := fun _ d =>
  match d with
  | .null => .ok ()
  | d => .error (mismatch d expected)

def optional (r : Reader α) : Reader (Option α) := fun ctx d =>
  match d with
  | .null => .ok none
  | d => (r ctx d).map some

def list (r : Reader α) : Reader (List α) := fun ctx d =>
  match d with
  | .array items closed => do
    let inner ← ctx.enter
    let values ← items.mapM (r inner)
    if closed then return values else .error .malformed
  | d => .error (mismatch d "a sequence")

def pair (r : Reader α) (s : Reader β) : Reader (α × β) := fun ctx d =>
  match d with
  | .array items closed => do
    let inner ← ctx.enter
    let short (n : Nat) : Error :=
      if closed then .wrongLength n "a tuple of size 2" else .malformed
    match items with
    | [] => .error (short 0)
    | [a] =>
      let _ ← r inner a
      .error (short 1)
    | a :: b :: rest =>
      let a ← r inner a
      let b ← s inner b
      if rest ≠ [] then .error (ctx.surplus items.length 2)
      else if closed then return (a, b)
      else .error .malformed
  | d => .error (mismatch d "a tuple of size 2")

def flagOfText (s : String) : Except Error Bool :=
  let word := String.ofList (Unicode.lowercase (Unicode.trim s.toList))
  if word = "true" ∨ word = "1" then .ok true
  else if word = "false" ∨ word = "0" ∨ word = "" then .ok false
  else .error (.badFlag word)

/-- Reads a flag: `true` or `false`, an integer of 64 bits of which only 1 is set, or a word. -/
def flag : Reader Bool := fun ctx d => do
  buffer ctx d
  match found? d with
  | some (.bool b) => return b
  | some (.integer z) => if Integer.fitsInt64 z then return z = 1 else .error .notAFlag
  | some (.string s) => flagOfText s
  | _ => .error .notAFlag

def variant (read : String → Option (Reader α)) (alone : String → Except Error α)
    (known : List String) : Reader α := fun ctx d =>
  match d with
  | .string _ =>
    match text? d with
    | none => .error .malformed
    | some name =>
      match read name with
      | none => .error (.unknownVariant name known)
      | some _ => alone name
  | .object [] _ => .error .malformed
  | .object ((key, payload) :: rest) closed => do
    let inner ← ctx.enter
    match text? key with
    | none => .error (mismatch key "variant identifier")
    | some name =>
      match read name with
      | none => .error (.unknownVariant name known)
      | some r =>
        let value ← r inner payload
        if rest = [] ∧ closed then return value else .error .malformed
  | _ => .error .malformed

def word (values : List (String × α)) : Reader α :=
  variant
    (fun name => (values.lookup name).map fun a => (unit "unit").map fun _ => a)
    (fun name => match values.lookup name with
      | some a => .ok a
      | none => .error (.unknownVariant name (values.map (·.1))))
    (values.map (·.1))

def ofReading (r : Reader α) (reading : Reading) : Except Error α := do
  let value ← r .text reading.doc
  if reading.clean then return value else .error .malformed

def ofText (r : Reader α) (s : String) : Except Error α := ofReading r (Doc.ofText s.toList)

def ofBytes (r : Reader α) (bs : List UInt8) : Except Error α :=
  ofReading r (Doc.ofInput (Utf8.read bs))

end ConsoleGateway.Decode
