import ConsoleGateway.Settings.Config
import ConsoleGateway.Settings.Tree
import ConsoleGateway.Text.Integer
import ConsoleGateway.Text.Quoted
import ConsoleGateway.Unicode.Lowercase

namespace ConsoleGateway.Settings

open Json

inductive Kind where
  | nothing
  | negative (z : Int)
  | string (s : String)
  | list
  | table
  deriving DecidableEq, Repr

def Kind.describe : Kind → String
  | nothing => "unit value"
  | negative z => "integer 64 bit `" ++ toString z ++ "`"
  | string s => "string " ++ Quoted.write s
  | list => "sequence"
  | table => "map"

inductive ConversionError where
  -- A setting cannot be converted to its type.
  | mismatch (kind : Kind) (expected : String) (key : Option String) (origin : Option String)
  -- Where a section belongs there is a single setting.
  | notASection (found title : String)
  deriving DecidableEq, Repr

namespace ConversionError

def message : ConversionError → String
  | mismatch kind expected key origin =>
    "invalid type: " ++ kind.describe ++ ", expected " ++ expected
      ++ ((key.map fun key => " for key `" ++ key ++ "`").getD "")
      ++ ((origin.map fun origin => " in " ++ origin).getD "")
  | notASection found title => "invalid type: " ++ found ++ ", expected struct " ++ title

def under (key : String) : ConversionError → ConversionError
  | mismatch kind expected inner origin =>
    let inner := inner.getD ""
    let joint := if inner = "" ∨ inner.toList.head? = some '[' then "" else "."
    mismatch kind expected (some (key ++ joint ++ inner)) origin
  | e => e

def atPosition (i : Nat) : ConversionError → ConversionError
  | mismatch kind expected inner origin =>
    mismatch kind expected (some ("[" ++ toString i ++ "]" ++ inner.getD "")) origin
  | e => e

end ConversionError

abbrev Conversion (α : Type) : Type := Tree → Except ConversionError α

def refuse (kind : Kind) (expected : String) (origin : Option String) : Except ConversionError α :=
  .error (.mismatch kind expected none origin)

def lowercase (s : String) : String := .ofList (Unicode.lowercase s.toList)

def wordValue? (s : String) : Option Nat :=
  let s := lowercase s
  if s = "true" ∨ s = "on" ∨ s = "yes" then some 1
  else if s = "false" ∨ s = "off" ∨ s = "no" then some 0
  else none

def boolean : Conversion Bool
  | .leaf _ (.boolean b) => .ok b
  | .leaf _ (.integer z) => .ok (z ≠ 0)
  | .leaf _ (.float f) => .ok (f != 0)
  | .leaf origin (.string s) =>
    let word := lowercase s
    if word = "1" then .ok true
    else if word = "0" then .ok false
    else match wordValue? s with
      | some n => .ok (n = 1)
      | none => refuse (.string word) "a boolean" origin
  | .leaf origin .absent => refuse .nothing "a boolean" origin
  | .list origin _ => refuse .list "a boolean" origin
  | .table origin _ => refuse .table "a boolean" origin

def roundToInt64 (f : Float) : Int64 := f.round.toInt64

def roundToUInt64 (f : Float) : UInt64 := f.round.toUInt64

def int64 : Conversion Int64
  | .leaf _ (.integer z) => .ok (.ofInt z)
  | .leaf _ (.boolean b) => .ok (if b then 1 else 0)
  | .leaf _ (.float f) => .ok (roundToInt64 f)
  | .leaf origin (.string s) =>
    match wordValue? s with
    | some n => .ok (.ofNat n)
    | none => match Integer.int64? s with
      | some z => .ok z
      | none => refuse (.string s) "an integer" origin
  | .leaf origin .absent => refuse .nothing "an integer" origin
  | .list origin _ => refuse .list "an integer" origin
  | .table origin _ => refuse .table "an integer" origin

def uint64 : Conversion UInt64
  | .leaf origin (.integer z) =>
    if z < 0 then refuse (.negative z) "an unsigned 64 bit or less integer" origin
    else .ok (.ofNat z.toNat)
  | .leaf _ (.boolean b) => .ok (if b then 1 else 0)
  | .leaf _ (.float f) => .ok (roundToUInt64 f)
  | .leaf origin (.string s) =>
    match wordValue? s with
    | some n => .ok (.ofNat n)
    | none => match Integer.uint64? s with
      | some n => .ok n
      | none => refuse (.string s) "an integer" origin
  | .leaf origin .absent => refuse .nothing "an integer" origin
  | .list origin _ => refuse .list "an integer" origin
  | .table origin _ => refuse .table "an integer" origin

def uint32 : Conversion UInt32 := fun t => (uint64 t).map fun n => n.toUInt32

def plainFormat : Decimal.Format := ⟨fun _ => true, false⟩

def string : Conversion String
  | .leaf _ (.string s) => .ok s
  | .leaf _ (.boolean b) => .ok (toString b)
  | .leaf _ (.integer z) => .ok (toString z)
  | .leaf _ (.float f) => .ok (plainFormat.write f)
  | .leaf origin .absent => refuse .nothing "a string" origin
  | .list origin _ => refuse .list "a string" origin
  | .table origin _ => refuse .table "a string" origin

def pointedFormat : Decimal.Format := ⟨fun _ => true, true⟩

def Leaf.describe : Leaf → String
  | absent => "unit value"
  | integer z => "integer `" ++ toString z ++ "`"
  | boolean b => "boolean `" ++ toString b ++ "`"
  | float f => "floating point `" ++ pointedFormat.write f ++ "`"
  | string s => "string " ++ Quoted.write s

inductive Section where
  | named (entries : List (String × Tree))
  | listed (items : List Tree)

namespace Section

def ofTree (title : String) : Conversion Section
  | .table _ entries => .ok (named entries)
  | .list _ items => .ok (listed items)
  | .leaf _ l => .error (.notASection l.describe title)

def get (s : Section) (position : Nat) (name : String) (convert : Conversion α) (default : α) :
    Except ConversionError α :=
  match s with
  | named entries =>
    match entries.lookup name with
    | none => .ok default
    | some t => (convert t).mapError (·.under name)
  | listed items =>
    match items[position]? with
    | none => .ok default
    | some t => (convert t).mapError (·.atPosition position)

end Section

def cacheConfig : Conversion CacheConfig := fun t => do
  let s ← Section.ofTree "CacheConfig" t
  let default : CacheConfig := {}
  return {
    maxAge := ← s.get 0 "max_age" uint32 default.maxAge
    immutable := ← s.get 1 "immutable" boolean default.immutable
    mustRevalidate := ← s.get 2 "must_revalidate" boolean default.mustRevalidate }

def backendConfig : Conversion BackendConfig := fun t => do
  let s ← Section.ofTree "BackendConfig" t
  let default : BackendConfig := {}
  return {
    baseUrl := ← s.get 0 "base_url" string default.baseUrl
    sessionCookie := ← s.get 1 "session_cookie" string default.sessionCookie
    timeoutSecs := ← s.get 2 "timeout_secs" uint64 default.timeoutSecs }

def routesConfig : Conversion RoutesConfig := fun t => do
  let s ← Section.ofTree "RoutesConfig" t
  let default : RoutesConfig := {}
  return { defaultLanding := ← s.get 0 "default_landing" string default.defaultLanding }

def sessionConfig : Conversion SessionConfig := fun t => do
  let s ← Section.ofTree "SessionConfig" t
  let default : SessionConfig := {}
  return {
    ttlSecs := ← s.get 0 "ttl_secs" int64 default.ttlSecs
    cleanupIntervalSecs := ← s.get 1 "cleanup_interval_secs" uint64 default.cleanupIntervalSecs }

def staticFilesConfig : Conversion StaticFilesConfig := fun t => do
  let s ← Section.ofTree "StaticFilesConfig" t
  let default : StaticFilesConfig := {}
  return {
    path := ← s.get 0 "path" string default.path
    index := ← s.get 1 "index" string default.index
    enableCompression := ← s.get 2 "enable_compression" boolean default.enableCompression
    cache := ← s.get 3 "cache" cacheConfig default.cache }

def config : Conversion Config := fun t => do
  let s ← Section.ofTree "Config" t
  let default : Config := {}
  return {
    serverAddr := ← s.get 0 "server_addr" string default.serverAddr
    logLevel := ← s.get 1 "log_level" string default.logLevel
    readOnly := ← s.get 2 "read_only" boolean default.readOnly
    backend := ← s.get 3 "backend" backendConfig default.backend
    routes := ← s.get 4 "routes" routesConfig default.routes
    session := ← s.get 5 "session" sessionConfig default.session
    staticFiles := ← s.get 6 "static_files" staticFilesConfig default.staticFiles }

end ConsoleGateway.Settings
