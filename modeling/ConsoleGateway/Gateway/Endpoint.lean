import ConsoleGateway.Text.Form

namespace ConsoleGateway

inductive Endpoint where
  | apiIndex
  | apiSession
  | apiNavigation
  -- Below `/api`, but nothing that exists.
  | apiNothing
  | consolePage
  | staticFile
  deriving DecidableEq, Repr

namespace Endpoint

def isKept (value : Nat) : Bool := value = 0x25 || value = 0x2F || value = 0x2B

def unescape : List UInt8 → List UInt8
  | [] => []
  | p :: h :: l :: rest =>
    if p = 0x25 then
      match Percent.hexValue? (.ofNat h.toNat), Percent.hexValue? (.ofNat l.toNat) with
      | some a, some b =>
        if isKept (16 * a + b) then p :: unescape (h :: l :: rest)
        else .ofNat (16 * a + b) :: unescape rest
      | _, _ => p :: unescape (h :: l :: rest)
    else p :: unescape (h :: l :: rest)
  | p :: rest => p :: unescape rest

def routingPath (path : List Char) : List Char :=
  Utf8.decodeLossy (unescape (Utf8.encode path))

def dropText? (text cs : List Char) : Option (List Char) :=
  if text.isPrefixOf cs then some (cs.drop text.length) else none

def isConsolePath (path : List Char) : Bool :=
  path = "/".toList || path = "/reset_password".toList || path = "/harbor".toList ||
    "/harbor/".toList.isPrefixOf path

def ofRoutingPath (path : List Char) : Endpoint :=
  match dropText? "/api".toList path with
  | some [] => .apiNothing
  | some ('/' :: rest) =>
    if rest = [] then .apiIndex
    else if rest = "session".toList then .apiSession
    else if rest = "navigation".toList then .apiNavigation
    else .apiNothing
  | _ => if isConsolePath path then .consolePage else .staticFile

def ofPath (path : List Char) : Endpoint := ofRoutingPath (routingPath path)

end Endpoint

end ConsoleGateway
