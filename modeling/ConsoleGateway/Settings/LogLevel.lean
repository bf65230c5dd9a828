import ConsoleGateway.Text.Integer

namespace ConsoleGateway

inductive LogLevel where
  | error
  | warn
  | info
  | debug
  | trace
  deriving DecidableEq, Repr

namespace LogLevel

def named : List (String × LogLevel) :=
  [("error", .error), ("warn", .warn), ("info", .info), ("debug", .debug), ("trace", .trace)]

def name : LogLevel → String
  | error => "error"
  | warn => "warn"
  | info => "info"
  | debug => "debug"
  | trace => "trace"

def smallLetter (c : Char) : Char :=
  if 65 ≤ c.toNat ∧ c.toNat ≤ 90 then .ofNat (c.toNat + 32) else c

def ofNumber? (n : Nat) : Option LogLevel :=
  if n = 0 then none else (named[n - 1]?).map (·.2)

def ofText (s : String) : LogLevel :=
  match (Integer.natural? s.toList).bind ofNumber? with
  | some level => level
  | none => (named.lookup (String.ofList (s.toList.map smallLetter))).getD .info

end LogLevel

end ConsoleGateway
