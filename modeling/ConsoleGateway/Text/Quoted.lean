import ConsoleGateway.Unicode.Printable

namespace ConsoleGateway.Quoted

def hexDigits (n : Nat) : List Char := Nat.toDigits 16 n

def writeChar (c : Char) : List Char :=
  if c = '"' then ['\\', '"']
  else if c = '\\' then ['\\', '\\']
  else if c = '\t' then ['\\', 't']
  else if c = '\n' then ['\\', 'n']
  else if c = '\r' then ['\\', 'r']
  else if c.toNat = 0 then ['\\', '0']
  else if Unicode.isPrintable c then [c]
  else ['\\', 'u', '{'] ++ hexDigits c.toNat ++ ['}']

def write (s : String) : String := .ofList ('"' :: s.toList.flatMap writeChar ++ ['"'])

end ConsoleGateway.Quoted
