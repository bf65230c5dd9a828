namespace ConsoleGateway.Json

inductive Value where
  | null
  | bool (b : Bool)
  | int (z : Int)
  | string (s : String)
  | array (items : List Value)
  | object (members : List (String × Value))
  deriving Repr

def lowerHexDigit (n : Nat) : Char := if n < 10 then .ofNat (48 + n) else .ofNat (87 + n)

def escapeChar (c : Char) : List Char :=
  if c = '"' then ['\\', '"']
  else if c = '\\' then ['\\', '\\']
  else if c = '\x08' then ['\\', 'b']
  else if c = '\x0C' then ['\\', 'f']
  else if c = '\n' then ['\\', 'n']
  else if c = '\r' then ['\\', 'r']
  else if c = '\t' then ['\\', 't']
  else if c.toNat < 0x20 then
    ['\\', 'u', '0', '0', lowerHexDigit (c.toNat / 16), lowerHexDigit (c.toNat % 16)]
  else [c]

def quote (s : String) : List Char := '"' :: s.toList.flatMap escapeChar ++ ['"']

mutual

def Value.chars : Value → List Char
  | .null => ['n', 'u', 'l', 'l']
  | .bool true => ['t', 'r', 'u', 'e']
  | .bool false => ['f', 'a', 'l', 's', 'e']
  | .int z => (toString z).toList
  | .string s => quote s
  | .array items => '[' :: Value.itemChars items ++ [']']
  | .object members => '{' :: Value.memberChars members ++ ['}']

def Value.itemChars : List Value → List Char
  | [] => []
  | [v] => v.chars
  | v :: w :: vs => v.chars ++ ',' :: Value.itemChars (w :: vs)

def Value.memberChars : List (String × Value) → List Char
  | [] => []
  | [(k, v)] => quote k ++ ':' :: v.chars
  | (k, v) :: m :: ms => quote k ++ ':' :: v.chars ++ ',' :: Value.memberChars (m :: ms)

end

def Value.render (v : Value) : String := .ofList v.chars

def Value.ofOption (f : α → Value) : Option α → Value
  | none => .null
  | some a => f a

end ConsoleGateway.Json
