import ConsoleGateway.Text.Percent

namespace ConsoleGateway.Form

def isPlain (b : UInt8) : Bool :=
  let n := b.toNat
  (48 ≤ n && n ≤ 57) || (65 ≤ n && n ≤ 90) || (97 ≤ n && n ≤ 122)
    || n == 42 || n == 45 || n == 46 || n == 95

def writeByte (b : UInt8) : List Char :=
  if isPlain b then [.ofNat b.toNat] else if b = 0x20 then ['+'] else Percent.escape b

def writePart (cs : List Char) : List Char := (Utf8.encode cs).flatMap writeByte

def writePair (pair : List Char × List Char) : List Char :=
  writePart pair.1 ++ '=' :: writePart pair.2

def write : List (List Char × List Char) → List Char
  | [] => []
  | [pair] => writePair pair
  | pair :: pairs => writePair pair ++ '&' :: write pairs

def splitOn (sep : Char) : List Char → List (List Char)
  | [] => [[]]
  | c :: cs =>
    if c = sep then [] :: splitOn sep cs
    else match splitOn sep cs with
      | [] => [[c]]
      | piece :: pieces => (c :: piece) :: pieces

def readPart (cs : List Char) : List Char :=
  Utf8.decodeLossy (Percent.decode (cs.map fun c => if c = '+' then ' ' else c))

def readPair (cs : List Char) : List Char × List Char :=
  (readPart (cs.takeWhile (· ≠ '=')), readPart ((cs.dropWhile (· ≠ '=')).drop 1))

def read (cs : List Char) : List (List Char × List Char) :=
  ((splitOn '&' cs).filter (· ≠ [])).map readPair

end ConsoleGateway.Form
