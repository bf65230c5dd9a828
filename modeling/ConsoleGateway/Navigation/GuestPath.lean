import ConsoleGateway.Unicode.Digit

namespace ConsoleGateway

def foldToAscii (c : Char) : Char :=
  if 65 ≤ c.toNat ∧ c.toNat ≤ 90 then .ofNat (c.toNat + 32)
  else if c.toNat = 0x17F then 's'
  else if c.toNat = 0x212A then 'k'
  else c

def dropWord? : List Char → List Char → Option (List Char)
  | [], cs => some cs
  | _ :: _, [] => none
  | w :: ws, c :: cs => if foldToAscii c = w then dropWord? ws cs else none

def guestWords : List (List Char) := ["/harbor/projects/".toList, "/harbor/tags/".toList]

def startsNumbered (cs : List Char) : Bool :=
  cs.takeWhile Unicode.isDecimalDigit ≠ [] &&
    match cs.dropWhile Unicode.isDecimalDigit with
    | '/' :: c :: _ => c ≠ '\n'
    | _ => false

def startsGuestPath (cs : List Char) : Bool :=
  guestWords.any fun word => ((dropWord? word cs).map startsNumbered).getD false

def holdsGuestPath : List Char → Bool
  | [] => false
  | c :: cs => startsGuestPath (c :: cs) || holdsGuestPath cs

def isGuestPath (url : String) : Bool := holdsGuestPath url.toList

end ConsoleGateway
