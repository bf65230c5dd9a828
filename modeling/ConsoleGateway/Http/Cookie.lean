import ConsoleGateway.Text.Form
import ConsoleGateway.Unicode.Blank

namespace ConsoleGateway.Http.Cookie

def unquote (cs : List Char) : List Char :=
  match cs with
  | '"' :: rest => if rest.getLast? = some '"' then rest.dropLast else cs
  | _ => cs

def decode? (cs : List Char) : Option String := (Utf8.decode? (Percent.decode cs)).map .ofList

def pair? (cs : List Char) : Option (String × String) :=
  match cs.dropWhile (· ≠ '=') with
  | [] => none
  | _ :: value => do
    let name := Unicode.trim (cs.takeWhile (· ≠ '='))
    if name = [] then none
    else return (← decode? name, ← decode? (unquote (Unicode.trim value)))

def pairs (header : String) : List (String × String) :=
  (Form.splitOn ';' header.toList).filterMap pair?

/-- The value of a cookie without the white space around it; the first cookie of the name counts,
and a blank one is none. -/
def value? (name header : String) : Option String :=
  ((pairs header).lookup name).bind fun value =>
    let trimmed := String.ofList (Unicode.trim value.toList)
    if trimmed = "" then none else some trimmed

end ConsoleGateway.Http.Cookie
