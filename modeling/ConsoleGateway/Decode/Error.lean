import ConsoleGateway.Text.Quoted

namespace ConsoleGateway.Decode

inductive Found where
  | null
  | bool (b : Bool)
  | integer (z : Int)
  | double (text : String)
  | string (s : String)
  | sequence
  | map
  | unitVariant
  deriving DecidableEq, Repr

def Found.describe : Found → String
  | .null => "null"
  | .bool b => "boolean `" ++ toString b ++ "`"
  | .integer z => "integer `" ++ toString z ++ "`"
  | .double text => "floating point `" ++ text ++ "`"
  | .string s => "string " ++ Quoted.write s
  | .sequence => "sequence"
  | .map => "map"
  | .unitVariant => "unit variant"

inductive Error where
  | malformed
  | wrongType (found : Found) (expected : String)
  | wrongValue (found : Found) (expected : String)
  | wrongLength (length : Nat) (expected : String)
  | missing (field : String)
  | duplicate (field : String)
  | unknownVariant (name : String) (known : List String)
  | notAFlag
  | badFlag (text : String)
  deriving DecidableEq, Repr

def oneOf : List String → String
  | [] => "there are no variants"
  | [a] => "expected `" ++ a ++ "`"
  | [a, b] => "expected `" ++ a ++ "` or `" ++ b ++ "`"
  | names => "expected one of " ++ ", ".intercalate (names.map fun n => "`" ++ n ++ "`")

def Error.message? : Error → Option String
  | .malformed => none
  | .wrongType found expected =>
    some ("invalid type: " ++ found.describe ++ ", expected " ++ expected)
  | .wrongValue found expected =>
    some ("invalid value: " ++ found.describe ++ ", expected " ++ expected)
  | .wrongLength n expected => some ("invalid length " ++ toString n ++ ", expected " ++ expected)
  | .missing field => some ("missing field `" ++ field ++ "`")
  | .duplicate field => some ("duplicate field `" ++ field ++ "`")
  | .unknownVariant name known => some ("unknown variant `" ++ name ++ "`, " ++ oneOf known)
  | .notAFlag => some "data did not match any variant of untagged enum Flag"
  | .badFlag text => some ("invalid flag value: " ++ text)

end ConsoleGateway.Decode
