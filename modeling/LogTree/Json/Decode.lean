import LogTree.Echo
import LogTree.Json

namespace LogTree

inductive Expected where
  | string
  | map
  | sequence
  | echo
  | config
deriving DecidableEq

def Expected.text : Expected → String
  | string => "a string"
  | map => "a map"
  | sequence => "a sequence"
  | echo => "null, a boolean, or the string \"debug\""
  | config => "struct LoggingConfig"

inductive DecodeError where
  | mismatch (found : Json) (expected : Expected)
  | level (cause : LevelError)
  | echo (cause : EchoError)
  | tooManyElements (count : Nat)

def DecodeError.message : DecodeError → String
  | mismatch found expected =>
      "invalid type: " ++ found.describe ++ ", expected " ++ expected.text
  | level cause => cause.message
  | echo cause => cause.message
  | tooManyElements count =>
      "invalid length " ++ toString count ++ ", expected fewer elements in array"

namespace Level

def toJson (level : Level) : Json :=
  .string level.text

def ofJson : Json → Except DecodeError Level
  | .string text => (Level.parse text).mapError .level
  | value => .error (.mismatch value .string)

/-- A level that may be left out as null. -/
def optionalOfJson : Json → Except DecodeError (Option Level)
  | .null => .ok none
  | value => (ofJson value).map some

end Level

namespace Echo

def toJson : Echo → Json
  | unset => .null
  | off => .bool false
  | on => .bool true
  | debug => .string "debug"

def ofJson : Json → Except DecodeError Echo
  | .null => .ok unset
  | .bool enabled => .ok (ofBool enabled)
  | .string text => (Echo.parse text).mapError .echo
  | value => .error (.mismatch value .echo)

/-- Decodes from a format that marks absent values itself. -/
def ofPresence : Option Json → Except DecodeError Echo
  | none => .ok unset
  | some value => ofJson value

/-- Decodes a list; the first element that cannot be decoded decides. -/
def listOfJson : Json → Except DecodeError (List Echo)
  | .array elements => elements.mapM ofJson
  | value => .error (.mismatch value .sequence)

end Echo

end LogTree
