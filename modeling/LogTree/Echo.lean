import LogTree.Level

namespace LogTree

/-- What one object asks of its own log output. -/
inductive Echo where
  | unset
  | off
  | on
  | debug
deriving DecidableEq, Inhabited

namespace Echo

def isEnabled : Echo → Bool
  | unset | off => false
  | on | debug => true

/-- The level that takes the place of the logger's own for this object. -/
def level? : Echo → Option Level
  | unset | off => none
  | on => some Level.info
  | debug => some Level.debug

def text : Echo → String
  | unset => "none"
  | off => "false"
  | on => "true"
  | debug => "debug"

def describe : Echo → String
  | unset => "Unset"
  | off => "False"
  | on => "True"
  | debug => "Debug"

def ofBool (enabled : Bool) : Echo :=
  if enabled then on else off

def ofOption (enabled : Option Bool) : Echo :=
  match enabled with
  | none => unset
  | some enabled => ofBool enabled

/-- The words that stand for a value, in lower case. No word at all leaves the value unset. -/
def words : List (String × Echo) :=
  [("", unset), ("none", unset), ("unset", unset),
    ("false", off), ("no", off), ("off", off), ("0", off),
    ("true", on), ("yes", on), ("on", on), ("1", on),
    ("debug", debug)]

def guide : String :=
  "When `true`, enable log output for this element.\n\n" ++
    "This sets the logging level of the element's namespace logger for this instance only: " ++
    "`true` logs at INFO and above, `debug` also logs DEBUG records. " ++
    "Other instances sharing the namespace are not affected."

end Echo

structure EchoError where
  input : String
deriving DecidableEq

def EchoError.message (e : EchoError) : String :=
  "invalid echo value " ++ Text.quote e.input ++ "; expected none, true, false or debug"

/-- Reads a word for a value, in any case of its letters; blanks around it do not count. An error
keeps the whole input. -/
def Echo.parse (input : String) : Except EchoError Echo :=
  match Echo.words.lookup (String.ofList (Text.lowerAscii (Text.trim input.toList))) with
  | some echo => .ok echo
  | none => .error { input }

end LogTree
