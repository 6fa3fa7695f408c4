namespace LogTree

inductive LineMode where
  | withNewline
  | withoutNewline
deriving DecidableEq

namespace LineMode

instance : Inhabited LineMode :=
  ⟨withNewline⟩

def appendsNewline : LineMode → Bool
  | withNewline => true
  | withoutNewline => false

def ofBool (newline : Bool) : LineMode :=
  if newline then withNewline else withoutNewline

def describe : LineMode → String
  | withNewline => "WithNewline"
  | withoutNewline => "WithoutNewline"

def terminator : LineMode → String
  | withNewline => "\n"
  | withoutNewline => ""

end LineMode

end LogTree
