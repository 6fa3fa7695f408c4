import LogTree.Text.Pattern.Flags

namespace LogTree.Text.Pattern

/-- The parts that have been read in a group or a class, by how deep they are nested. -/
structure Nesting where
  /-- The number of parts since the last sign that divides the group or class. -/
  parts : Nat := 0
  /-- The depth of the last one of them. -/
  last : Nat := 0
  deepest : Nat := 0
  /-- The depth of what stands before that sign. -/
  before : Option Nat := none

namespace Nesting

def add (nesting : Nesting) (depth : Nat) : Nesting :=
  { nesting with parts := nesting.parts + 1, last := depth, deepest := max nesting.deepest depth }

/-- Two parts or more are one level deeper than a part on its own. -/
def row (nesting : Nesting) : Nat :=
  if 2 ≤ nesting.parts then nesting.deepest + 1 else nesting.deepest

def depth (nesting : Nesting) : Nat :=
  match nesting.before with
  | none => nesting.row
  | some before => max before nesting.row + 1

def repeated (nesting : Nesting) : Nesting :=
  { nesting with last := nesting.last + 1, deepest := max nesting.deepest (nesting.last + 1) }

def alternative (nesting : Nesting) : Nesting :=
  { before := some (max (nesting.before.getD 0) nesting.row) }

/-- Of the operands of a class each one is combined with all before it. -/
def operand (nesting : Nesting) : Nesting :=
  { before := some nesting.depth }

end Nesting

inductive Place where
  | inside
  | opened
  | negated
  /-- Behind hyphens with which a class begins. -/
  | hyphens
deriving DecidableEq

/-- What the end of a group or class returns to. -/
structure Surrounding where
  flags : Flags
  nesting : Nesting

structure State where
  flags : Flags := {}
  nesting : Nesting := {}
  /-- What surrounds the innermost open group or class, and what surrounds that. -/
  outer : List Surrounding := []
  names : List (List Char) := []
  /-- Whether there is a part that a repetition sign could repeat. -/
  repeatable : Bool := false
  /-- The number of open brackets. -/
  brackets : Nat := 0
  place : Place := .inside

namespace State

def withPart (state : State) : State :=
  { state with nesting := state.nesting.add 0, repeatable := true }

def withSwitches (state : State) (flags : Flags) : State :=
  { state with flags, nesting := state.nesting.add 0, repeatable := false }

def withMember (state : State) (place : Place) : State :=
  { state with nesting := state.nesting.add 0, place }

def enter (state : State) (flags : Flags) : State :=
  let surrounding := { flags := state.flags, nesting := state.nesting : Surrounding }
  { state with flags, nesting := {}, outer := surrounding :: state.outer, repeatable := false }

/-- Closes the innermost group or class, which is a part of what surrounds it. -/
def leave? (state : State) : Option State :=
  match state.outer with
  | [] => none
  | surrounding :: outer =>
      some { state with
        flags := surrounding.flags, nesting := surrounding.nesting.add (state.nesting.depth + 1),
        outer, repeatable := true }

def openClass (state : State) : State :=
  { state.enter state.flags with brackets := state.brackets + 1, place := .opened }

def operand (state : State) : State :=
  { state with nesting := state.nesting.operand, place := .inside }

/-- Closes a class, which is a member of the class around it. -/
def closeClass? (state : State) : Option State :=
  state.leave?.map fun outer =>
    { outer with brackets := state.brackets - 1, place := .inside }

end State

end LogTree.Text.Pattern
