import LogTree.Registry

namespace LogTree.Registry

def ancestry (registry : Registry) (id : LoggerId) : List LoggerId :=
  match _ : registry.parent? id with
  | none => [id]
  | some outer => id :: registry.ancestry outer
termination_by id
decreasing_by exact parent?_lt (by assumption)

/-- The level that counts for a logger: the first one that is set on it or on an ancestor. -/
def effectiveLevel (registry : Registry) (id : LoggerId) : Level :=
  if registry.level id ≠ .notset then
    registry.level id
  else
    match _ : registry.parent? id with
    | none => .notset
    | some outer => registry.effectiveLevel outer
termination_by id
decreasing_by exact parent?_lt (by assumption)

def isEnabledFor (registry : Registry) (id : LoggerId) (level : Level) : Bool :=
  !registry.isDisabled level && registry.effectiveLevel id ≤ level

def hasOwnHandlers (registry : Registry) (id : LoggerId) : Bool :=
  !(registry.handlers id).isEmpty

def hasHandlers (registry : Registry) (id : LoggerId) : Bool :=
  if registry.hasOwnHandlers id then
    true
  else if !registry.propagate id then
    false
  else
    match _ : registry.parent? id with
    | none => false
    | some outer => registry.hasHandlers outer
termination_by id
decreasing_by exact parent?_lt (by assumption)

def climb? (registry : Registry) (id : LoggerId) : Nat → Option LoggerId
  | 0 => some id
  | generations + 1 => (registry.parent? id).bind fun outer => registry.climb? outer generations

end LogTree.Registry
