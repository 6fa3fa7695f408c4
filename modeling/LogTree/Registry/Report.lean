import LogTree.Registry.Lookup
import LogTree.Registry.Walk

namespace LogTree

structure LoggerReport where
  name : String
  level : Level
  effective : Level
  propagate : Bool
  parent : Option String
  isRoot : Bool
  /-- Whether the parent is the root logger itself and not another logger of that name. -/
  parentIsRoot : Bool
  hasOwnHandlers : Bool
  hasHandlers : Bool
  handlers : List HandlerId
deriving DecidableEq

namespace Registry

def handlerIds (registry : Registry) (id : LoggerId) : List HandlerId :=
  (registry.handlers id).map Handler.id

def report (registry : Registry) (id : LoggerId) : LoggerReport where
  name := registry.name id
  level := registry.level id
  effective := registry.effectiveLevel id
  propagate := registry.propagate id
  parent := (registry.parent? id).map registry.name
  isRoot := id = rootId
  parentIsRoot := registry.parent? id = some rootId
  hasOwnHandlers := registry.hasOwnHandlers id
  hasHandlers := registry.hasHandlers id
  handlers := registry.handlerIds id

def sameLogger (registry : Registry) (name other : String) : Registry × Bool :=
  let first := registry.obtain name
  let second := first.registry.obtain other
  (second.registry, first.id = second.id)

/-- Whether asking for the name of a logger gives that logger. -/
def isShared (registry : Registry) (id : LoggerId) : Bool :=
  registry.lookup? (registry.name id) = some id

end Registry

end LogTree
