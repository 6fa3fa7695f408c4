import LogTree.Outlet
import LogTree.Registry.Attach
import LogTree.Registry.Lookup

namespace LogTree

structure Built where
  registry : Registry
  outlet : Outlet
  offer : Option Offer

namespace Registry

/-- Builds an outlet for a namespace. An object that asks for output gets an adapter, and the logger
of its namespace a handler if it has none; other objects log directly. -/
def buildWith (registry : Registry) (name : String) (echo : Echo) (make : Unit → Option Handler) :
    Built :=
  let located := registry.obtain name
  match echo.level? with
  | none => { registry := located.registry, outlet := .direct located.id, offer := none }
  | some _ =>
      let (registry, offer) := located.registry.attachIfEmpty located.id make
      { registry, outlet := .adapted { echo, logger := located.id }, offer := some offer }

def build (registry : Registry) (name : String) (echo : Echo) : Built :=
  registry.buildWith name echo fun _ => some Handler.standard

end Registry

end LogTree
