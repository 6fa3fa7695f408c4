import LogTree.Instance
import LogTree.Registry.Configure
import LogTree.Registry.Report

/-!
A program at work: its registries, its handlers and what they have put out, the objects that log and
the outlets that it keeps by name.
-/

namespace LogTree

inductive Holding where
  | adapter (adapter : Adapter)
  | outlet (outlet : Outlet)
deriving DecidableEq

def Holding.toOutlet : Holding → Outlet
  | .adapter held => .adapted held
  | .outlet held => held

structure Owned (α : Type) where
  registry : String
  value : α
deriving DecidableEq

structure Session where
  /-- The time at which everything happens. -/
  moment : Moment
  registries : NameMap Registry := ∅
  handlers : NameMap Handler := ∅
  outputs : Outputs := {}
  objects : NameMap (Owned Instance) := ∅
  holdings : NameMap (Owned Holding) := ∅
  /-- The type names of the classes whose logger has been asked for. -/
  loggedClasses : NameMap Unit := ∅
deriving DecidableEq

namespace Session

/-- A registry, which is there from its first use on. -/
def registry (session : Session) (key : String) : Registry :=
  session.registries.getD key {}

def setRegistry (session : Session) (key : String) (registry : Registry) : Session :=
  { session with registries := session.registries.insert key registry }

def setObject (session : Session) (key : String) (object : Owned Instance) : Session :=
  { session with objects := session.objects.insert key object }

def setHolding (session : Session) (key : String) (holding : Owned Holding) : Session :=
  { session with holdings := session.holdings.insert key holding }

def recordClass (session : Session) (cls : LoggedClass) : Session :=
  { session with loggedClasses := session.loggedClasses.insert cls.typeName () }

end Session

end LogTree
