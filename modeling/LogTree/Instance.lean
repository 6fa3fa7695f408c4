import LogTree.Build
import LogTree.LoggedClass

namespace LogTree

structure LogState where
  echo : Echo
  outlet : Outlet
deriving DecidableEq

structure Instance where
  loggedClass : LoggedClass
  /-- The label that the object bears now. -/
  label : Option String
  state : LogState
deriving DecidableEq

namespace Instance

def reportedLabel (object : Instance) : Option String :=
  if object.loggedClass.reportsLabel then object.label else none

def resolvedName (object : Instance) : String :=
  object.loggedClass.instanceName object.reportedLabel

end Instance

namespace Registry

def classLogger (registry : Registry) (cls : LoggedClass) : Located :=
  registry.obtain cls.namespaceName

/-- Makes the state of an object with a label. The logger of the class is created first. -/
def makeState (registry : Registry) (cls : LoggedClass) (label : Option String) (echo : Echo) :
    Registry × LogState :=
  let built := (registry.classLogger cls).registry.build (cls.instanceName label) echo
  (built.registry, { echo, outlet := built.outlet })

/-- Writes the echo value of an object, whose outlet is built anew under the name it has now. -/
def writeEcho (registry : Registry) (object : Instance) (echo : Echo) : Registry × Instance :=
  let built := registry.build object.resolvedName echo
  (built.registry, { object with state := { echo, outlet := built.outlet } })

end Registry

end LogTree
