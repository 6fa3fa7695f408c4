import LogTree.Registry.Lookup

namespace LogTree

structure LoggedClass where
  typeName : String
  declaredNamespace : Option String := none
  /-- Whether the objects of the class report the label they bear. -/
  reportsLabel : Bool := true
deriving DecidableEq

namespace LoggedClass

/-- The namespace of the class. An empty declaration counts as none. -/
def namespaceName (cls : LoggedClass) : String :=
  match cls.declaredNamespace with
  | none => Namespace.ofTypeName cls.typeName
  | some declared => if declared = "" then Namespace.ofTypeName cls.typeName else declared

/-- The namespace of an object with a label; an empty label counts as none. -/
def instanceName (cls : LoggedClass) (label : Option String) : String :=
  match label with
  | none => cls.namespaceName
  | some label => if label = "" then cls.namespaceName else cls.namespaceName ++ "." ++ label

end LoggedClass

end LogTree
