import LogTree.Text.Split

/-!
Logger names are dotted paths. The namespace that encloses a name is the text before its last dot,
and a name whose last dot is also its first character lies directly below the root.
-/

namespace LogTree.Namespace

def rootName : String :=
  "root"

def IsRoot (name : String) : Prop :=
  name = "" ∨ name = rootName

instance (name : String) : Decidable (IsRoot name) :=
  inferInstanceAs (Decidable (_ ∨ _))

/-- The name of the enclosing namespace, if there is one below the root. -/
def enclosing? (name : String) : Option String :=
  match Text.beforeLast? '.' name.toList with
  | none => none
  | some [] => none
  | some (c :: before) => some (String.ofList (c :: before))

theorem enclosing?_length_lt {name outer : String} (h : enclosing? name = some outer) :
    outer.length < name.length := by
  rw [enclosing?] at h
  split at h
  · cases h
  · cases h
  · next hbefore =>
      cases h
      have hlt := Text.beforeLast?_length_lt hbefore
      simp only [String.length_toList] at hlt
      simpa [Nat.add_comm] using hlt

def dotted : List Char → List Char
  | ':' :: ':' :: rest => '.' :: dotted rest
  | c :: rest => c :: dotted rest
  | [] => []

/-- The dotted name of a type, without the generic arguments: everything from the first angle
bracket on is left out. -/
def ofTypeName (typeName : String) : String :=
  String.ofList (dotted (typeName.toList.takeWhile (· ≠ '<')))

end LogTree.Namespace
