import LogTree.NameMap
import LogTree.Text.Quoted
import LogTree.Text.Shortest

namespace LogTree

/-- A JSON value. Whole numbers that fit 64 bits are told apart from all other numbers. -/
inductive Json where
  | null
  | bool (value : Bool)
  | integer (value : Int)
  | float (value : Float)
  | string (value : String)
  | array (elements : List Json)
  | object (fields : List (String × Json))

namespace Json

instance : Inhabited Json :=
  ⟨null⟩

/-- Numbers from a hundred-thousandth up to sixteen digits before the point are written plainly. -/
def plainPowers : Text.PlainPowers where
  least := -5
  greatest := 15

/-- A value as it is named in an error: scalars with their value, containers by their kind. -/
def describe : Json → String
  | null => "null"
  | bool value => "boolean `" ++ (if value then "true" else "false") ++ "`"
  | integer value => "integer `" ++ toString value ++ "`"
  | float value => "floating point `" ++ Text.ofFloat plainPowers value ++ "`"
  | string value => "string " ++ Text.quote value
  | array _ => "sequence"
  | object _ => "map"

/-- The members of an object by name; of two members with one name the later counts. -/
def members (fields : List (String × Json)) : NameMap Json :=
  fields.foldl (fun map field => map.insert field.1 field.2) ∅

end Json

end LogTree
