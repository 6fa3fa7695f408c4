namespace LogTree.Text

inductive Alignment where
  | left
  | centre
  | right
deriving DecidableEq

structure Padding where
  fill : Char := ' '
  alignment : Alignment := .left
  width : Nat := 0
  /-- The greatest number of characters kept of the text itself. -/
  limit : Option Nat := none
deriving DecidableEq

namespace Padding

/-- Shortens the text to the limit and fills it up to the width. A centred text that cannot stand in
the middle has the odd fill character on its right. -/
def fit (padding : Padding) (text : String) : String :=
  let kept := match padding.limit with
    | none => text.toList
    | some limit => text.toList.take limit
  let missing := padding.width - kept.length
  let before := match padding.alignment with
    | .left => 0
    | .centre => missing / 2
    | .right => missing
  String.ofList (List.replicate before padding.fill ++ kept ++
    List.replicate (missing - before) padding.fill)

def largest : Nat :=
  65535

def Valid (padding : Padding) : Prop :=
  padding.width ≤ largest ∧ ∀ limit ∈ padding.limit, limit ≤ largest

instance : DecidablePred Valid :=
  fun _ => inferInstanceAs (Decidable (_ ∧ _))

def fit? (padding : Padding) (text : String) : Option String :=
  if padding.Valid then some (padding.fit text) else none

end Padding

end LogTree.Text
