namespace LogTree.Text

/-- The text behind its first octets in UTF-8, unless the last of them lies inside a character. -/
def dropOctets? : Nat → List Char → Option (List Char)
  | 0, cs => some cs
  | _ + 1, [] => none
  | n + 1, c :: cs => if c.utf8Size ≤ n + 1 then dropOctets? (n + 1 - c.utf8Size) cs else none

def takeOctets? : Nat → List Char → Option (List Char)
  | 0, _ => some []
  | _ + 1, [] => none
  | n + 1, c :: cs =>
      if c.utf8Size ≤ n + 1 then (takeOctets? (n + 1 - c.utf8Size) cs).map (c :: ·) else none

/-- The characters with the positions of their first octets, counted from `first`. -/
def octetPositions (first : Nat) : List Char → List (Char × Nat)
  | [] => []
  | c :: cs => (c, first) :: octetPositions (first + c.utf8Size) cs

end LogTree.Text
