import Mathlib.Data.List.Basic
import LogTree.Namespace

namespace LogTree

/-- A text with nothing in it that has a meaning in a path. -/
def Identifier.Plain (cs : List Char) : Prop :=
  ∀ c ∈ cs, c ∉ [':', '<', '>', '.']

instance : DecidablePred Identifier.Plain :=
  fun cs => List.decidableBAll _ cs

structure Identifier where
  text : String
  ne_empty : text ≠ "" := by decide
  plain : Identifier.Plain text.toList := by decide
deriving DecidableEq

structure PathStep where
  identifier : Identifier
  /-- What stands between the angle brackets behind the identifier, if there are any. It may be any
  text, with other paths and brackets in it. -/
  arguments? : Option String := none
deriving DecidableEq

def PathStep.text (pathStep : PathStep) : String :=
  match pathStep.arguments? with
  | none => pathStep.identifier.text
  | some arguments => pathStep.identifier.text ++ "<" ++ arguments ++ ">"

structure TypePath where
  steps : List PathStep
  ne_nil : steps ≠ [] := by decide
deriving DecidableEq

namespace TypePath

/-- The name of the type as it is known before anything is left out. -/
def text (path : TypePath) : String :=
  "::".intercalate (path.steps.map PathStep.text)

def identifiers (path : TypePath) : List Identifier :=
  path.steps.map PathStep.identifier

/-- A path as a logger name. -/
def dottedName (identifiers : List Identifier) : String :=
  ".".intercalate (identifiers.map Identifier.text)

/-- The identifiers up to the first one with arguments behind it, that one included. -/
def identifiersUpTo : List PathStep → List Identifier
  | [] => []
  | pathStep :: rest =>
      pathStep.identifier :: if pathStep.arguments? = none then identifiersUpTo rest else []

def kept (path : TypePath) : List Identifier :=
  identifiersUpTo path.steps

/-- Only the type itself has generic arguments, and nothing on the way to it. -/
def ArgumentsLast (path : TypePath) : Prop :=
  ∀ pathStep ∈ path.steps.dropLast, pathStep.arguments? = none

end TypePath

namespace Text

theorem mem_intercalate {separator : List Char} {parts : List (List Char)} {c : Char}
    (h : c ∈ separator.intercalate parts) : c ∈ separator ∨ ∃ part ∈ parts, c ∈ part := by
  induction parts with
  | nil => exact absurd h List.not_mem_nil
  | cons part rest ih =>
      cases rest with
      | nil =>
          rw [List.intercalate_singleton] at h
          exact .inr ⟨part, List.mem_cons_self, h⟩
      | cons next others =>
          rw [List.intercalate_cons_cons, List.mem_append, List.mem_append] at h
          rcases h with (hpart | hseparator) | hrest
          · exact .inr ⟨part, List.mem_cons_self, hpart⟩
          · exact .inl hseparator
          · refine (ih hrest).imp_right ?_
            rintro ⟨other, hother, hc⟩
            exact ⟨other, List.mem_cons_of_mem _ hother, hc⟩

theorem exists_intercalate_cons (separator part : List Char) (rest : List (List Char)) :
    ∃ tail, separator.intercalate (part :: rest) = part ++ tail := by
  cases rest with
  | nil => exact ⟨[], by rw [List.intercalate_singleton, List.append_nil]⟩
  | cons next others => exact ⟨_, by rw [List.intercalate_cons_cons, List.append_assoc]⟩

theorem dotted_append {cs : List Char} (h : ':' ∉ cs) (rest : List Char) :
    Namespace.dotted (cs ++ rest) = cs ++ Namespace.dotted rest := by
  induction cs with
  | nil => rfl
  | cons c cs ih =>
      rw [List.mem_cons, not_or] at h
      rw [List.cons_append, Namespace.dotted, ih h.2, List.cons_append]
      rintro _ rfl
      exact absurd rfl h.1

theorem dotted_intercalate {parts : List (List Char)} (h : ∀ part ∈ parts, ':' ∉ part) :
    Namespace.dotted ([':', ':'].intercalate parts) = ['.'].intercalate parts := by
  induction parts with
  | nil => rfl
  | cons part rest ih =>
      obtain ⟨hpart, hrest⟩ := List.forall_mem_cons.mp h
      cases rest with
      | nil =>
          have hdotted := dotted_append hpart []
          rw [List.append_nil, Namespace.dotted, List.append_nil] at hdotted
          rw [List.intercalate_singleton, List.intercalate_singleton, hdotted]
      | cons next others =>
          rw [List.intercalate_cons_cons, List.intercalate_cons_cons, List.append_assoc,
            dotted_append hpart, List.append_assoc, ← ih hrest]
          rfl

end Text

namespace Identifier

theorem ext_text {identifier other : Identifier} (h : identifier.text = other.text) :
    identifier = other := by
  cases identifier
  cases other
  cases h
  rfl

theorem not_mem_text (identifier : Identifier) {c : Char} (hc : c ∈ [':', '<', '>', '.']) :
    c ∉ identifier.text.toList :=
  fun hmem => identifier.plain c hmem hc

theorem takeWhile_append (identifier : Identifier) (rest : List Char) :
    (identifier.text.toList ++ rest).takeWhile (· ≠ '<') =
      identifier.text.toList ++ rest.takeWhile (· ≠ '<') := by
  apply List.takeWhile_append_of_pos
  intro c hc
  rw [decide_eq_true_eq]
  rintro rfl
  exact identifier.not_mem_text (by decide) hc

end Identifier

namespace TypePath

theorem toList_dottedName (identifiers : List Identifier) :
    (dottedName identifiers).toList =
      ['.'].intercalate (identifiers.map fun identifier => identifier.text.toList) := by
  rw [dottedName, String.toList_intercalate, List.map_map]
  rfl

/-- Dots separate the identifiers, so a dotted name has only one way to be taken apart. -/
theorem dottedName_injective {identifiers others : List Identifier} (hne : identifiers ≠ [])
    (hne' : others ≠ []) : dottedName identifiers = dottedName others ↔ identifiers = others := by
  have hsplit : ∀ identifiers : List Identifier, identifiers ≠ [] →
      (dottedName identifiers).toList.splitOn '.' =
        identifiers.map fun identifier => identifier.text.toList := by
    intro identifiers hne
    rw [toList_dottedName]
    apply List.splitOn_intercalate
    · intro part hpart
      obtain ⟨identifier, -, rfl⟩ := List.mem_map.mp hpart
      exact identifier.not_mem_text (by decide)
    · rwa [ne_eq, List.map_eq_nil_iff]
  constructor
  · intro heq
    have hmap := hsplit identifiers hne
    rw [heq, hsplit others hne'] at hmap
    refine (List.map_injective_iff.mpr ?_ hmap).symm
    exact fun _ _ htext => Identifier.ext_text (String.toList_inj.mp htext)
  · exact congrArg dottedName

theorem kept_ne_nil (path : TypePath) : path.kept ≠ [] := by
  obtain ⟨pathStep, rest, hsteps⟩ := List.exists_cons_of_ne_nil path.ne_nil
  rw [kept, hsteps]
  exact List.cons_ne_nil _ _

theorem identifiers_ne_nil (path : TypePath) : path.identifiers ≠ [] := by
  rw [identifiers, ne_eq, List.map_eq_nil_iff]
  exact path.ne_nil

theorem identifiersUpTo_eq_iff (steps : List PathStep) :
    identifiersUpTo steps = steps.map PathStep.identifier ↔
      ∀ pathStep ∈ steps.dropLast, pathStep.arguments? = none := by
  induction steps with
  | nil => simp [identifiersUpTo]
  | cons pathStep rest ih =>
      cases rest with
      | nil => simp [identifiersUpTo]
      | cons next others =>
          rw [identifiersUpTo, List.map_cons, List.dropLast_cons_cons, List.forall_mem_cons, ← ih,
            List.cons_inj_right]
          split
          · next hnone => simp [hnone]
          · next hsome => simp [hsome]

theorem argumentsLast_iff (path : TypePath) :
    path.ArgumentsLast ↔ path.kept = path.identifiers :=
  (identifiersUpTo_eq_iff path.steps).symm

theorem takeWhile_intercalate (steps : List PathStep) :
    ([':', ':'].intercalate (steps.map fun pathStep => pathStep.text.toList)).takeWhile (· ≠ '<') =
      [':', ':'].intercalate
        ((identifiersUpTo steps).map fun identifier => identifier.text.toList) := by
  induction steps with
  | nil => rfl
  | cons pathStep rest ih =>
      obtain ⟨identifier, arguments?⟩ := pathStep
      cases arguments? with
      | some arguments =>
          obtain ⟨tail, htail⟩ := Text.exists_intercalate_cons [':', ':']
            (PathStep.text ⟨identifier, some arguments⟩).toList
            (rest.map fun pathStep => pathStep.text.toList)
          have htext : (PathStep.text ⟨identifier, some arguments⟩).toList =
              identifier.text.toList ++ '<' :: (arguments.toList ++ ['>']) := by
            simp [PathStep.text]
          rw [List.map_cons, htail, htext, List.append_assoc, identifier.takeWhile_append]
          simp [identifiersUpTo]
      | none =>
          have htext : (PathStep.text ⟨identifier, none⟩).toList = identifier.text.toList := rfl
          cases rest with
          | nil =>
              have hself := identifier.takeWhile_append []
              rw [List.append_nil, List.takeWhile_nil, List.append_nil] at hself
              rw [List.map_singleton, List.intercalate_singleton, htext, hself]
              exact List.intercalate_singleton.symm
          | cons next others =>
              rw [List.map_cons] at ih
              rw [List.map_cons, List.map_cons, List.intercalate_cons_cons, htext,
                List.append_assoc, identifier.takeWhile_append]
              -- Nothing is cut off in the colons, so the rest is as it is for the rest.
              have hcolons : ∀ cs : List Char, ([':', ':'] ++ cs).takeWhile (· ≠ '<') =
                  [':', ':'] ++ cs.takeWhile (· ≠ '<') := fun _ => rfl
              rw [hcolons, ih]
              simp only [identifiersUpTo, if_true, List.map_cons, List.intercalate_cons_cons,
                List.append_assoc]

theorem ofTypeName_text (path : TypePath) :
    Namespace.ofTypeName path.text = dottedName path.kept := by
  have htext : path.text.toList =
      [':', ':'].intercalate (path.steps.map fun pathStep => pathStep.text.toList) := by
    rw [text, String.toList_intercalate, List.map_map]
    rfl
  rw [← String.toList_inj, Namespace.ofTypeName, String.toList_ofList, htext,
    takeWhile_intercalate, toList_dottedName]
  apply Text.dotted_intercalate
  intro part hpart
  obtain ⟨identifier, -, rfl⟩ := List.mem_map.mp hpart
  exact identifier.not_mem_text (by decide)

theorem not_mem_dottedName {c : Char} (hc : c ∈ [':', '<', '>']) (identifiers : List Identifier) :
    c ∉ (dottedName identifiers).toList := by
  have hdot : c ∉ ['.'] := by
    rintro hmem
    rw [List.mem_singleton] at hmem
    subst hmem
    exact absurd hc (by decide)
  rw [toList_dottedName]
  intro hmem
  rcases Text.mem_intercalate hmem with hmem | ⟨part, hpart, hmem⟩
  · exact hdot hmem
  · obtain ⟨identifier, -, rfl⟩ := List.mem_map.mp hpart
    exact identifier.not_mem_text (List.mem_append_left ['.'] hc) hmem

/-- The dotted name of a type is made of the identifiers on the way to it, up to the first one with
generic arguments, and no colon or bracket is left in it. So it is the whole path exactly if only
the type itself has arguments, and types have one name if their paths are the same as far as they
are kept. -/
theorem type_names_end_at_first_arguments (path other : TypePath) :
    let name := Namespace.ofTypeName path.text
    name = dottedName path.kept ∧
      (path.ArgumentsLast ↔ path.kept = path.identifiers) ∧
      (path.ArgumentsLast ↔ name = dottedName path.identifiers) ∧
      (':' ∉ name.toList ∧ '<' ∉ name.toList ∧ '>' ∉ name.toList) ∧
      (name = Namespace.ofTypeName other.text ↔ path.kept = other.kept) := by
  intro name
  have hname : name = dottedName path.kept := path.ofTypeName_text
  rw [hname, ofTypeName_text]
  refine ⟨rfl, path.argumentsLast_iff, ?_, ?_,
    dottedName_injective path.kept_ne_nil other.kept_ne_nil⟩
  · rw [dottedName_injective path.kept_ne_nil path.identifiers_ne_nil, path.argumentsLast_iff]
  · exact ⟨not_mem_dottedName (by decide) _, not_mem_dottedName (by decide) _,
      not_mem_dottedName (by decide) _⟩

/-- A type inside of a function of a type with arguments has the name of that type. -/
example :
    let generic : TypePath := {
      steps := [{ identifier := { text := "a" } },
        { identifier := { text := "Foo" }, arguments? := some "u8" }] }
    let inner : TypePath := {
      steps := [{ identifier := { text := "a" } },
        { identifier := { text := "Foo" }, arguments? := some "u8" },
        { identifier := { text := "f" } }, { identifier := { text := "Inner" } }] }
    inner.text = "a::Foo<u8>::f::Inner" ∧ dottedName inner.identifiers = "a.Foo.f.Inner" ∧
      Namespace.ofTypeName inner.text = "a.Foo" ∧
      Namespace.ofTypeName inner.text ≠ dottedName inner.identifiers ∧
      generic.identifiers ≠ inner.identifiers ∧
      Namespace.ofTypeName generic.text = Namespace.ofTypeName inner.text := by
  decide

end TypePath

end LogTree
