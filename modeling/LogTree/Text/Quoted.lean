import LogTree.Text.Invisible

namespace LogTree.Text

/-- A character inside a quoted text: quotes, backslashes and the common control characters have
short escapes, other invisible characters are written by their code. -/
def escape (c : Char) : List Char :=
  if c = '"' then ['\\', '"']
  else if c = '\\' then ['\\', '\\']
  else if c = '\t' then ['\\', 't']
  else if c = '\n' then ['\\', 'n']
  else if c = '\r' then ['\\', 'r']
  else if c = '\x00' then ['\\', '0']
  else if isInvisible c then
    ['\\', 'u', '\x7b'] ++ Nat.toDigits 16 c.toNat ++ ['\x7d']
  else [c]

def quote (text : String) : String :=
  String.ofList ('"' :: text.toList.flatMap escape ++ ['"'])

/-- Printable ASCII characters other than quotes and backslashes are written as they are. -/
theorem escape_of_printable {c : Char} (h : 0x20 ≤ c.toNat ∧ c.toNat < 0x7f) (hquote : c ≠ '"')
    (hbackslash : c ≠ '\\') : escape c = [c] := by
  have hne : ∀ control : Char, control.toNat < 0x20 → c ≠ control := by
    rintro control hcontrol rfl
    omega
  have hvisible : isInvisible c = false := by
    rw [isInvisible, if_pos (by omega), Bool.or_eq_false_iff, decide_eq_false_iff_not,
      beq_eq_false_iff_ne]
    omega
  rw [escape, if_neg hquote, if_neg hbackslash, if_neg (hne _ (by decide)),
    if_neg (hne _ (by decide)), if_neg (hne _ (by decide)), if_neg (hne _ (by decide)), hvisible,
    if_neg Bool.false_ne_true]

theorem quote_eq_self {text : String} (h : ∀ c ∈ text.toList, escape c = [c]) :
    quote text = "\"" ++ text ++ "\"" := by
  have hescape : ∀ cs : List Char, (∀ c ∈ cs, escape c = [c]) → cs.flatMap escape = cs := by
    intro cs
    induction cs with
    | nil => exact fun _ => rfl
    | cons c rest ih =>
        intro hcs
        obtain ⟨hc, hrest⟩ := List.forall_mem_cons.mp hcs
        rw [List.flatMap_cons, hc, ih hrest, List.singleton_append]
  apply String.toList_injective
  rw [quote, hescape _ h]
  simp

end LogTree.Text
