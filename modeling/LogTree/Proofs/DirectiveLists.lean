import LogTree.Proofs.DirectiveReadings

namespace LogTree

namespace NameMap

universe u

variable {α : Type u}

def overlay (lower upper : NameMap α) : NameMap α :=
  upper.entries.foldl (fun map entry => map.insert entry.1 entry.2) lower

theorem get?_foldl_insert {entries : List (String × α)}
    (h : entries.Pairwise fun a b => a.1 < b.1) (map : NameMap α) (name : String) :
    (entries.foldl (fun map entry => map.insert entry.1 entry.2) map).get? name =
      (entries.lookup name).or (map.get? name) := by
  induction entries generalizing map with
  | nil => rfl
  | cons entry rest ih =>
      obtain ⟨hfirst, hrest⟩ := List.pairwise_cons.mp h
      rw [List.foldl_cons, ih hrest, get?_insert, lookup_entry]
      by_cases heq : name = entry.1
      · -- No later entry has the name, since names ascend.
        rw [heq, lookup_eq_none_of_lt hfirst, if_pos rfl, if_pos rfl]
        rfl
      · rw [if_neg heq, if_neg heq]

@[simp] theorem get?_overlay (lower upper : NameMap α) (name : String) :
    (lower.overlay upper).get? name = (upper.get? name).or (lower.get? name) :=
  get?_foldl_insert upper.ascending lower name

theorem overlay_insert (lower upper : NameMap α) (name : String) (value : α) :
    lower.overlay (upper.insert name value) = (lower.overlay upper).insert name value := by
  apply ext_get?
  intro other
  rw [get?_overlay, get?_insert, get?_insert, get?_overlay]
  split <;> rfl

end NameMap

namespace Config

/-- A configuration laid over an earlier one. -/
def merge (earlier later : Config) : Config where
  root := later.root.or earlier.root
  levels := earlier.levels.overlay later.levels
  disable := later.disable.or earlier.disable

theorem merge_empty (config : Config) : config.merge {} = config :=
  rfl

theorem merge_add (earlier later : Config) (directive : Directive) :
    earlier.merge (later.add directive) = (earlier.merge later).add directive := by
  cases directive with
  | root level => rfl
  | disable level => rfl
  | logger name level => simp only [merge, add, NameMap.overlay_insert]

theorem addToken_merge (earlier later : Config) (token : String) :
    (earlier.merge later).addToken token = (later.addToken token).map earlier.merge := by
  rw [addToken, addToken]
  cases Directive.parse token with
  | error e => rfl
  | ok directive => exact congrArg Except.ok (earlier.merge_add later directive).symm

def addTokens (config : Config) (tokens : List (List Char)) : Except DirectiveError Config :=
  tokens.foldlM (fun (config : Config) token => config.addToken (String.ofList token)) config

theorem parse_eq_addTokens (text : String) :
    parse text = addTokens {} (Text.pieces ',' text.toList) :=
  rfl

theorem addTokens_append (config : Config) (first second : List (List Char)) :
    config.addTokens (first ++ second) =
      (config.addTokens first).bind (addTokens · second) :=
  List.foldlM_append

/-- What tokens come to does not depend on what they are added to, and neither does the first error
among them. -/
theorem addTokens_merge (earlier later : Config) (tokens : List (List Char)) :
    (earlier.merge later).addTokens tokens = (later.addTokens tokens).map earlier.merge := by
  induction tokens generalizing later with
  | nil => rfl
  | cons token rest ih =>
      rw [addTokens, addTokens, List.foldlM_cons, List.foldlM_cons, addToken_merge]
      cases later.addToken (String.ofList token) with
      | error e => rfl
      | ok next => exact ih next

/-- Two lists of directives joined by a comma fail where the first one fails, or else where the
second one fails. Otherwise the second configuration is laid over the first: it decides wherever it
says something, and the first one where it does not. -/
theorem joined_directives_merge (first second : String) :
    parse (first ++ "," ++ second) =
        ((parse first).bind fun earlier => (parse second).map earlier.merge) ∧
      ∀ earlier later : Config,
        (earlier.merge later).root = later.root.or earlier.root ∧
          (earlier.merge later).disable = later.disable.or earlier.disable ∧
          ∀ name, (earlier.merge later).levels.get? name =
            (later.levels.get? name).or (earlier.levels.get? name) := by
  refine ⟨?_, fun earlier later => ⟨rfl, rfl, NameMap.get?_overlay _ _⟩⟩
  have htext : (first ++ "," ++ second).toList = first.toList ++ ',' :: second.toList := by
    simp
  rw [parse_eq_addTokens, htext, Text.pieces_append, addTokens_append, ← parse_eq_addTokens]
  cases parse first with
  | error e => rfl
  | ok earlier =>
      have hsecond := addTokens_merge earlier {} (Text.pieces ',' second.toList)
      rwa [merge_empty] at hsecond

/-- A list that is wrong in two places is refused for the first one. -/
example :
    parse ("app=info, =info" ++ "," ++ "loud") = .error (.missingName "=info") := by
  rfl

end Config

end LogTree
