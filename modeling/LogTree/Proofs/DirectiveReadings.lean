import Mathlib.Data.List.Forall2
import LogTree.Config
import LogTree.NameMap.Lemmas

namespace LogTree

namespace Directive

/-- How a directive may be written, the blanks around it left aside. -/
inductive Reads : List Char → Directive → Prop where
  | root {text : List Char} {level : Level} (hbare : '=' ∉ text)
      (hlevel : Level.parse (String.ofList text) = .ok level) :
      Reads text (.root level)
  | disable {before after : List Char} {level : Level} (hbefore : '=' ∉ before)
      (hname : String.ofList (Text.trim before) = disableName)
      (hlevel : Level.parse (String.ofList after) = .ok level) :
      Reads (before ++ '=' :: after) (.disable level)
  | logger {before after : List Char} {name : String} {level : Level} (hbefore : '=' ∉ before)
      (hname : String.ofList (Text.trim before) = name) (hne : name ≠ "")
      (hother : name ≠ disableName) (hlevel : Level.parse (String.ofList after) = .ok level) :
      Reads (before ++ '=' :: after) (.logger name level)

theorem parseTrimmed_eq_ok_iff {text : List Char} {directive : Directive} :
    parseTrimmed text = .ok directive ↔ Reads text directive := by
  constructor
  · intro h
    rw [parseTrimmed] at h
    split at h
    · cases h
    · split at h
      · next hcut =>
          split at h
          · cases h
          · next level hlevel =>
              cases h
              exact .root (Text.cutFirst?_eq_none_iff.mp hcut) hlevel
      · next before after hcut =>
          obtain ⟨rfl, hbefore⟩ := Text.cutFirst?_eq_some_iff.mp hcut
          simp only at h
          split at h
          · cases h
          · next hne =>
              split at h
              · cases h
              · next level hlevel =>
                  split at h
                  · next hname =>
                      cases h
                      exact .disable hbefore hname hlevel
                  · next hother =>
                      cases h
                      exact .logger hbefore rfl hne hother hlevel
  · intro h
    cases h with
    | root hbare hlevel =>
        have hne : text ≠ [] := by
          rintro rfl
          cases hlevel
        rw [parseTrimmed, if_neg hne, Text.cutFirst?_eq_none_iff.mpr hbare]
        simp only [hlevel]
    | disable hbefore hname hlevel =>
        rw [parseTrimmed, if_neg (by simp), Text.cutFirst?_eq_some_iff.mpr ⟨rfl, hbefore⟩]
        simp only [hname, hlevel]
        rfl
    | logger hbefore hname hne hother hlevel =>
        rw [parseTrimmed, if_neg (by simp), Text.cutFirst?_eq_some_iff.mpr ⟨rfl, hbefore⟩]
        simp only [hname, hne, hlevel, hother, if_false]

theorem Reads.ne_empty {text : List Char} {name : String} {level : Level}
    (h : Reads text (.logger name level)) : name ≠ "" := by
  cases h with
  | logger _ _ hne _ _ => exact hne

end Directive

namespace Config

/-- A text consists of directives, with blanks around them and commas between them. -/
def Spells (text : String) (directives : List Directive) : Prop :=
  List.Forall₂ (fun token directive => Directive.Reads (Text.trim token) directive)
    (Text.pieces ',' text.toList) directives

theorem spells_iff {text : String} {directives : List Directive} :
    Spells text directives ↔
      (Text.pieces ',' text.toList).map (fun token =>
        Directive.parseTrimmed (Text.trim token)) = directives.map Except.ok := by
  rw [Spells, ← List.forall₂_eq_eq_eq, List.forall₂_map_left_iff, List.forall₂_map_right_iff]
  simp only [Directive.parseTrimmed_eq_ok_iff]

theorem Spells.unique {text : String} {directives others : List Directive}
    (h : Spells text directives) (hothers : Spells text others) : others = directives := by
  have hmap := (spells_iff.mp hothers).symm.trans (spells_iff.mp h)
  exact List.map_injective_iff.mpr (fun _ _ => Except.ok.inj) hmap

theorem addToken_eq_ok_iff {config next : Config} {token : List Char} :
    config.addToken (String.ofList token) = .ok next ↔
      ∃ directive, Directive.Reads (Text.trim token) directive ∧ config.add directive = next := by
  rw [addToken, Directive.parse, String.toList_ofList]
  constructor
  · intro h
    cases hparse : Directive.parseTrimmed (Text.trim token) with
    | error e =>
        rw [hparse] at h
        cases h
    | ok directive =>
        rw [hparse] at h
        cases h
        exact ⟨directive, Directive.parseTrimmed_eq_ok_iff.mp hparse, rfl⟩
  · rintro ⟨directive, hreads, rfl⟩
    rw [Directive.parseTrimmed_eq_ok_iff.mpr hreads]
    rfl

theorem foldlM_addToken_eq_ok_iff {tokens : List (List Char)} {start config : Config} :
    tokens.foldlM (fun config token => config.addToken (String.ofList token)) start =
        .ok config ↔
      ∃ directives, List.Forall₂ (fun token directive =>
        Directive.Reads (Text.trim token) directive) tokens directives ∧
          directives.foldl add start = config := by
  induction tokens generalizing start with
  | nil =>
      rw [List.foldlM_nil]
      constructor
      · intro h
        cases h
        exact ⟨[], .nil, rfl⟩
      · rintro ⟨directives, ⟨⟩, rfl⟩
        rfl
  | cons token rest ih =>
      rw [List.foldlM_cons]
      constructor
      · intro h
        cases htoken : start.addToken (String.ofList token) with
        | error e =>
            rw [htoken] at h
            cases h
        | ok next =>
            obtain ⟨directive, hreads, rfl⟩ := addToken_eq_ok_iff.mp htoken
            rw [htoken] at h
            obtain ⟨directives, hrest, rfl⟩ := ih.mp h
            exact ⟨directive :: directives, .cons hreads hrest, rfl⟩
      · rintro ⟨directives, hreads, rfl⟩
        cases hreads with
        | cons hfirst hrest =>
            rw [addToken_eq_ok_iff.mpr ⟨_, hfirst, rfl⟩]
            exact ih.mpr ⟨_, hrest, rfl⟩

theorem parse_eq_ok_iff {text : String} {config : Config} :
    parse text = .ok config ↔
      ∃ directives, Spells text directives ∧ directives.foldl add {} = config :=
  foldlM_addToken_eq_ok_iff

end Config

section

variable {State Item Value : Type} {step : State → Item → State} (read : State → Option Value)
  (mark : Item → Option Value)
  (hstep : ∀ state item, read (step state item) = (mark item).or (read state))

include hstep

theorem read_foldl_of_unmarked {items : List Item} (hitems : ∀ item ∈ items, mark item = none)
    (state : State) : read (items.foldl step state) = read state := by
  induction items generalizing state with
  | nil => rfl
  | cons item rest ih =>
      obtain ⟨hitem, hrest⟩ := List.forall_mem_cons.mp hitems
      rw [List.foldl_cons, ih hrest, hstep, hitem, Option.none_or]

theorem read_foldl_of_last {before after : List Item} {item : Item} {value : Value}
    (hitem : mark item = some value) (hafter : ∀ later ∈ after, mark later = none)
    (state : State) : read ((before ++ item :: after).foldl step state) = some value := by
  rw [List.foldl_append, List.foldl_cons, read_foldl_of_unmarked read mark hstep hafter, hstep,
    hitem, Option.some_or]

end

namespace Directive

def rootLevel? : Directive → Option Level
  | root level => some level
  | logger _ _ | disable _ => none

def entryLevel? (name : String) : Directive → Option Level
  | logger other level => if name = other then some level else none
  | root _ | disable _ => none

def threshold? : Directive → Option Level
  | disable level => some level
  | root _ | logger _ _ => none

theorem entryLevel?_self (name : String) (level : Level) :
    (logger name level).entryLevel? name = some level :=
  if_pos rfl

section

variable {directives : List Directive}

theorem entryLevel?_eq_none {name : String} (h : ∀ level, logger name level ∉ directives) :
    ∀ directive ∈ directives, directive.entryLevel? name = none := by
  intro directive hdirective
  cases directive with
  | root level => rfl
  | disable level => rfl
  | logger other level =>
      apply if_neg
      rintro rfl
      exact h level hdirective

theorem rootLevel?_eq_none (h : ∀ level, root level ∉ directives) :
    ∀ directive ∈ directives, directive.rootLevel? = none := by
  intro directive hdirective
  cases directive with
  | root level => exact absurd hdirective (h level)
  | logger other level => rfl
  | disable level => rfl

theorem threshold?_eq_none (h : ∀ level, disable level ∉ directives) :
    ∀ directive ∈ directives, directive.threshold? = none := by
  intro directive hdirective
  cases directive with
  | root level => rfl
  | logger other level => rfl
  | disable level => exact absurd hdirective (h level)

end

end Directive

namespace Config

theorem root_add (config : Config) (directive : Directive) :
    (config.add directive).root = directive.rootLevel?.or config.root := by
  cases directive <;> rfl

theorem get?_levels_add (name : String) (config : Config) (directive : Directive) :
    (config.add directive).levels.get? name =
      (directive.entryLevel? name).or (config.levels.get? name) := by
  cases directive with
  | root level => rfl
  | disable level => rfl
  | logger other level =>
      rw [add, NameMap.get?_insert, Directive.entryLevel?]
      split <;> rfl

theorem disable_add (config : Config) (directive : Directive) :
    (config.add directive).disable = directive.threshold?.or config.disable := by
  cases directive <;> rfl

theorem get?_levels_of_last {key : String} {level : Level} {before after : List Directive}
    (hafter : ∀ later, .logger key later ∉ after) :
    ((before ++ .logger key level :: after).foldl add {}).levels.get? key = some level :=
  read_foldl_of_last (fun config : Config => config.levels.get? key) (Directive.entryLevel? key)
    (get?_levels_add key) (Directive.entryLevel?_self key level)
    (Directive.entryLevel?_eq_none hafter) {}

theorem get?_levels_eq_none {key : String} {directives : List Directive}
    (h : ∀ level, .logger key level ∉ directives) :
    (directives.foldl add {}).levels.get? key = none :=
  read_foldl_of_unmarked (fun config : Config => config.levels.get? key) (Directive.entryLevel? key)
    (get?_levels_add key) (Directive.entryLevel?_eq_none h) {}

theorem root_of_last {level : Level} {before after : List Directive}
    (hafter : ∀ later, .root later ∉ after) :
    ((before ++ .root level :: after).foldl add {}).root = some level :=
  read_foldl_of_last root Directive.rootLevel? root_add rfl
    (Directive.rootLevel?_eq_none hafter) {}

theorem root_eq_none {directives : List Directive} (h : ∀ level, .root level ∉ directives) :
    (directives.foldl add {}).root = none :=
  read_foldl_of_unmarked root Directive.rootLevel? root_add (Directive.rootLevel?_eq_none h) {}

theorem disable_of_last {level : Level} {before after : List Directive}
    (hafter : ∀ later, .disable later ∉ after) :
    ((before ++ .disable level :: after).foldl add {}).disable = some level :=
  read_foldl_of_last disable Directive.threshold? disable_add rfl
    (Directive.threshold?_eq_none hafter) {}

theorem disable_eq_none {directives : List Directive}
    (h : ∀ level, .disable level ∉ directives) : (directives.foldl add {}).disable = none :=
  read_foldl_of_unmarked disable Directive.threshold? disable_add
    (Directive.threshold?_eq_none h) {}

theorem Spells.ne_empty {text : String} {directives : List Directive}
    (h : Spells text directives) (level : Level) : .logger "" level ∉ directives := by
  rw [Spells] at h
  generalize Text.pieces ',' text.toList = tokens at h
  induction h with
  | nil => exact List.not_mem_nil
  | cons hfirst _ ih =>
      intro hmem
      rcases List.mem_cons.mp hmem with rfl | hrest
      · exact hfirst.ne_empty rfl
      · exact ih hrest

end Config

end LogTree
