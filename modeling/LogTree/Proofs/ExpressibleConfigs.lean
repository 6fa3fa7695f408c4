import LogTree.Proofs.DirectiveReadings
import LogTree.Proofs.LevelSpellings

namespace LogTree

namespace Text

theorem not_mem_of_mem_pieces {separator : Char} {cs piece : List Char}
    (h : piece ∈ pieces separator cs) : separator ∉ piece := by
  induction cs generalizing piece with
  | nil =>
      rw [pieces, List.mem_singleton] at h
      rw [h]
      exact List.not_mem_nil
  | cons c rest ih =>
      rw [pieces] at h
      split at h
      · rcases List.mem_cons.mp h with rfl | hrest
        · exact List.not_mem_nil
        · exact ih hrest
      · next hne =>
          obtain ⟨first, others, hpieces⟩ :=
            List.exists_cons_of_ne_nil (pieces_ne_nil separator rest)
          simp only [hpieces] at h ih
          rcases List.mem_cons.mp h with rfl | hothers
          · rw [List.mem_cons, not_or]
            exact ⟨Ne.symm hne, ih List.mem_cons_self⟩
          · exact ih (List.mem_cons_of_mem _ hothers)

theorem pieces_intercalate {separator : Char} {parts : List (List Char)} (hne : parts ≠ [])
    (hparts : ∀ part ∈ parts, separator ∉ part) :
    pieces separator ([separator].intercalate parts) = parts := by
  induction parts with
  | nil => exact absurd rfl hne
  | cons part rest ih =>
      obtain ⟨hpart, hrest⟩ := List.forall_mem_cons.mp hparts
      cases rest with
      | nil => rw [List.intercalate_singleton, pieces_of_not_mem hpart]
      | cons next others =>
          rw [List.intercalate_cons_cons, List.append_assoc, List.singleton_append, pieces_append,
            pieces_of_not_mem hpart, ih (List.cons_ne_nil _ _) hrest, List.singleton_append]

theorem tight_append {first last : List Char} (middle : List Char) (hfirst : Tight first)
    (hlast : Tight last) (hne : first ≠ []) (hne' : last ≠ []) :
    Tight (first ++ middle ++ last) where
  first := by
    rw [List.append_assoc, List.head?_append,
      Option.or_of_isSome (List.isSome_head?.mpr hne)]
    exact hfirst.first
  last := by
    rw [List.getLast?_append, Option.or_of_isSome (List.getLast?_isSome.mpr hne')]
    exact hlast.last

end Text

namespace Directive

/-- A name under which a directive can address a logger. -/
structure Addressable (name : String) : Prop where
  ne_empty : name ≠ ""
  tight : Text.Tight name.toList
  no_comma : ',' ∉ name.toList
  no_sign : '=' ∉ name.toList
  ne_disable : name ≠ disableName

/-- A directive is written as the level in decimal digits, behind what is to have that level. -/
def spelling : Directive → String
  | .root level => toString level.severity
  | .logger name level => name ++ "=" ++ toString level.severity
  | .disable level => disableName ++ "=" ++ toString level.severity

def Writable : Directive → Prop
  | .root _ | .disable _ => True
  | .logger name _ => Addressable name

theorem not_mem_severity {c : Char} (hc : c.isDigit = false) (level : Level) :
    c ∉ (toString level.severity).toList := by
  rw [Level.toList_severity]
  intro hmem
  have hdigit := Text.isDigit_of_mem_toDigits hmem
  rw [hc] at hdigit
  cases hdigit

theorem toList_assignment (name : String) (level : Level) :
    (name ++ "=" ++ toString level.severity).toList =
      name.toList ++ '=' :: (toString level.severity).toList := by
  simp

theorem parse_toList_severity (level : Level) :
    Level.parse (String.ofList (toString level.severity).toList) = .ok level := by
  rw [String.ofList_toList]
  exact Level.parse_severity level

theorem trim_assignment {name : String} (hne : name ≠ "") (htight : Text.Tight name.toList)
    (level : Level) :
    Text.trim (name ++ "=" ++ toString level.severity).toList =
      name.toList ++ '=' :: (toString level.severity).toList := by
  have hname : name.toList ≠ [] := fun h => hne (String.toList_eq_nil_iff.mp h)
  have hdigits : (toString level.severity).toList ≠ [] := by
    rw [Level.toList_severity]
    exact Nat.toDigits_ne_nil
  have hall := Text.tight_append ['='] htight (Level.tight_severity level) hname hdigits
  rw [List.append_assoc, List.singleton_append] at hall
  rw [toList_assignment, hall.trim_eq]

theorem reads_spelling {directive : Directive} (h : directive.Writable) :
    Reads (Text.trim directive.spelling.toList) directive := by
  cases directive with
  | root level =>
      rw [spelling, (Level.tight_severity level).trim_eq]
      exact .root (not_mem_severity rfl level) (parse_toList_severity level)
  | disable level =>
      have htrim : Text.trim disableName.toList = disableName.toList := by decide
      rw [spelling, trim_assignment (by decide) (Text.trim_eq_iff.mp htrim).1]
      exact .disable (by decide) (by decide) (parse_toList_severity level)
  | logger name level =>
      have haddressable : Addressable name := h
      rw [spelling, trim_assignment haddressable.ne_empty haddressable.tight]
      refine .logger haddressable.no_sign ?_ haddressable.ne_empty haddressable.ne_disable
        (parse_toList_severity level)
      rw [haddressable.tight.trim_eq, String.ofList_toList]

theorem comma_not_mem_spelling {directive : Directive} (h : directive.Writable) :
    ',' ∉ directive.spelling.toList := by
  cases directive with
  | root level => exact not_mem_severity rfl level
  | disable level =>
      rw [spelling, toList_assignment, List.mem_append, List.mem_cons]
      rintro (hname | hsign | hlevel)
      · exact absurd hname (by decide)
      · exact absurd hsign (by decide)
      · exact not_mem_severity rfl level hlevel
  | logger name level =>
      have haddressable : Addressable name := h
      rw [spelling, toList_assignment, List.mem_append, List.mem_cons]
      rintro (hname | hsign | hlevel)
      · exact haddressable.no_comma hname
      · exact absurd hsign (by decide)
      · exact not_mem_severity rfl level hlevel

theorem Reads.writable {token : List Char} {directive : Directive} (hcomma : ',' ∉ token)
    (h : Reads (Text.trim token) directive) : directive.Writable := by
  generalize htext : Text.trim token = text at h
  cases h with
  | root => trivial
  | disable => trivial
  | @logger before after name level hbefore hname hne hother _ =>
      have hchars : ∀ c ∈ name.toList, c ∈ before := by
        intro c hc
        rw [← hname, String.toList_ofList] at hc
        exact Text.mem_of_mem_trim hc
      refine ⟨hne, ?_, ?_, ?_, hother⟩
      · rw [← hname, String.toList_ofList]
        exact Text.tight_trim before
      · intro hc
        apply hcomma
        apply Text.mem_of_mem_trim
        rw [htext]
        exact List.mem_append_left _ (hchars ',' hc)
      · exact fun hc => hbefore (hchars '=' hc)

end Directive

namespace Config

def directives (config : Config) : List Directive :=
  config.root.toList.map .root ++
    config.levels.entries.map (fun entry => .logger entry.1 entry.2) ++
    config.disable.toList.map .disable

/-- A configuration written as a list of directives. -/
def spelling (config : Config) : String :=
  ",".intercalate (config.directives.map Directive.spelling)

/-- A configuration that holds a level, and whose loggers can all be addressed. -/
structure Expressible (config : Config) : Prop where
  holdsLevel : config.root ≠ none ∨ config.disable ≠ none ∨ config.levels.names ≠ []
  addressable : ∀ name ∈ config.levels.names, Directive.Addressable name

theorem foldl_add_loggers (config : Config) (entries : List (String × Level)) :
    (entries.map fun entry => Directive.logger entry.1 entry.2).foldl add config =
      { config with
        levels := entries.foldl (fun levels entry => levels.insert entry.1 entry.2)
          config.levels } := by
  induction entries generalizing config with
  | nil => rfl
  | cons entry rest ih => rw [List.map_cons, List.foldl_cons, ih, List.foldl_cons, add]

theorem foldl_add_directives (config : Config) : config.directives.foldl add {} = config := by
  obtain ⟨root, levels, disable⟩ := config
  have hlevels : levels.entries.foldl (fun levels entry => levels.insert entry.1 entry.2) ∅ =
      levels := levels.foldl_insert_entries
  rw [directives, List.foldl_append, List.foldl_append, foldl_add_loggers]
  cases root <;> cases disable <;>
    simp only [Option.toList, List.map_nil, List.map_cons, List.foldl_nil, List.foldl_cons, add,
      hlevels]

theorem directives_ne_nil {config : Config}
    (h : config.root ≠ none ∨ config.disable ≠ none ∨ config.levels.names ≠ []) :
    config.directives ≠ [] := by
  intro hnil
  obtain ⟨hroot, hlevels, hdisable⟩ : config.root = none ∧ config.levels.entries = [] ∧
      config.disable = none := by
    simpa [directives] using hnil
  rcases h with h | h | h
  · exact h hroot
  · exact h hdisable
  · exact h (by rw [NameMap.names, hlevels, List.map_nil])

theorem Expressible.writable {config : Config} (h : config.Expressible) :
    ∀ directive ∈ config.directives, directive.Writable := by
  intro directive hmem
  rw [directives, List.mem_append, List.mem_append, List.mem_map, List.mem_map, List.mem_map]
    at hmem
  rcases hmem with (⟨level, -, rfl⟩ | ⟨entry, hentry, rfl⟩) | ⟨level, -, rfl⟩
  · trivial
  · exact h.addressable entry.1 (List.mem_map_of_mem hentry)
  · trivial

theorem Expressible.parse_spelling {config : Config} (h : config.Expressible) :
    parse config.spelling = .ok config := by
  have hwritable := h.writable
  have hpieces : Text.pieces ',' config.spelling.toList =
      config.directives.map fun directive => directive.spelling.toList := by
    rw [spelling, String.toList_intercalate, List.map_map]
    apply Text.pieces_intercalate
    · rw [ne_eq, List.map_eq_nil_iff]
      exact directives_ne_nil h.holdsLevel
    · intro part hpart
      obtain ⟨directive, hmem, rfl⟩ := List.mem_map.mp hpart
      exact Directive.comma_not_mem_spelling (hwritable directive hmem)
  refine parse_eq_ok_iff.mpr ⟨config.directives, ?_, foldl_add_directives config⟩
  rw [Spells, hpieces, List.forall₂_map_left_iff, List.forall₂_same]
  exact fun directive hmem => Directive.reads_spelling (hwritable directive hmem)

theorem Spells.writable {text : String} {directives : List Directive}
    (h : Spells text directives) : ∀ directive ∈ directives, directive.Writable := by
  have hcommas : ∀ token ∈ Text.pieces ',' text.toList, ',' ∉ token :=
    fun token => Text.not_mem_of_mem_pieces
  rw [Spells] at h
  generalize Text.pieces ',' text.toList = tokens at h hcommas
  induction h with
  | nil => exact List.forall_mem_nil _
  | cons hreads _ ih =>
      obtain ⟨hfirst, hrest⟩ := List.forall_mem_cons.mp hcommas
      exact List.forall_mem_cons.mpr ⟨hreads.writable hfirst, ih hrest⟩

theorem Spells.ne_nil {text : String} {directives : List Directive} (h : Spells text directives) :
    directives ≠ [] := by
  rintro rfl
  exact Text.pieces_ne_nil ',' text.toList (List.forall₂_nil_right_iff.mp h)

theorem holdsLevel_add (config : Config) (directive : Directive) :
    (config.add directive).root ≠ none ∨ (config.add directive).disable ≠ none ∨
      (config.add directive).levels.names ≠ [] := by
  cases directive with
  | root level => exact .inl nofun
  | disable level => exact .inr (.inl nofun)
  | logger name level =>
      refine .inr (.inr fun hnil => ?_)
      have hmem : name ∈ (config.add (.logger name level)).levels.names := by
        rw [add, NameMap.mem_names_iff, NameMap.contains, NameMap.get?_insert, if_pos rfl]
        rfl
      rw [hnil] at hmem
      exact List.not_mem_nil hmem

theorem expressible_foldl_add {directives : List Directive} (hne : directives ≠ [])
    (hwritable : ∀ directive ∈ directives, directive.Writable) :
    (directives.foldl add {}).Expressible where
  holdsLevel := by
    rw [← List.dropLast_append_getLast hne, List.foldl_append]
    exact holdsLevel_add _ _
  addressable := by
    intro name hname
    rw [NameMap.mem_names_iff, NameMap.contains, Option.isSome_iff_ne_none] at hname
    have hdirective : ∃ level, Directive.logger name level ∈ directives := by
      refine Classical.byContradiction fun hnone => hname ?_
      exact get?_levels_eq_none fun level hmem => hnone ⟨level, hmem⟩
    obtain ⟨level, hmem⟩ := hdirective
    exact hwritable _ hmem

/-- The configurations for which there is a list of directives are those that hold a level and whose
loggers have names that a directive can address. Each of them is what is read from its own levels,
written in decimal digits behind the names and joined by commas. -/
theorem expressible_configs_are_their_spellings (config : Config) :
    ((∃ text, parse text = .ok config) ↔ config.Expressible) ∧
      (parse config.spelling = .ok config ↔ config.Expressible) := by
  have hread : ∀ text, parse text = .ok config → config.Expressible := by
    intro text hparse
    obtain ⟨directives, hspells, rfl⟩ := parse_eq_ok_iff.mp hparse
    exact expressible_foldl_add hspells.ne_nil hspells.writable
  constructor
  · constructor
    · rintro ⟨text, hparse⟩
      exact hread text hparse
    · intro h
      exact ⟨config.spelling, h.parse_spelling⟩
  · exact ⟨hread config.spelling, Expressible.parse_spelling⟩

/-- A name may look like a level or have blanks inside. -/
example :
    spelling {
      root := some .warning
      levels := NameMap.insert (NameMap.insert ∅ "+5" .info) "a b" .debug } =
        "30,+5=20,a b=10" := by
  decide

end Config

end LogTree
