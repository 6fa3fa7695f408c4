import LogTree.NameMap.Lemmas
import LogTree.Proofs.LevelTexts
import LogTree.Text.Utf8.Order

namespace LogTree

theorem Json.entries_members {fields : List (String × Json)}
    (h : fields.Pairwise fun a b => a.1 < b.1) : (members fields).entries = fields :=
  NameMap.entries_foldl_insert ∅ h

namespace Level

def firstUnnamed? (levels : List Level) : Option Level :=
  levels.find? fun level => level.severity ∉ [0, 10, 20, 30, 40, 50]

theorem firstUnnamed?_append (first second : List Level) :
    firstUnnamed? (first ++ second) = (firstUnnamed? first).or (firstUnnamed? second) :=
  List.find?_append

theorem firstUnnamed?_eq_none_iff {levels : List Level} :
    firstUnnamed? levels = none ↔
      ∀ level ∈ levels, level.severity ∈ [0, 10, 20, 30, 40, 50] := by
  rw [firstUnnamed?, List.find?_eq_none]
  simp only [decide_eq_true_eq, Decidable.not_not]

theorem unnamed_of_firstUnnamed? {levels : List Level} {level : Level}
    (h : firstUnnamed? levels = some level) : level.Unnamed := by
  have hlevel := List.find?_some h
  exact unnamed_iff.mpr (of_decide_eq_true hlevel)

/-- What decoding comes to if a level without a name may be in the way: its text is refused. -/
def refuse {α : Type} (value : α) : Option Level → Except DecodeError α
  | none => .ok value
  | some level => .error (.level { input := level.text })

@[simp] theorem map_refuse {α β : Type} (f : α → β) (value : α) (unnamed : Option Level) :
    (refuse value unnamed).map f = refuse (f value) unnamed := by
  rcases unnamed with _ | level <;> rfl

theorem refuse_bind {α β : Type} {value : α} {next : α → Except DecodeError β} {result : β}
    {second : Option Level} (hnext : next value = refuse result second) (first : Option Level) :
    (refuse value first >>= next) = refuse result (first.or second) := by
  rcases first with _ | level
  · exact hnext
  · rfl

theorem ofJson_toJson_eq_refuse (level : Level) :
    ofJson level.toJson = refuse level (firstUnnamed? [level]) := by
  rw [ofJson_toJson]
  by_cases h : level.Unnamed
  · have hsome : firstUnnamed? [level] = some level := by
      simpa [firstUnnamed?] using unnamed_iff.mp h
    rw [if_pos h, hsome, refuse]
  · have hnone : firstUnnamed? [level] = none := by
      simpa [firstUnnamed?, unnamed_iff] using h
    rw [if_neg h, hnone, refuse]

theorem optionalOfJson_toJson (level? : Option Level) :
    optionalOfJson (Config.optionalLevelToJson level?) =
      refuse level? (firstUnnamed? level?.toList) := by
  rcases level? with _ | level
  · rfl
  · have hjson : optionalOfJson level.toJson = (ofJson level.toJson).map some := rfl
    rw [Config.optionalLevelToJson, hjson, ofJson_toJson_eq_refuse, map_refuse,
      Option.toList_some]

end Level

namespace Config

open Level (firstUnnamed? refuse)

theorem levelsOfJson_toJson (levels : NameMap Level) :
    levelsOfJson (.object (levels.entries.map fun entry => (entry.1, entry.2.toJson))) =
      refuse levels (firstUnnamed? (levels.entries.map Prod.snd)) := by
  have hmembers :
      (Json.members (levels.entries.map fun entry => (entry.1, entry.2.toJson))).entries =
        levels.entries.map fun entry => (entry.1, entry.2.toJson) :=
    Json.entries_members (List.pairwise_map.mpr levels.ascending)
  have hdecode : ∀ (entries : List (String × Level)) (held : NameMap Level),
      (entries.map fun entry => (entry.1, entry.2.toJson)).foldlM
          (fun levels entry => (Level.ofJson entry.2).map (levels.insert entry.1)) held =
        refuse (entries.foldl (fun map entry => map.insert entry.1 entry.2) held)
          (firstUnnamed? (entries.map Prod.snd)) := by
    intro entries
    induction entries with
    | nil => exact fun _ => rfl
    | cons entry rest ih =>
        intro held
        have hfirst := Level.firstUnnamed?_append [entry.2] (rest.map Prod.snd)
        rw [List.singleton_append] at hfirst
        rw [List.map_cons, List.foldlM_cons, Level.ofJson_toJson_eq_refuse, Level.map_refuse,
          List.map_cons, hfirst]
        refine Level.refuse_bind ?_ _
        exact ih _
  rw [levelsOfJson, hmembers, hdecode, NameMap.foldl_insert_entries]

/-- The levels of a configuration in the order in which they are decoded: that of the names of the
three members, and within the levels of the named loggers that of the loggers' names. -/
def writtenLevels (config : Config) : List Level :=
  config.disable.toList ++ config.levels.entries.map Prod.snd ++ config.root.toList

theorem members_ascending (disable levels root : Json) :
    [("disable", disable), ("levels", levels), ("root", root)].Pairwise fun a b => a.1 < b.1 := by
  have hnames : ([("disable", disable), ("levels", levels), ("root", root)].map
      Prod.fst).Pairwise (· < ·) := by
    simp only [List.map_cons, List.map_nil]
    decide
  exact List.pairwise_map.mp hnames

theorem ofJson_toJson (config : Config) :
    ofJson config.toJson = refuse config (firstUnnamed? config.writtenLevels) := by
  have hmembers : (Json.members [("disable", optionalLevelToJson config.disable),
      ("levels", .object (config.levels.entries.map fun entry => (entry.1, entry.2.toJson))),
      ("root", optionalLevelToJson config.root)]).entries = _ :=
    Json.entries_members (members_ascending _ _ _)
  have hdisable : addMember {} ("disable", optionalLevelToJson config.disable) =
      refuse { disable := config.disable } (firstUnnamed? config.disable.toList) := by
    change (Level.optionalOfJson _).map _ = _
    rw [Level.optionalOfJson_toJson, Level.map_refuse]
  have hlevels : addMember { disable := config.disable }
      ("levels", .object (config.levels.entries.map fun entry => (entry.1, entry.2.toJson))) =
        refuse { levels := config.levels, disable := config.disable }
          (firstUnnamed? (config.levels.entries.map Prod.snd)) := by
    change (levelsOfJson _).map _ = _
    rw [levelsOfJson_toJson, Level.map_refuse]
  have hroot : addMember { levels := config.levels, disable := config.disable }
      ("root", optionalLevelToJson config.root) =
        refuse config (firstUnnamed? config.root.toList) := by
    change (Level.optionalOfJson _).map _ = _
    rw [Level.optionalOfJson_toJson, Level.map_refuse]
  rw [toJson, ofJson, hmembers, writtenLevels, List.append_assoc, Level.firstUnnamed?_append,
    Level.firstUnnamed?_append]
  simp only [List.foldlM_cons, List.foldlM_nil, bind_pure, hdisable]
  refine Level.refuse_bind ?_ _
  rw [hlevels]
  refine Level.refuse_bind ?_ _
  exact hroot

/-- A configuration reads back from the document it is written as exactly if each of its levels has
a name. Else the first level without a name is refused: that of the suppression threshold, then
those of the named loggers in the order of the octets of their names, then that of the root. -/
theorem configs_read_back_from_documents (config : Config) :
    (ofJson config.toJson = .ok config ↔
        ∀ level ∈ config.writtenLevels, level.severity ∈ [0, 10, 20, 30, 40, 50]) ∧
      (ofJson config.toJson).mapError DecodeError.message =
        (match config.writtenLevels.find? fun level =>
            level.severity ∉ [0, 10, 20, 30, 40, 50] with
          | none => .ok config
          | some level =>
              .error ("unknown log level: \"Level " ++ toString level.severity ++ "\"")) ∧
      config.levels.entries.Pairwise fun entry later =>
        Text.Utf8.encode entry.1 < Text.Utf8.encode later.1 := by
  refine ⟨?_, ?_, config.levels.ascending.imp Text.Utf8.encode_lt_encode⟩
  · rw [ofJson_toJson, ← Level.firstUnnamed?_eq_none_iff]
    rcases firstUnnamed? config.writtenLevels with _ | level
    · simp [refuse]
    · simp [refuse]
  · rw [ofJson_toJson]
    change _ = match firstUnnamed? config.writtenLevels with | none => _ | some level => _
    rcases hfirst : firstUnnamed? config.writtenLevels with _ | level
    · rfl
    · exact congrArg Except.error (Level.unnamed_of_firstUnnamed? hfirst).message_eq

end Config

end LogTree
