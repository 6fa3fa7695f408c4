import LogTree.Config.Amendment
import LogTree.Proofs.DirectiveReadings
import LogTree.Proofs.LevelSpellings

namespace LogTree

theorem Text.cutFirst?_eq_ite (separator : Char) (cs : List Char) :
    cutFirst? separator cs =
      if separator ∈ cs then
        some (cs.takeWhile (· ≠ separator), (cs.dropWhile (· ≠ separator)).tail)
      else none := by
  induction cs with
  | nil => rfl
  | cons c rest ih =>
      rw [cutFirst?]
      by_cases hc : c = separator
      · simp [hc]
      · simp only [hc, Ne.symm hc, ih, if_false, List.mem_cons, false_or]
        split <;> simp [hc]

inductive Place where
  | root
  | logger (name : String)
  | disable
deriving DecidableEq

/-- The directive that gives a place its level. -/
def Directive.setting (level : Level) : Place → Directive
  | .root => .root level
  | .logger name => .logger name level
  | .disable => .disable level

namespace Config

def read (config : Config) : Place → Option Level
  | .root => config.root
  | .logger name => config.levels.get? name
  | .disable => config.disable

theorem read_add_setting (config : Config) (level : Level) (place other : Place) :
    (config.add (Directive.setting level place)).read other =
      if other = place then some level else config.read other := by
  cases place with
  | root => cases other <;> rfl
  | disable => cases other <;> rfl
  | logger name =>
      cases other with
      | root => rfl
      | disable => rfl
      | logger held =>
          simp only [Place.logger.injEq]
          exact NameMap.get?_insert config.levels name held level

end Config

namespace Directive

/-- Something is to be given a level, but nothing stands before the sign. -/
def Nameless (token : List Char) : Prop :=
  ∃ before after, token = before ++ '=' :: after ∧ Text.Blank before

def nameText (text : List Char) : String :=
  String.ofList (Text.trim (text.takeWhile (· ≠ '=')))

/-- What stands for the level: all that follows the first sign, or the whole text if there is
none. -/
def levelText (text : List Char) : String :=
  String.ofList (if '=' ∈ text then (text.dropWhile (· ≠ '=')).tail else text)

/-- The place to which a text gives a level. -/
def placeOf (text : List Char) : Place :=
  if '=' ∈ text then
    if nameText text = disableName then .disable else .logger (nameText text)
  else .root

theorem not_blank_of_mem {token : List Char} (h : '=' ∈ token) : ¬Text.Blank token :=
  fun hblank => Text.not_mem_of_blank hblank rfl h

theorem Nameless.mem {token : List Char} (h : Nameless token) : '=' ∈ token := by
  obtain ⟨before, after, rfl, -⟩ := h
  exact List.mem_append_right _ List.mem_cons_self

theorem nameless_iff_of_padded {token before after : List Char}
    (hpadded : Text.Padded (before ++ '=' :: after) token) (hbefore : '=' ∉ before) :
    Nameless token ↔ Text.Blank before := by
  obtain ⟨left, right, hleft, hright, rfl⟩ := hpadded
  have htoken : left ++ (before ++ '=' :: after) ++ right =
      (left ++ before) ++ '=' :: (after ++ right) := by
    simp only [List.append_assoc, List.cons_append]
  rw [htoken]
  constructor
  · rintro ⟨first, rest, heq, hfirst⟩
    -- The first sign of a text is in one place only.
    have hcut := Text.cutFirst?_eq_some_iff.mpr ⟨heq, Text.not_mem_of_blank hfirst rfl⟩
    have hhere : Text.cutFirst? '=' ((left ++ before) ++ '=' :: (after ++ right)) =
        some (left ++ before, after ++ right) := by
      apply Text.cutFirst?_eq_some_iff.mpr
      refine ⟨rfl, fun hmem => ?_⟩
      rcases List.mem_append.mp hmem with hmem | hmem
      · exact Text.not_mem_of_blank hleft rfl hmem
      · exact hbefore hmem
    rw [hhere] at hcut
    cases hcut
    exact (Text.blank_append_iff.mp hfirst).2
  · intro hblank
    exact ⟨_, _, rfl, Text.blank_append_iff.mpr ⟨hleft, hblank⟩⟩

/-- What becomes of a token, as far as its text decides: one fault hides all that are named after
it. -/
inductive Judged (token : List Char) : Except DirectiveError Directive → Prop where
  | blank (hblank : Text.Blank token) : Judged token (.error .empty)
  | nameless (hnameless : Nameless token) :
      Judged token (.error (.missingName (String.ofList (Text.trim token))))
  | noLevel (hfull : ¬Text.Blank token) (hnamed : ¬Nameless token)
      (hlevel : ∀ level, Level.parse (levelText (Text.trim token)) ≠ .ok level) :
      Judged token (.error (.invalidLevel (String.ofList (Text.trim token))
        { input := levelText (Text.trim token) }))
  | accepted {level : Level} (hfull : ¬Text.Blank token) (hnamed : ¬Nameless token)
      (hlevel : Level.parse (levelText (Text.trim token)) = .ok level) :
      Judged token (.ok (setting level (placeOf (Text.trim token))))

theorem judged_of_error {token : List Char} {cause : LevelError} (hfull : ¬Text.Blank token)
    (hnamed : ¬Nameless token)
    (hlevel : Level.parse (levelText (Text.trim token)) = .error cause) :
    Judged token (.error (.invalidLevel (String.ofList (Text.trim token)) cause)) := by
  obtain ⟨rfl, hnone⟩ := Level.parse_eq_error_iff.mp hlevel
  exact .noLevel hfull hnamed hnone

theorem setting_placeOf_of_mem {text : List Char} (h : '=' ∈ text) (level : Level) :
    setting level (placeOf text) =
      if nameText text = disableName then .disable level else .logger (nameText text) level := by
  rw [placeOf, if_pos h]
  split <;> rfl

theorem judged_parse (token : String) : Judged token.toList (parse token) := by
  rw [parse, parseTrimmed, Text.cutFirst?_eq_ite]
  by_cases hblank : Text.trim token.toList = []
  · simp only [if_pos hblank]
    exact .blank (Text.trim_eq_nil_iff.mp hblank)
  have hfull : ¬Text.Blank token.toList := mt Text.trim_eq_nil_iff.mpr hblank
  by_cases hsign : '=' ∈ Text.trim token.toList
  · have hcut := Text.cutFirst?_eq_ite '=' (Text.trim token.toList)
    rw [if_pos hsign, Text.cutFirst?_eq_some_iff] at hcut
    have hpadded := Text.padded_trim token.toList
    rw [hcut.1] at hpadded
    have hnameless := nameless_iff_of_padded hpadded hcut.2
    simp only [if_neg hblank, if_pos hsign]
    split
    · next hname =>
        rw [String.ofList_eq_empty_iff, Text.trim_eq_nil_iff] at hname
        exact .nameless (hnameless.mpr hname)
    · next hname =>
        rw [String.ofList_eq_empty_iff, Text.trim_eq_nil_iff] at hname
        have hnamed := mt hnameless.mp hname
        have htext : levelText (Text.trim token.toList) =
            String.ofList ((Text.trim token.toList).dropWhile (· ≠ '=')).tail := by
          rw [levelText, if_pos hsign]
        split
        · next cause hlevel => exact judged_of_error hfull hnamed (htext ▸ hlevel)
        · next level hlevel =>
            have haccepted := Judged.accepted hfull hnamed (htext ▸ hlevel)
            rwa [setting_placeOf_of_mem hsign] at haccepted
  · have hnamed : ¬Nameless token.toList := fun h => hsign ((Text.mem_trim_iff rfl).mpr h.mem)
    have htext : levelText (Text.trim token.toList) = String.ofList (Text.trim token.toList) := by
      rw [levelText, if_neg hsign]
    simp only [if_neg hblank, if_neg hsign]
    split
    · next cause hlevel => exact judged_of_error hfull hnamed (htext ▸ hlevel)
    · next level hlevel =>
        have haccepted := Judged.accepted hfull hnamed (htext ▸ hlevel)
        rwa [placeOf, if_neg hsign] at haccepted

section

variable {token : List Char} {result : Except DirectiveError Directive} (h : Judged token result)

include h

theorem Judged.empty_iff : result = .error .empty ↔ Text.Blank token := by
  cases h with
  | blank hblank => exact iff_of_true rfl hblank
  | nameless hnameless => exact iff_of_false nofun (not_blank_of_mem hnameless.mem)
  | noLevel hfull => exact iff_of_false nofun hfull
  | accepted hfull => exact iff_of_false nofun hfull

theorem Judged.missingName_iff {shown : String} :
    result = .error (.missingName shown) ↔
      Nameless token ∧ shown = String.ofList (Text.trim token) := by
  cases h with
  | blank hblank => exact iff_of_false nofun fun hright => not_blank_of_mem hright.1.mem hblank
  | nameless hnameless =>
      rw [and_iff_right hnameless, Except.error.injEq, DirectiveError.missingName.injEq]
      exact eq_comm
  | noLevel hfull hnamed => exact iff_of_false nofun fun hright => hnamed hright.1
  | accepted hfull hnamed => exact iff_of_false nofun fun hright => hnamed hright.1

theorem Judged.invalidLevel_iff {shown : String} {cause : LevelError} :
    result = .error (.invalidLevel shown cause) ↔
      (¬Text.Blank token ∧ ¬Nameless token ∧
          ∀ level, Level.parse (levelText (Text.trim token)) ≠ .ok level) ∧
        shown = String.ofList (Text.trim token) ∧
        cause = { input := levelText (Text.trim token) } := by
  cases h with
  | blank hblank => exact iff_of_false nofun fun hright => hright.1.1 hblank
  | nameless hnameless => exact iff_of_false nofun fun hright => hright.1.2.1 hnameless
  | noLevel hfull hnamed hlevel =>
      rw [and_iff_right ⟨hfull, hnamed, hlevel⟩, Except.error.injEq,
        DirectiveError.invalidLevel.injEq]
      exact and_congr eq_comm eq_comm
  | accepted hfull hnamed hlevel => exact iff_of_false nofun fun hright => hright.1.2.2 _ hlevel

theorem Judged.ok_iff {directive : Directive} :
    result = .ok directive ↔
      (¬Text.Blank token ∧ ¬Nameless token) ∧
        ∃ level, Level.parse (levelText (Text.trim token)) = .ok level ∧
          directive = setting level (placeOf (Text.trim token)) := by
  cases h with
  | blank hblank => exact iff_of_false nofun fun hright => hright.1.1 hblank
  | nameless hnameless => exact iff_of_false nofun fun hright => hright.1.2 hnameless
  | noLevel hfull hnamed hlevel =>
      refine iff_of_false nofun ?_
      rintro ⟨-, level, hlevel', -⟩
      exact hlevel level hlevel'
  | accepted hfull hnamed hlevel =>
      rw [and_iff_right ⟨hfull, hnamed⟩, hlevel]
      constructor
      · intro heq
        cases heq
        exact ⟨_, rfl, rfl⟩
      · rintro ⟨level, heq, rfl⟩
        cases heq
        rfl

end

end Directive

namespace Config

namespace Amendment

theorem run_readLevel_bind {α : Type} (directive level : List Char) (next : Level → Amendment α)
    (config : Config) :
    (readLevel directive level >>= next) config =
      match Level.parse (String.ofList level) with
      | .error cause => .error (.invalidLevel (String.ofList directive) cause) config
      | .ok level => next level config := by
  change EStateM.bind (readLevel directive level) next config = _
  rw [readLevel, EStateM.bind]
  cases Level.parse (String.ofList level) <;> rfl

theorem run_carryOut (token : String) (config : Config) :
    carryOut token config =
      match Directive.parse token with
      | .error e => .error e config
      | .ok directive => .ok () (config.add directive) := by
  rw [Directive.parse, Directive.parseTrimmed, carryOut]
  generalize Text.trim token.toList = text
  by_cases htext : text = []
  · rw [if_pos htext, if_pos htext]
    rfl
  · simp only [if_neg htext]
    rcases Text.cutFirst? '=' text with _ | ⟨before, after⟩
    · refine (run_readLevel_bind _ _ _ config).trans ?_
      cases Level.parse (String.ofList text) <;> rfl
    · by_cases hname : String.ofList (Text.trim before) = ""
      · simp only [if_pos hname]
        rfl
      · simp only [if_neg hname]
        refine (run_readLevel_bind _ _ _ config).trans ?_
        cases Level.parse (String.ofList after) with
        | error cause => rfl
        | ok level =>
            by_cases hdisable : String.ofList (Text.trim before) = Directive.disableName
            · simp only [if_pos hdisable]
              rfl
            · simp only [if_neg hdisable]
              rfl

end Amendment

theorem run_amend (token : String) (config : Config) :
    (amend token).run config =
      match Directive.parse token with
      | .error e => (some e, config)
      | .ok directive => (none, config.add directive) := by
  rw [StateT.run, amend, Amendment.run_carryOut]
  cases Directive.parse token <;> rfl

/-- A configuration is amended in place as it is when directives are added to it one by one. -/
theorem run_amend_eq_none_iff {token : String} {config amended : Config} :
    (amend token).run config = (none, amended) ↔ config.addToken token = .ok amended := by
  rw [run_amend, addToken]
  cases Directive.parse token with
  | error e =>
      constructor <;> intro h
      · cases (Prod.mk.inj h).1
      · cases h
  | ok directive =>
      rw [Except.map, Except.ok.injEq]
      constructor
      · intro h
        exact (Prod.mk.inj h).2
      · rintro rfl
        rfl

/-- Why a token is refused by the configuration that holds nothing. -/
def verdict? (token : String) : Option DirectiveError :=
  ((amend token).run {}).1

theorem verdict?_eq_some_iff {token : String} {e : DirectiveError} :
    verdict? token = some e ↔ Directive.parse token = .error e := by
  rw [verdict?, run_amend]
  cases Directive.parse token <;> simp

theorem verdict?_eq_none_iff {token : String} :
    verdict? token = none ↔ ∃ directive, Directive.parse token = .ok directive := by
  rw [verdict?, run_amend]
  cases Directive.parse token <;> simp

theorem fst_amend (token : String) (config : Config) :
    ((amend token).run config).1 = verdict? token := by
  rw [verdict?, run_amend, run_amend]
  cases Directive.parse token <;> rfl

theorem snd_amend_of_refused {token : String} (h : verdict? token ≠ none) (config : Config) :
    ((amend token).run config).2 = config := by
  rw [run_amend]
  cases hparse : Directive.parse token with
  | error e => rfl
  | ok directive => exact absurd (verdict?_eq_none_iff.mpr ⟨directive, hparse⟩) h

theorem run_amendAll_cons (token : String) (rest : List String) (config : Config) :
    (amendAll (token :: rest)).run config =
      (verdict? token :: ((amendAll rest).run ((amend token).run config).2).1,
        ((amendAll rest).run ((amend token).run config).2).2) := by
  rw [← fst_amend token config, amendAll, List.mapM_cons]
  rfl

theorem fst_amendAll (tokens : List String) (config : Config) :
    ((amendAll tokens).run config).1 = tokens.map verdict? := by
  induction tokens generalizing config with
  | nil => rfl
  | cons token rest ih => rw [run_amendAll_cons, ih, List.map_cons]

theorem snd_amendAll (tokens : List String) (config : Config) :
    ((amendAll tokens).run config).2 =
      ((amendAll (tokens.filter fun token => verdict? token = none)).run config).2 := by
  induction tokens generalizing config with
  | nil => rfl
  | cons token rest ih =>
      rw [run_amendAll_cons, ih, List.filter_cons]
      by_cases haccepted : verdict? token = none
      · rw [if_pos (decide_eq_true haccepted), run_amendAll_cons]
      · rw [if_neg (by simpa using haccepted), snd_amend_of_refused haccepted]

theorem read_amend (token : String) (config : Config) (place : Place) :
    ((amend token).run config).2.read place =
      if verdict? token = none ∧ place = Directive.placeOf (Text.trim token.toList) then
        (Level.parse (Directive.levelText (Text.trim token.toList))).toOption
      else config.read place := by
  by_cases haccepted : verdict? token = none
  · obtain ⟨directive, hparse⟩ := verdict?_eq_none_iff.mp haccepted
    obtain ⟨-, level, hlevel, rfl⟩ := (Directive.judged_parse token).ok_iff.mp hparse
    rw [run_amend, hparse, read_add_setting, hlevel]
    simp only [haccepted, true_and]
    rfl
  · rw [snd_amend_of_refused haccepted, if_neg fun h => haccepted h.1]

/-- When tokens are carried out one after another, those that are refused might as well have been
left out, and whether one is refused does not depend on the configuration. It is refused if it is
blank; or else if nothing but blanks stands before its first sign, whatever follows; or else if no
level can be read behind that sign, or from all of it if there is no sign. The error shows the token
without the blanks around it and what was to be read as a level. A token that is not refused sets
one place of the configuration and leaves all others as they are. -/
theorem refused_directives_change_nothing (config : Config) (tokens : List String) :
    ((amendAll tokens).run config).1 = tokens.map verdict? ∧
      ((amendAll tokens).run config).2 =
        ((amendAll (tokens.filter fun token => verdict? token = none)).run config).2 ∧
      ∀ token : String,
        let text := Text.trim token.toList
        (verdict? token = some .empty ↔ Text.Blank token.toList) ∧
          (∀ shown, verdict? token = some (.missingName shown) ↔
            Directive.Nameless token.toList ∧ shown = String.ofList text) ∧
          (∀ shown cause, verdict? token = some (.invalidLevel shown cause) ↔
            (¬Text.Blank token.toList ∧ ¬Directive.Nameless token.toList ∧
                ∀ level, Level.parse (Directive.levelText text) ≠ .ok level) ∧
              shown = String.ofList text ∧ cause = { input := Directive.levelText text }) ∧
          (verdict? token = none ↔
            (¬Text.Blank token.toList ∧ ¬Directive.Nameless token.toList) ∧
              ∃ level, Level.parse (Directive.levelText text) = .ok level) ∧
          ∀ place, ((amend token).run config).2.read place =
            if verdict? token = none ∧ place = Directive.placeOf text then
              (Level.parse (Directive.levelText text)).toOption
            else config.read place := by
  refine ⟨fst_amendAll tokens config, snd_amendAll tokens config, fun token => ?_⟩
  have hjudged := Directive.judged_parse token
  refine ⟨?_, fun shown => ?_, fun shown cause => ?_, ?_, read_amend token config⟩
  · rw [verdict?_eq_some_iff, hjudged.empty_iff]
  · rw [verdict?_eq_some_iff, hjudged.missingName_iff]
  · rw [verdict?_eq_some_iff, hjudged.invalidLevel_iff]
  · rw [verdict?_eq_none_iff]
    simp only [hjudged.ok_iff]
    constructor
    · rintro ⟨directive, hfaultless, level, hlevel, -⟩
      exact ⟨hfaultless, level, hlevel⟩
    · rintro ⟨hfaultless, level, hlevel⟩
      exact ⟨_, hfaultless, level, hlevel, rfl⟩

/-- A name that is missing is noticed before a level that is none. -/
example : verdict? " = loud" = some (.missingName "= loud") := by
  decide

end Config

end LogTree
