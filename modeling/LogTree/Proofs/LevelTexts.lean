import LogTree.Config.Json

namespace LogTree

namespace Text

section

variable {c : Char} (h : c.isDigit = true)

include h

theorem code_of_isDigit : 48 ≤ c.toNat ∧ c.toNat ≤ 57 := by
  rw [Char.isDigit, Bool.and_eq_true, decide_eq_true_eq, decide_eq_true_eq] at h
  exact ⟨h.1, h.2⟩

theorem isBlank_of_isDigit : isBlank c = false := by
  have hcode := code_of_isDigit h
  simp only [isBlank, Bool.or_eq_false_iff, Bool.and_eq_false_iff, decide_eq_false_iff_not,
    beq_eq_false_iff_ne]
  omega

theorem isUpper_of_isDigit : c.isUpper = false := by
  have hcode := code_of_isDigit h
  apply decide_eq_false
  intro hupper
  have hleast : 65 ≤ c.toNat := hupper.1
  omega

theorem toUpper_of_isDigit : c.toUpper = c := by
  have hcode := code_of_isDigit h
  refine dif_neg ?_
  intro hlower
  have hleast : 97 ≤ c.toNat := hlower.1
  omega

theorem escape_of_isDigit : escape c = [c] := by
  have hcode := code_of_isDigit h
  refine escape_of_printable (by omega) ?_ ?_
  · rintro rfl
    exact absurd h (by decide)
  · rintro rfl
    exact absurd h (by decide)

end

theorem isDigit_of_mem_toDigits {n : Nat} {c : Char} (h : c ∈ Nat.toDigits 10 n) :
    c.isDigit = true :=
  Nat.isDigit_of_mem_toDigits (by decide) (by decide) h

end Text

namespace Level

/-- A level that has no name stands between the named ones or above them. -/
def Unnamed (level : Level) : Prop :=
  level.name? = none

instance : DecidablePred Unnamed :=
  fun level => inferInstanceAs (Decidable (level.name? = none))

theorem unnamed_iff {level : Level} :
    level.Unnamed ↔ level.severity ∉ [0, 10, 20, 30, 40, 50] := by
  unfold Unnamed name?
  split <;> simp_all

theorem text_of_name? {level : Level} {name : String} (h : level.name? = some name) :
    level.text = name := by
  rw [text, h]

theorem Unnamed.text_eq {level : Level} (h : level.Unnamed) :
    level.text = "Level " ++ toString level.severity := by
  rw [text, h]

theorem Unnamed.toList_text {level : Level} (h : level.Unnamed) :
    level.text.toList = "Level ".toList ++ Nat.toDigits 10 level.severity := by
  rw [h.text_eq, String.toList_append]
  exact congrArg _ Nat.toList_repr

theorem lookup_words_eq_none {cs : List Char} {c : Char} (hmem : c ∈ cs)
    (h : c.isUpper = false) : words.lookup (String.ofList cs) = none := by
  have hwords : ∀ entry ∈ words, entry.1.toList.all Char.isUpper = true := by decide
  rw [List.lookup_eq_none_iff]
  intro entry hentry
  rw [bne_iff_ne]
  intro heq
  have hletters := hwords entry hentry
  rw [← heq, String.toList_ofList] at hletters
  have hc := List.all_eq_true.mp hletters c hmem
  rw [h] at hc
  cases hc

theorem lookup_of_mem_words : ∀ entry ∈ words, words.lookup entry.1 = some entry.2 := by
  decide

theorem parse_word {word : String} {level : Level} (h : (word, level) ∈ words) :
    parse word = .ok level := by
  have hupper : ∀ entry ∈ words,
      Text.upperAscii (Text.trim entry.1.toList) = entry.1.toList := by decide
  simp only [parse, hupper _ h, String.ofList_toList, lookup_of_mem_words _ h]

/-- A text that still has a space in it when the blanks around it are gone stands for no level. -/
theorem parse_of_space_mem {input : String} (h : ' ' ∈ Text.trim input.toList) :
    parse input = .error { input } := by
  have hspace : ' ' ∈ Text.upperAscii (Text.trim input.toList) :=
    List.mem_map.mpr ⟨' ', h, rfl⟩
  have hnumber := Text.readNumber?_eq_none hspace rfl (by decide)
  simp only [parse, lookup_words_eq_none hspace rfl, hnumber, Option.bind_none]

theorem ofNat?_severity (level : Level) : ofNat? level.severity = some level :=
  dif_pos level.severity_lt

theorem toList_severity (level : Level) :
    (toString level.severity).toList = Nat.toDigits 10 level.severity :=
  Nat.toList_repr

theorem trim_severity (level : Level) :
    Text.trim (toString level.severity).toList = Nat.toDigits 10 level.severity := by
  rw [toList_severity]
  apply Text.trim_eq_self
  · intro c hfirst
    exact Text.isBlank_of_isDigit (Text.isDigit_of_mem_toDigits (List.mem_of_head? hfirst))
  · intro c hlast
    exact Text.isBlank_of_isDigit (Text.isDigit_of_mem_toDigits (List.mem_of_getLast? hlast))

theorem parse_severity (level : Level) : parse (toString level.severity) = .ok level := by
  have hupper : Text.upperAscii (Nat.toDigits 10 level.severity) =
      Nat.toDigits 10 level.severity := by
    have hsame := List.map_congr_left fun c (hc : c ∈ Nat.toDigits 10 level.severity) =>
      Text.toUpper_of_isDigit (Text.isDigit_of_mem_toDigits hc)
    exact hsame.trans (List.map_id' _)
  have hword : words.lookup (String.ofList (Nat.toDigits 10 level.severity)) = none := by
    obtain ⟨c, hc⟩ := List.exists_mem_of_ne_nil (Nat.toDigits 10 level.severity)
      Nat.toDigits_ne_nil
    exact lookup_words_eq_none hc (Text.isUpper_of_isDigit (Text.isDigit_of_mem_toDigits hc))
  simp only [parse, trim_severity, hupper, hword, Text.readNumber?_toDigits, Option.bind_some,
    ofNat?_severity]

theorem mem_words_of_name? {level : Level} {name : String} (h : level.name? = some name) :
    (name, level) ∈ words := by
  obtain ⟨severity, hseverity⟩ := level
  unfold name? at h
  split at h
  all_goals simp_all [words, notset, debug, info, warning, error, critical]

theorem parse_text (level : Level) :
    parse level.text = if level.Unnamed then .error { input := level.text } else .ok level := by
  split
  · next hunnamed =>
      apply parse_of_space_mem
      -- The trimmed text is the text itself: it begins with a letter and ends with a digit.
      rw [hunnamed.toList_text, Text.trim_eq_self]
      · exact List.mem_append_left _ (by decide)
      · intro c hfirst
        obtain rfl : 'L' = c := by simpa using hfirst
        rfl
      · intro c hlast
        rw [List.getLast?_append,
          Option.or_of_isSome (List.getLast?_isSome.mpr Nat.toDigits_ne_nil)] at hlast
        exact Text.isBlank_of_isDigit (Text.isDigit_of_mem_toDigits (List.mem_of_getLast? hlast))
  · next hnamed =>
      obtain ⟨name, hname⟩ := Option.ne_none_iff_exists'.mp hnamed
      rw [text_of_name? hname]
      exact parse_word (mem_words_of_name? hname)

theorem ofJson_toJson (level : Level) :
    ofJson level.toJson =
      if level.Unnamed then .error (.level { input := level.text }) else .ok level := by
  have hjson : ofJson level.toJson = (parse level.text).mapError .level := rfl
  rw [hjson, parse_text]
  split <;> rfl

theorem Unnamed.message_eq {level : Level} (h : level.Unnamed) :
    LevelError.message { input := level.text } =
      "unknown log level: \"Level " ++ toString level.severity ++ "\"" := by
  have hquote : Text.quote level.text = "\"" ++ level.text ++ "\"" := by
    apply Text.quote_eq_self
    intro c hc
    rw [h.toList_text, List.mem_append] at hc
    rcases hc with hletter | hdigit
    · have hletters : ∀ c ∈ "Level ".toList,
          (0x20 ≤ c.toNat ∧ c.toNat < 0x7f) ∧ c ≠ '"' ∧ c ≠ '\\' := by simp
      obtain ⟨hcode, hquote, hbackslash⟩ := hletters c hletter
      exact Text.escape_of_printable hcode hquote hbackslash
    · exact Text.escape_of_isDigit (Text.isDigit_of_mem_toDigits hdigit)
  have hmessage : LevelError.message { input := level.text } =
      "unknown log level: " ++ Text.quote level.text := rfl
  have hstart : "unknown log level: \"Level " = "unknown log level: " ++ "\"" ++ "Level " := rfl
  rw [hmessage, hquote, h.text_eq, hstart]
  simp only [String.append_assoc]

/-- The levels that read back from their texts are those with a name. The text of any other level is
refused, also in a document, while every level can be written as its severity. -/
theorem levels_read_back_from_texts (level : Level) :
    parse level.text =
        (if level.severity ∈ [0, 10, 20, 30, 40, 50] then .ok level
        else .error { input := "Level " ++ toString level.severity }) ∧
      ofJson level.toJson = (parse level.text).mapError .level ∧
      parse (toString level.severity) = .ok level := by
  refine ⟨?_, rfl, parse_severity level⟩
  rw [parse_text]
  by_cases h : level.Unnamed
  · rw [if_pos h, if_neg (unnamed_iff.mp h), h.text_eq]
  · rw [if_neg h, if_pos (Decidable.not_not.mp ((not_congr unnamed_iff).mp h))]

/-- A level between the named ones is lost when it is written as a text. -/
theorem level_between_names_is_lost :
    let level : Level := { severity := 25 }
    level.text = "Level 25" ∧ parse level.text = .error { input := "Level 25" } ∧
      parse level.text ≠ .ok level := by
  have hparse : parse (text { severity := 25 }) = .error { input := "Level 25" } :=
    parse_of_space_mem (by decide)
  intro level
  refine ⟨by decide, hparse, ?_⟩
  rw [hparse]
  exact nofun

end Level

end LogTree
