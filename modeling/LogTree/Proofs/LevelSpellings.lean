import LogTree.Proofs.LevelTexts
import LogTree.Proofs.WrittenTexts

namespace LogTree.Level

/-- What may be written for a level: a word for it in any case of its letters, or its severity. -/
inductive Denotes : List Char → Level → Prop where
  | word {text : List Char} {word : String} {level : Level}
      (hword : (word, level.severity) ∈ [("NOTSET", 0), ("DEBUG", 10), ("INFO", 20),
        ("WARNING", 30), ("WARN", 30), ("ERROR", 40), ("CRITICAL", 50), ("FATAL", 50)])
      (hcase : List.Forall₂ Text.SameButCase text word.toList) : Denotes text level
  | number {text : List Char} {level : Level} (hnumber : Text.Numeral text level.severity) :
      Denotes text level

theorem ext_severity {level other : Level} (h : level.severity = other.severity) :
    level = other := by
  cases level
  cases other
  cases h
  rfl

theorem mem_words_iff {word : String} {level : Level} :
    (word, level) ∈ words ↔
      (word, level.severity) ∈ [("NOTSET", 0), ("DEBUG", 10), ("INFO", 20), ("WARNING", 30),
        ("WARN", 30), ("ERROR", 40), ("CRITICAL", 50), ("FATAL", 50)] := by
  have hseverities : words.map (fun entry => (entry.1, entry.2.severity)) =
      [("NOTSET", 0), ("DEBUG", 10), ("INFO", 20), ("WARNING", 30), ("WARN", 30), ("ERROR", 40),
        ("CRITICAL", 50), ("FATAL", 50)] := rfl
  rw [← hseverities, List.mem_map]
  constructor
  · intro h
    exact ⟨_, h, rfl⟩
  · rintro ⟨⟨other, held⟩, hmem, heq⟩
    obtain ⟨rfl, hseverity⟩ := Prod.mk.inj heq
    obtain rfl : held = level := ext_severity hseverity
    exact hmem

theorem upperAscii_of_mem_words : ∀ entry ∈ words,
    Text.upperAscii entry.1.toList = entry.1.toList := by
  decide

theorem lookup_words_eq_some_iff {text : List Char} {level : Level} :
    words.lookup (String.ofList (Text.upperAscii text)) = some level ↔
      ∃ word : String, (word, level) ∈ words ∧
        List.Forall₂ Text.SameButCase text word.toList := by
  constructor
  · intro h
    obtain ⟨before, after, hwords, -⟩ := List.lookup_eq_some_iff.mp h
    have hmem : (String.ofList (Text.upperAscii text), level) ∈ words := by
      rw [hwords]
      exact List.mem_append_right _ List.mem_cons_self
    refine ⟨_, hmem, Text.upperAscii_eq_iff.mp ?_⟩
    have hupper := upperAscii_of_mem_words _ hmem
    rw [hupper, String.toList_ofList]
  · rintro ⟨word, hmem, hcase⟩
    rw [Text.upperAscii_eq_iff.mpr hcase, upperAscii_of_mem_words _ hmem, String.ofList_toList]
    exact lookup_of_mem_words _ hmem

theorem ofNat?_eq_some_iff {severity : Nat} {level : Level} :
    ofNat? severity = some level ↔ level.severity = severity := by
  constructor
  · intro h
    rw [ofNat?] at h
    split at h
    · cases h
      rfl
    · cases h
  · rintro rfl
    exact ofNat?_severity level

theorem numeral_upperAscii_iff {text : List Char} {n : Nat} :
    Text.Numeral (Text.upperAscii text) n ↔ Text.Numeral text n := by
  constructor
  · intro h
    have hsame : Text.upperAscii text = text := by
      apply Text.upperAscii_eq_self
      intro c hc
      rcases h.digit_or_plus hc with hdigit | rfl
      · exact Text.isUpper_of_isDigit hdigit
      · rfl
    rwa [hsame] at h
  · intro h
    have hsame : Text.upperAscii text = text := by
      refine (List.map_congr_left fun c hc => ?_).trans (List.map_id' text)
      rcases h.digit_or_plus hc with hdigit | rfl
      · exact Text.toUpper_of_isDigit hdigit
      · rfl
    rwa [hsame]

theorem readNumber?_bind_ofNat?_eq_some_iff {text : List Char} {level : Level} :
    (Text.readNumber? (Text.upperAscii text)).bind ofNat? = some level ↔
      Text.Numeral text level.severity := by
  rw [Option.bind_eq_some_iff]
  constructor
  · rintro ⟨n, hread, hlevel⟩
    rw [ofNat?_eq_some_iff.mp hlevel]
    exact numeral_upperAscii_iff.mp (Text.readNumber?_eq_some_iff.mp hread)
  · intro h
    exact ⟨level.severity, Text.readNumber?_eq_some_iff.mpr (numeral_upperAscii_iff.mpr h),
      ofNat?_severity level⟩

theorem lookup_words_of_numeral {text : List Char} {n : Nat} (h : Text.Numeral text n) :
    words.lookup (String.ofList (Text.upperAscii text)) = none := by
  obtain ⟨c, hc, hdigit⟩ := (numeral_upperAscii_iff.mpr h).exists_digit
  exact lookup_words_eq_none hc (Text.isUpper_of_isDigit hdigit)

theorem parse_eq_ok_iff_denotes {input : String} {level : Level} :
    parse input = .ok level ↔ Denotes (Text.trim input.toList) level := by
  rw [parse]
  generalize Text.trim input.toList = text
  constructor
  · intro h
    split at h
    · next held hlookup =>
        cases h
        obtain ⟨word, hmem, hcase⟩ := lookup_words_eq_some_iff.mp hlookup
        exact .word (mem_words_iff.mp hmem) hcase
    · split at h
      · next held hnumber =>
          cases h
          exact .number (readNumber?_bind_ofNat?_eq_some_iff.mp hnumber)
      · cases h
  · intro h
    cases h with
    | word hword hcase =>
        have hlookup := lookup_words_eq_some_iff.mpr ⟨_, mem_words_iff.mpr hword, hcase⟩
        simp only [hlookup]
    | number hnumber =>
        simp only [lookup_words_of_numeral hnumber,
          readNumber?_bind_ofNat?_eq_some_iff.mpr hnumber]

theorem input_of_parse_eq_error {input : String} {e : LevelError} (h : parse input = .error e) :
    e = { input } := by
  rw [parse] at h
  split at h
  · cases h
  · split at h
    · cases h
    · cases h
      rfl

theorem parse_eq_error_iff {input : String} {e : LevelError} :
    parse input = .error e ↔ e = { input } ∧ ∀ level, parse input ≠ .ok level := by
  constructor
  · intro h
    refine ⟨input_of_parse_eq_error h, ?_⟩
    rw [h]
    exact fun _ => nofun
  · rintro ⟨rfl, hnone⟩
    cases hparse : parse input with
    | error e => rw [input_of_parse_eq_error hparse]
    | ok level => exact absurd hparse (hnone level)

/-- A number is the severity it stands for, or it is refused because no severity is that great. -/
theorem parse_of_numeral {input : String} {n : Nat}
    (h : Text.Numeral (Text.trim input.toList) n) :
    if n ≤ 4294967295 then ∃ level : Level, level.severity = n ∧ parse input = .ok level
    else parse input = .error { input } := by
  split
  · next hle =>
      refine ⟨{ severity := n, severity_lt := Nat.lt_succ_of_le hle }, rfl, ?_⟩
      exact parse_eq_ok_iff_denotes.mpr (.number h)
  · next hlarge =>
      refine parse_eq_error_iff.mpr ⟨rfl, fun level hlevel => ?_⟩
      cases parse_eq_ok_iff_denotes.mp hlevel with
      | word hword hcase =>
          have hlookup := lookup_words_eq_some_iff.mpr ⟨_, mem_words_iff.mpr hword, hcase⟩
          rw [lookup_words_of_numeral h] at hlookup
          cases hlookup
      | number hnumber =>
          have hlt : level.severity < 4294967296 := level.severity_lt
          have hsame := h.unique hnumber
          omega

theorem tight_severity (level : Level) : Text.Tight (toString level.severity).toList := by
  have htrim := trim_severity level
  rw [← toList_severity] at htrim
  exact (Text.trim_eq_iff.mp htrim).1

theorem denotes_severity (level : Level) : Denotes (toString level.severity).toList level := by
  rw [toList_severity]
  exact .number (Text.numeral_toDigits level.severity)

/-- A level is read from what is left of a text without the blanks around it, if that denotes one:
a word, without regard to the case of ASCII letters, or a severity in decimal digits. Any other text
is refused, and the error holds all of it, blanks included. No number comes to another severity than
it stands for, and the severity of every level can be read, whatever blanks are around it. -/
theorem levels_are_words_or_severities (input : String) :
    let text := Text.trim input.toList
    (Text.Tight text ∧ Text.Padded text input.toList) ∧
      (∀ level, parse input = .ok level ↔ Denotes text level) ∧
      (∀ e, parse input = .error e ↔ e = { input } ∧ ∀ level, ¬Denotes text level) ∧
      (∀ n, Text.Numeral text n →
        if n ≤ 4294967295 then ∃ level : Level, level.severity = n ∧ parse input = .ok level
        else parse input = .error { input }) ∧
      ∀ level, Text.Padded (toString level.severity).toList input.toList →
        parse input = .ok level := by
  intro text
  refine ⟨Text.trim_eq_iff.mp rfl, fun level => parse_eq_ok_iff_denotes, ?_,
    fun n => parse_of_numeral, ?_⟩
  · intro e
    rw [parse_eq_error_iff]
    simp only [ne_eq, parse_eq_ok_iff_denotes]
    rfl
  · intro level hpadded
    rw [parse_eq_ok_iff_denotes, (tight_severity level).trim_of_padded hpadded]
    exact denotes_severity level

/-- The greatest severity there is, between an ideographic space and the end of a line. -/
theorem greatest_severity_is_read :
    Text.Padded (toString 4294967295).toList "\u3000 4294967295\n".toList ∧
      parse "\u3000 4294967295\n" = .ok { severity := 4294967295 } := by
  have hpadded : Text.Padded (toString 4294967295).toList "\u3000 4294967295\n".toList :=
    ⟨"\u3000 ".toList, "\n".toList, by decide, by decide, by decide⟩
  exact ⟨hpadded, (levels_are_words_or_severities _).2.2.2.2 { severity := 4294967295 } hpadded⟩

/-- One more than the greatest severity is refused rather than taken for another number. -/
example : parse "4294967296" = .error { input := "4294967296" } := by
  decide

end LogTree.Level
