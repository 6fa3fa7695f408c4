import LogTree.Json.Decode
import LogTree.Proofs.WrittenTexts

namespace LogTree

namespace Echo

/-- The words for a value. No word at all stands for the unset one. -/
def spellings : Echo → List String
  | unset => ["", "none", "unset"]
  | off => ["false", "no", "off", "0"]
  | on => ["true", "yes", "on", "1"]
  | debug => ["debug"]

/-- A text is a word for a value, in any case of its ASCII letters. -/
def Denotes (text : List Char) (echo : Echo) : Prop :=
  ∃ word ∈ echo.spellings, List.Forall₂ Text.SameButCase text word.toList

/-- What stands for a value in a document: null, a truth value, or a text with a word in it and
blanks around that. -/
inductive Represents : Json → Echo → Prop where
  | null : Represents .null unset
  | bool (enabled : Bool) : Represents (.bool enabled) (if enabled then on else off)
  | string {text : String} {echo : Echo} (h : Denotes (Text.trim text.toList) echo) :
      Represents (.string text) echo

/-- Why a value of a document stands for no echo value. A text is named as it is written, anything
else by what is found there. -/
inductive Refuses : Json → DecodeError → Prop where
  | string {text : String} (h : ∀ echo, ¬Denotes (Text.trim text.toList) echo) :
      Refuses (.string text) (.echo { input := text })
  | integer (value : Int) : Refuses (.integer value) (.mismatch (.integer value) .echo)
  | float (value : Float) : Refuses (.float value) (.mismatch (.float value) .echo)
  | array (elements : List Json) : Refuses (.array elements) (.mismatch (.array elements) .echo)
  | object (fields : List (String × Json)) :
      Refuses (.object fields) (.mismatch (.object fields) .echo)

theorem mem_words_iff {word : String} {echo : Echo} :
    (word, echo) ∈ words ↔ word ∈ echo.spellings := by
  cases echo <;> simp [words, spellings]

theorem lookup_of_mem_words : ∀ entry ∈ words, words.lookup entry.1 = some entry.2 := by
  decide

theorem lowerAscii_of_mem_words : ∀ entry ∈ words,
    Text.lowerAscii entry.1.toList = entry.1.toList := by
  decide

theorem lookup_words_eq_some_iff {text : List Char} {echo : Echo} :
    words.lookup (String.ofList (Text.lowerAscii text)) = some echo ↔ Denotes text echo := by
  constructor
  · intro h
    obtain ⟨before, after, hwords, -⟩ := List.lookup_eq_some_iff.mp h
    have hmem : (String.ofList (Text.lowerAscii text), echo) ∈ words := by
      rw [hwords]
      exact List.mem_append_right _ List.mem_cons_self
    refine ⟨_, mem_words_iff.mp hmem, Text.lowerAscii_eq_iff.mp ?_⟩
    have hlower := lowerAscii_of_mem_words _ hmem
    rw [hlower, String.toList_ofList]
  · rintro ⟨word, hword, hcase⟩
    have hmem := mem_words_iff.mpr hword
    rw [Text.lowerAscii_eq_iff.mpr hcase, lowerAscii_of_mem_words _ hmem, String.ofList_toList]
    exact lookup_of_mem_words _ hmem

theorem parse_eq_ok_iff_denotes {input : String} {echo : Echo} :
    parse input = .ok echo ↔ Denotes (Text.trim input.toList) echo := by
  rw [← lookup_words_eq_some_iff, parse]
  split
  · next held hlookup => simp [hlookup]
  · next hlookup => simp [hlookup]

theorem parse_eq_error_iff {input : String} {e : EchoError} :
    parse input = .error e ↔
      e = { input } ∧ ∀ echo, ¬Denotes (Text.trim input.toList) echo := by
  simp only [← lookup_words_eq_some_iff, parse]
  split
  · next held hlookup => simp [hlookup]
  · next hlookup => simp [hlookup, eq_comm]

theorem parse_text (echo : Echo) : parse echo.text = .ok echo := by
  cases echo <;> decide

theorem ofJson_string (text : String) :
    ofJson (.string text) = (parse text).mapError .echo :=
  rfl

theorem ofJson_eq_ok_iff {value : Json} {echo : Echo} :
    ofJson value = .ok echo ↔ Represents value echo := by
  constructor
  · intro h
    cases value with
    | null =>
        cases h
        exact .null
    | bool enabled =>
        cases h
        exact .bool enabled
    | string text =>
        rw [ofJson_string] at h
        cases hparse : parse text with
        | error e =>
            rw [hparse] at h
            cases h
        | ok held =>
            rw [hparse] at h
            cases h
            exact .string (parse_eq_ok_iff_denotes.mp hparse)
    | _ => cases h
  · intro h
    cases h with
    | null => rfl
    | bool enabled => rfl
    | string hdenotes => rw [ofJson_string, parse_eq_ok_iff_denotes.mpr hdenotes]; rfl

theorem ofJson_eq_error_iff {value : Json} {e : DecodeError} :
    ofJson value = .error e ↔ Refuses value e := by
  constructor
  · intro h
    cases value with
    | null => cases h
    | bool enabled => cases h
    | string text =>
        rw [ofJson_string] at h
        cases hparse : parse text with
        | error cause =>
            rw [hparse] at h
            cases h
            obtain ⟨rfl, hnone⟩ := parse_eq_error_iff.mp hparse
            exact .string hnone
        | ok held =>
            rw [hparse] at h
            cases h
    | integer value => cases h; exact .integer value
    | float value => cases h; exact .float value
    | array elements => cases h; exact .array elements
    | object fields => cases h; exact .object fields
  · intro h
    cases h with
    | string hnone => rw [ofJson_string, parse_eq_error_iff.mpr ⟨rfl, hnone⟩]; rfl
    | _ => rfl

theorem ofJson_toJson (echo : Echo) : ofJson echo.toJson = .ok echo := by
  rw [ofJson_eq_ok_iff]
  cases echo with
  | unset => exact .null
  | off => exact .bool false
  | on => exact .bool true
  | debug => exact .string (parse_eq_ok_iff_denotes.mp (parse_text .debug))

section

variable {α β ε : Type} {decode : α → Except ε β}

theorem mapM_eq_ok_iff {values : List α} {results : List β} :
    values.mapM decode = .ok results ↔
      List.Forall₂ (fun value result => decode value = .ok result) values results := by
  induction values generalizing results with
  | nil => cases results <;> simp [pure, Except.pure]
  | cons value rest ih =>
      rw [List.mapM_cons]
      cases hvalue : decode value with
      | error e => cases results <;> simp [bind, Except.bind, hvalue]
      | ok first =>
          cases hrest : rest.mapM decode with
          | error e => cases results <;> simp [bind, Except.bind, hvalue, hrest, ← ih]
          | ok others =>
              cases results <;> simp [bind, Except.bind, pure, Except.pure, hvalue, hrest, ← ih]

/-- The first value that cannot be decoded decides. -/
theorem mapM_eq_error_iff {values : List α} {e : ε} :
    values.mapM decode = .error e ↔
      ∃ before value after results, values = before ++ value :: after ∧
        List.Forall₂ (fun value result => decode value = .ok result) before results ∧
        decode value = .error e := by
  induction values with
  | nil => simp [pure, Except.pure]
  | cons first rest ih =>
      rw [List.mapM_cons]
      constructor
      · intro h
        cases hfirst : decode first with
        | error cause =>
            rw [hfirst] at h
            cases h
            exact ⟨[], first, rest, [], rfl, .nil, hfirst⟩
        | ok result =>
            cases hrest : rest.mapM decode with
            | error cause =>
                rw [hfirst, hrest] at h
                cases h
                obtain ⟨before, value, after, results, rfl, hbefore, hvalue⟩ := ih.mp hrest
                exact ⟨first :: before, value, after, result :: results, rfl,
                  .cons hfirst hbefore, hvalue⟩
            | ok results =>
                rw [hfirst, hrest] at h
                cases h
      · rintro ⟨before, value, after, results, heq, hbefore, hvalue⟩
        cases hbefore with
        | nil =>
            obtain ⟨rfl, rfl⟩ := List.cons.inj heq
            rw [hvalue]
            rfl
        | cons hfirst hothers =>
            obtain ⟨rfl, rfl⟩ := List.cons.inj heq
            rw [hfirst, ih.mpr ⟨_, _, _, _, rfl, hothers, hvalue⟩]
            rfl

end

theorem listOfJson_eq_ok_iff {elements : List Json} {echoes : List Echo} :
    listOfJson (.array elements) = .ok echoes ↔ List.Forall₂ Represents elements echoes := by
  simp only [listOfJson, mapM_eq_ok_iff, ofJson_eq_ok_iff]

theorem listOfJson_eq_error_iff {elements : List Json} {e : DecodeError} :
    listOfJson (.array elements) = .error e ↔
      ∃ before value after echoes, elements = before ++ value :: after ∧
        List.Forall₂ Represents before echoes ∧ Refuses value e := by
  simp only [listOfJson, mapM_eq_error_iff, ofJson_eq_ok_iff, ofJson_eq_error_iff]

theorem listOfJson_map_toJson (echoes : List Echo) :
    listOfJson (.array (echoes.map toJson)) = .ok echoes := by
  rw [listOfJson_eq_ok_iff, List.forall₂_map_left_iff, List.forall₂_same]
  exact fun echo _ => ofJson_eq_ok_iff.mp (ofJson_toJson echo)

/-- All readers of echo values agree. A text is read as the value that it denotes without the blanks
around it, and is refused with an error that holds all of it if it denotes none; as a value of a
document it is read, or refused, in the same way. Beside texts, null and the truth values stand for
echo values, and numbers, lists and objects do not. What is marked as absent is unset, and what is
marked as present is read as if it were not marked. A list is read if all its elements are, and
otherwise its first element that cannot be read decides. Every value is read back from its text and
from its form in a document. -/
theorem readers_of_echo_agree :
    (∀ input : String,
      let text := Text.trim input.toList
      (Text.Tight text ∧ Text.Padded text input.toList) ∧
        (∀ echo, parse input = .ok echo ↔ Denotes text echo) ∧
        (∀ e, parse input = .error e ↔ e = { input } ∧ ∀ echo, ¬Denotes text echo) ∧
        EchoError.message { input } = "invalid echo value " ++ Text.quote input ++
          "; expected none, true, false or debug" ∧
        (ofJson (.string input)).mapError DecodeError.message =
          (parse input).mapError EchoError.message) ∧
      (∀ value,
        (∀ echo, ofJson value = .ok echo ↔ Represents value echo) ∧
          (∀ e, ofJson value = .error e ↔ Refuses value e) ∧
          ofPresence (some value) = ofJson value) ∧
      ofPresence none = .ok unset ∧
      (∀ elements,
        (∀ echoes, listOfJson (.array elements) = .ok echoes ↔
          List.Forall₂ Represents elements echoes) ∧
          ∀ e, listOfJson (.array elements) = .error e ↔
            ∃ before value after echoes, elements = before ++ value :: after ∧
              List.Forall₂ Represents before echoes ∧ Refuses value e) ∧
      (∀ echo, parse echo.text = .ok echo ∧ ofJson echo.toJson = .ok echo) ∧
      ∀ echoes : List Echo, listOfJson (.array (echoes.map toJson)) = .ok echoes := by
  refine ⟨?_, ?_, rfl, ?_, fun echo => ⟨parse_text echo, ofJson_toJson echo⟩,
    listOfJson_map_toJson⟩
  · intro input text
    refine ⟨Text.trim_eq_iff.mp rfl, fun echo => parse_eq_ok_iff_denotes,
      fun e => parse_eq_error_iff, rfl, ?_⟩
    rw [ofJson_string]
    cases parse input <;> rfl
  · intro value
    exact ⟨fun echo => ofJson_eq_ok_iff, fun e => ofJson_eq_error_iff, rfl⟩
  · intro elements
    exact ⟨fun echoes => listOfJson_eq_ok_iff, fun e => listOfJson_eq_error_iff⟩

/-- A number in a document is not what the same figure in a text is. -/
example : ofJson (.string " 1 ") = .ok on ∧
    (ofJson (.integer 1)).mapError DecodeError.message =
      .error "invalid type: integer `1`, expected null, a boolean, or the string \"debug\"" := by
  constructor <;> rfl

end Echo

end LogTree
