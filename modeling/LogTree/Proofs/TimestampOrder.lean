import Mathlib.Algebra.Order.Ring.Nat
import Mathlib.Data.Nat.Digits.Defs
import Mathlib.Data.String.Basic
import LogTree.Proofs.Calendar

namespace LogTree

namespace Text

theorem append_lt_append_of_lt {first second : List Char} (hlength : first.length = second.length)
    (h : first < second) (rest other : List Char) : first ++ rest < second ++ other := by
  induction first generalizing second with
  | nil =>
      rw [List.eq_nil_of_length_eq_zero hlength.symm] at h
      exact absurd h (List.not_lt_nil [])
  | cons c cs ih =>
      cases second with
      | nil => cases hlength
      | cons d ds =>
          rw [List.cons_append, List.cons_append, List.cons_lt_cons_iff]
          rcases List.cons_lt_cons_iff.mp h with hlt | ⟨heq, hrest⟩
          · exact .inl hlt
          · exact .inr ⟨heq, ih (Nat.succ.inj hlength) hrest⟩

theorem zeroPadded_one {n : Nat} (h : n < 10) : zeroPadded 1 n = [n.digitChar] := by
  rw [zeroPadded, Nat.toDigits_of_lt_base h]
  rfl

theorem zeroPadded_succ {width : Nat} (hwidth : 0 < width) (n : Nat) :
    zeroPadded (width + 1) n = zeroPadded width (n / 10) ++ [(n % 10).digitChar] := by
  rw [zeroPadded, zeroPadded]
  rcases Nat.lt_or_ge n 10 with hlt | hge
  · rw [Nat.toDigits_of_lt_base hlt, Nat.div_eq_of_lt hlt, Nat.mod_eq_of_lt hlt]
    obtain ⟨rest, rfl⟩ := Nat.exists_eq_succ_of_ne_zero hwidth.ne'
    rw [Nat.toDigits_of_lt_base (by decide), List.length_singleton, List.length_singleton,
      Nat.succ_sub_one, Nat.succ_sub_one, List.replicate_succ']
    rfl
  · rw [Nat.toDigits_of_base_le (by decide) hge, List.length_append]
    simp

theorem digitChar_lt_digitChar : ∀ n < 10, ∀ m < n, Nat.digitChar m < Nat.digitChar n := by
  decide

theorem length_zeroPadded {width n : Nat} (hwidth : 0 < width) (h : n < 10 ^ width) :
    (zeroPadded width n).length = width := by
  induction width, hwidth using Nat.le_induction generalizing n with
  | base => rw [zeroPadded_one h, List.length_singleton]
  | succ width hwidth ih =>
      rw [zeroPadded_succ hwidth, List.length_append, ih, List.length_singleton]
      rw [Nat.pow_succ] at h
      omega

theorem zeroPadded_lt_zeroPadded {width m n : Nat} (hwidth : 0 < width) (h : m < n)
    (hn : n < 10 ^ width) : zeroPadded width m < zeroPadded width n := by
  induction width, hwidth using Nat.le_induction generalizing m n with
  | base =>
      rw [zeroPadded_one (h.trans hn), zeroPadded_one hn]
      exact List.cons_lt_cons_iff.mpr (.inl (digitChar_lt_digitChar n hn m h))
  | succ width hwidth ih =>
      rw [Nat.pow_succ] at hn
      rw [zeroPadded_succ hwidth, zeroPadded_succ hwidth]
      rcases Nat.lt_or_ge (m / 10) (n / 10) with hlt | hge
      · refine append_lt_append_of_lt ?_ (ih hlt (by omega)) _ _
        rw [length_zeroPadded hwidth (by omega), length_zeroPadded hwidth (by omega)]
      · have hsame : m / 10 = n / 10 := by omega
        rw [hsame]
        refine List.append_left_lt (List.cons_lt_cons_iff.mpr (.inl ?_))
        exact digitChar_lt_digitChar _ (by omega) _ (by omega)

theorem zeroPadded_append_lt {width m n : Nat} {rest other : List Char} (hwidth : 0 < width)
    (hn : n < 10 ^ width) (h : m < n ∨ m = n ∧ rest < other) :
    zeroPadded width m ++ rest < zeroPadded width n ++ other := by
  rcases h with hlt | ⟨rfl, hrest⟩
  · refine append_lt_append_of_lt ?_ (zeroPadded_lt_zeroPadded hwidth hlt hn) _ _
    rw [length_zeroPadded hwidth (hlt.trans hn), length_zeroPadded hwidth hn]
  · exact List.append_left_lt hrest

end Text

namespace Date

theorem toList_yearText {year : Int} (h : 0 ≤ year) :
    yearText year = Text.zeroPadded 4 year.natAbs := by
  rw [yearText, if_neg (Int.not_lt.mpr h)]

theorem text_append {date : Date} (h : 0 ≤ date.year) (rest : List Char) :
    date.text ++ rest = Text.zeroPadded 4 date.year.natAbs ++
      '-' :: (Text.zeroPadded 2 date.month ++ '-' :: (Text.zeroPadded 2 date.day ++ rest)) := by
  rw [text, toList_yearText h]
  simp

theorem length_text {date : Date} (hyear : 0 ≤ date.year ∧ date.year ≤ 9999)
    (hmonth : date.month < 100) (hday : date.day < 100) : date.text.length = 10 := by
  have hnat : date.year.natAbs < 10 ^ 4 := by omega
  rw [← List.append_nil date.text, text_append hyear.1]
  simp only [List.length_append, List.length_cons, List.length_nil,
    Text.length_zeroPadded (by decide) hnat, Text.length_zeroPadded Nat.two_pos hmonth,
    Text.length_zeroPadded Nat.two_pos hday]

theorem text_append_lt {date other : Date} (h : date.key < other.key) (hfirst : 0 ≤ date.year)
    (hlast : other.year ≤ 9999) (hmonth : other.month < 100) (hday : other.day < 100)
    (rest otherRest : List Char) : date.text ++ rest < other.text ++ otherRest := by
  have horder := key_lt_key_iff.mp h
  rw [text_append hfirst, text_append (by omega)]
  refine Text.zeroPadded_append_lt (by decide) (by omega) ?_
  rcases horder with hyear | ⟨hyear, hrest⟩
  · exact .inl (by omega)
  · refine .inr ⟨by rw [hyear], List.cons_lt_cons_self.mpr ?_⟩
    refine Text.zeroPadded_append_lt (by decide) hmonth ?_
    rcases hrest with hmonths | ⟨hmonths, hdays⟩
    · exact .inl hmonths
    · refine .inr ⟨hmonths, List.cons_lt_cons_self.mpr ?_⟩
      exact Text.zeroPadded_append_lt (by decide) hday (.inl hdays)

end Date

namespace Instant

/-- The whole milliseconds up to a point in time, counted from the beginning of the year 1970. -/
def milliseconds (instant : Instant) : Int :=
  instant.seconds * 1000 + instant.nanoseconds / 1000000

/-- What a clock shows that is not ahead. -/
def clockText (instant : Instant) : List Char :=
  instant.date.text ++ ' ' :: instant.timeText

theorem timestamp?_eq_some_iff {instant : Instant} {offset : Int} {text : String} :
    instant.timestamp? offset = some text ↔
      (instant.date.IsRepresentable ∧ (instant.ahead offset).date.IsRepresentable) ∧
        String.ofList (instant.ahead offset).clockText = text := by
  rw [timestamp?]
  split
  · next h =>
      rw [Option.some.injEq]
      exact (and_iff_right h).symm
  · next h =>
      exact iff_of_false (fun hnone => by cases hnone) fun hsome => h hsome.1

theorem timestamp?_eq_none_iff {instant : Instant} {offset : Int} :
    instant.timestamp? offset = none ↔
      ¬(instant.date.IsRepresentable ∧ (instant.ahead offset).date.IsRepresentable) := by
  rw [timestamp?]
  split
  · next h =>
      exact iff_of_false (fun hsome => by cases hsome) fun hnot => hnot h
  · next h =>
      exact iff_of_true rfl h

theorem milliseconds_ahead (instant : Instant) (offset : Int) :
    (instant.ahead offset).milliseconds = instant.milliseconds + offset * 1000 := by
  simp only [milliseconds, ahead]
  omega

theorem date_eq (instant : Instant) :
    instant.date = Date.ofDayNumber (instant.seconds / 86400) := by
  rw [date, Int.fdiv_eq_ediv_of_nonneg _ (by decide)]

/-- The seconds of a point in time since the day began. -/
def secondOfDay (instant : Instant) : Nat :=
  (instant.seconds % 86400).toNat

theorem timeText_eq (instant : Instant) :
    instant.timeText = Text.zeroPadded 2 (instant.secondOfDay / 3600) ++
      ':' :: (Text.zeroPadded 2 (instant.secondOfDay / 60 % 60) ++
        ':' :: (Text.zeroPadded 2 (instant.secondOfDay % 60) ++
          ',' :: Text.zeroPadded 3 (instant.nanoseconds / 1000000))) := by
  rw [timeText, Int.fmod_eq_emod_of_nonneg _ (by decide), secondOfDay]
  simp

theorem secondOfDay_lt (instant : Instant) : instant.secondOfDay < 86400 := by
  rw [secondOfDay]
  omega

theorem length_timeText {instant : Instant} (h : instant.nanoseconds < 1000000000) :
    instant.timeText.length = 12 := by
  have hsecond := instant.secondOfDay_lt
  have hhours : instant.secondOfDay / 3600 < 10 ^ 2 := by omega
  have hminutes : instant.secondOfDay / 60 % 60 < 10 ^ 2 := by omega
  have hseconds : instant.secondOfDay % 60 < 10 ^ 2 := by omega
  have hmilliseconds : instant.nanoseconds / 1000000 < 10 ^ 3 := by omega
  rw [timeText_eq]
  simp only [List.length_append, List.length_cons, Text.length_zeroPadded Nat.two_pos hhours,
    Text.length_zeroPadded Nat.two_pos hminutes, Text.length_zeroPadded Nat.two_pos hseconds,
    Text.length_zeroPadded (Nat.succ_pos 2) hmilliseconds]

theorem length_clockText {instant : Instant} (h : instant.nanoseconds < 1000000000)
    (hyear : 0 ≤ instant.date.year ∧ instant.date.year ≤ 9999) :
    instant.clockText.length = 23 := by
  obtain ⟨hmonth, hday⟩ := Date.month_day_ofDayNumber_lt (instant.seconds / 86400)
  rw [← date_eq] at hmonth hday
  rw [clockText, List.length_append, List.length_cons, Date.length_text hyear hmonth hday,
    length_timeText h]

section

variable {first second : Instant}

theorem timeText_lt (hsecond : second.nanoseconds < 1000000000)
    (h : first.secondOfDay < second.secondOfDay ∨ first.secondOfDay = second.secondOfDay ∧
      first.nanoseconds / 1000000 < second.nanoseconds / 1000000) :
    first.timeText < second.timeText := by
  have hlast := second.secondOfDay_lt
  rw [timeText_eq, timeText_eq]
  refine Text.zeroPadded_append_lt (by decide) (by omega) ?_
  rcases Nat.lt_or_ge (first.secondOfDay / 3600) (second.secondOfDay / 3600) with hhours | hhours
  · exact .inl hhours
  · refine .inr ⟨by omega, List.cons_lt_cons_self.mpr ?_⟩
    refine Text.zeroPadded_append_lt (by decide) (by omega) ?_
    rcases Nat.lt_or_ge (first.secondOfDay / 60 % 60) (second.secondOfDay / 60 % 60)
      with hminutes | hminutes
    · exact .inl hminutes
    · refine .inr ⟨by omega, List.cons_lt_cons_self.mpr ?_⟩
      refine Text.zeroPadded_append_lt (by decide) (by omega) ?_
      rcases h with hseconds | ⟨hseconds, hmilliseconds⟩
      · exact .inl (by omega)
      · refine .inr ⟨by rw [hseconds], List.cons_lt_cons_self.mpr ?_⟩
        exact Text.zeroPadded_lt_zeroPadded (by decide) hmilliseconds (by omega)

theorem clockText_lt (hfirst : first.nanoseconds < 1000000000)
    (hsecond : second.nanoseconds < 1000000000) (hyear : 0 ≤ first.date.year)
    (hlast : second.date.year ≤ 9999) (h : first.milliseconds < second.milliseconds) :
    first.clockText < second.clockText := by
  unfold milliseconds at h
  rcases lt_trichotomy (first.seconds / 86400) (second.seconds / 86400) with hday | hday | hday
  · have hkey := Date.key_ofDayNumber_lt hday
    obtain ⟨hmonth, hdays⟩ := Date.month_day_ofDayNumber_lt (second.seconds / 86400)
    simp only [← date_eq] at hkey hmonth hdays
    exact Date.text_append_lt hkey hyear hlast hmonth hdays _ _
  · have hdate : first.date = second.date := by rw [date_eq, date_eq, hday]
    rw [clockText, clockText, hdate]
    refine List.append_left_lt (List.cons_lt_cons_self.mpr (timeText_lt hsecond ?_))
    unfold secondOfDay
    omega
  · omega

theorem clockText_eq (hfirst : first.nanoseconds < 1000000000)
    (hsecond : second.nanoseconds < 1000000000) (h : first.milliseconds = second.milliseconds) :
    first.clockText = second.clockText := by
  unfold milliseconds at h
  have hseconds : first.seconds = second.seconds := by omega
  have hmilliseconds : first.nanoseconds / 1000000 = second.nanoseconds / 1000000 := by omega
  rw [clockText, clockText, date_eq, date_eq, timeText_eq, timeText_eq, secondOfDay, secondOfDay,
    hseconds, hmilliseconds]

theorem clockText_lt_iff (hfirst : first.nanoseconds < 1000000000)
    (hsecond : second.nanoseconds < 1000000000)
    (hfirstYear : 0 ≤ first.date.year ∧ first.date.year ≤ 9999)
    (hsecondYear : 0 ≤ second.date.year ∧ second.date.year ≤ 9999) :
    (first.clockText < second.clockText ↔ first.milliseconds < second.milliseconds) ∧
      (first.clockText = second.clockText ↔ first.milliseconds = second.milliseconds) := by
  rcases lt_trichotomy first.milliseconds second.milliseconds with hlt | heq | hgt
  · have htext := clockText_lt hfirst hsecond hfirstYear.1 hsecondYear.2 hlt
    exact ⟨iff_of_true htext hlt, iff_of_false (ne_of_lt htext) (ne_of_lt hlt)⟩
  · have htext := clockText_eq hfirst hsecond heq
    exact ⟨iff_of_false (not_lt_of_ge htext.ge) (not_lt_of_ge heq.ge), iff_of_true htext heq⟩
  · have htext := clockText_lt hsecond hfirst hsecondYear.1 hfirstYear.2 hgt
    exact ⟨iff_of_false (not_lt_of_gt htext) (not_lt_of_gt hgt),
      iff_of_false (ne_of_gt htext) (ne_of_gt hgt)⟩

end

/-- Timestamps sort as the points in time do. Dates go by the Gregorian calendar, one after another.
There is no timestamp exactly if the year is not within four digits, in Greenwich or in the zone
itself. Those of one zone whose years have no sign there have 23 characters, and they compare as the
whole milliseconds do that the points in time have come to: what is shorter than a millisecond is
cut off and never rounded up. -/
theorem timestamps_sort_like_time (offset : Int) :
    (Date.ofDayNumber 0 = { year := 1970, month := 1, day := 1 } ∧
        ∀ number, Date.ofDayNumber (number + 1) = (Date.ofDayNumber number).tomorrow) ∧
      (∀ instant : Instant, instant.timestamp? offset = none ↔
        ¬((-9999 ≤ instant.date.year ∧ instant.date.year ≤ 9999) ∧
          -9999 ≤ (instant.ahead offset).date.year ∧
          (instant.ahead offset).date.year ≤ 9999)) ∧
      ∀ first second : Instant,
        first.nanoseconds < 1000000000 → second.nanoseconds < 1000000000 →
        0 ≤ (first.ahead offset).date.year ∧ (first.ahead offset).date.year ≤ 9999 →
        0 ≤ (second.ahead offset).date.year ∧ (second.ahead offset).date.year ≤ 9999 →
        ∀ text other, first.timestamp? offset = some text →
          second.timestamp? offset = some other →
          text.length = 23 ∧ other.length = 23 ∧
            (text < other ↔ first.milliseconds < second.milliseconds) ∧
            (text = other ↔ first.milliseconds = second.milliseconds) := by
  refine ⟨⟨Date.ofDayNumber_zero, Date.ofDayNumber_succ⟩, fun _ => timestamp?_eq_none_iff, ?_⟩
  intro first second hfirst hsecond hfirstYear hsecondYear text other htext hother
  obtain ⟨-, rfl⟩ := timestamp?_eq_some_iff.mp htext
  obtain ⟨-, rfl⟩ := timestamp?_eq_some_iff.mp hother
  obtain ⟨hlt, heq⟩ := @clockText_lt_iff (first.ahead offset) (second.ahead offset)
    hfirst hsecond hfirstYear hsecondYear
  rw [milliseconds_ahead, milliseconds_ahead] at hlt heq
  refine ⟨?_, ?_, ?_, ?_⟩
  · rw [String.length_ofList, @length_clockText (first.ahead offset) hfirst hfirstYear]
  · rw [String.length_ofList, @length_clockText (second.ahead offset) hsecond hsecondYear]
  · rw [String.lt_iff_toList_lt, String.toList_ofList, String.toList_ofList, hlt,
      add_lt_add_iff_right]
  · rw [String.ofList_inj, heq, add_left_inj]

/-- A nanosecond before the year 1970 begins in a zone, the old year is still shown there. -/
theorem timestamps_sort_across_new_year :
    let last : Instant := { seconds := -3601, nanoseconds := 999999999 }
    let next : Instant := { seconds := -3600 }
    last.timestamp? 3600 = some "1969-12-31 23:59:59,999" ∧
      next.timestamp? 3600 = some "1970-01-01 00:00:00,000" ∧
      "1969-12-31 23:59:59,999" < "1970-01-01 00:00:00,000" ∧
      last.milliseconds < next.milliseconds := by
  intro last next
  have hlast : last.timestamp? 3600 = some "1969-12-31 23:59:59,999" := by decide +kernel
  have hnext : next.timestamp? 3600 = some "1970-01-01 00:00:00,000" := by decide +kernel
  have hearlier : last.milliseconds < next.milliseconds := by decide
  refine ⟨hlast, hnext, ?_, hearlier⟩
  exact ((timestamps_sort_like_time 3600).2.2 last next (by decide) (by decide) (by decide)
    (by decide) _ _ hlast hnext).2.2.1.mpr hearlier

end Instant

end LogTree
