import LogTree.Text.Digits

/-!
Points in time as they stand in front of a record: `YYYY-MM-DD HH:MM:SS,mmm` in the local zone,
counted by the Gregorian calendar also before its introduction.
-/

namespace LogTree

/-- A point in time, counted from the beginning of the year 1970 in Greenwich. -/
structure Instant where
  seconds : Int
  nanoseconds : Nat := 0
deriving DecidableEq

structure Date where
  year : Int
  month : Nat
  day : Nat
deriving DecidableEq

namespace Date

/-- The day that lies so many days after the first of January 1970. Years are counted from the first
of March, so that the leap day is the last one of its year, in cycles of 400 years. -/
def ofDayNumber (number : Int) : Date :=
  let shifted := number + 719468
  let cycle := shifted.fdiv 146097
  let dayOfCycle := (shifted.fmod 146097).toNat
  let yearOfCycle :=
    (dayOfCycle - dayOfCycle / 1460 + dayOfCycle / 36524 - dayOfCycle / 146096) / 365
  let dayOfYear := dayOfCycle - (365 * yearOfCycle + yearOfCycle / 4 - yearOfCycle / 100)
  let monthFromMarch := (5 * dayOfYear + 2) / 153
  let day := dayOfYear - (153 * monthFromMarch + 2) / 5 + 1
  let month := if monthFromMarch < 10 then monthFromMarch + 3 else monthFromMarch - 9
  let year := cycle * 400 + yearOfCycle + (if month ≤ 2 then 1 else 0)
  { year, month, day }

/-- Four digits, behind a sign where the year is negative. -/
def yearText (year : Int) : List Char :=
  if year < 0 then '-' :: Text.zeroPadded 4 year.natAbs else Text.zeroPadded 4 year.natAbs

def text (date : Date) : List Char :=
  yearText date.year ++ '-' :: Text.zeroPadded 2 date.month ++ '-' :: Text.zeroPadded 2 date.day

def IsRepresentable (date : Date) : Prop :=
  -9999 ≤ date.year ∧ date.year ≤ 9999

instance (date : Date) : Decidable date.IsRepresentable :=
  inferInstanceAs (Decidable (_ ∧ _))

end Date

namespace Instant

/-- The same point in time by clocks that are ahead by so many seconds. -/
def ahead (instant : Instant) (offset : Int) : Instant :=
  { instant with seconds := instant.seconds + offset }

def date (instant : Instant) : Date :=
  Date.ofDayNumber (instant.seconds.fdiv 86400)

/-- Hours, minutes, seconds and milliseconds; what is shorter than a millisecond is cut off. -/
def timeText (instant : Instant) : List Char :=
  let secondOfDay := (instant.seconds.fmod 86400).toNat
  Text.zeroPadded 2 (secondOfDay / 3600) ++ ':' :: Text.zeroPadded 2 (secondOfDay / 60 % 60) ++
    ':' :: Text.zeroPadded 2 (secondOfDay % 60) ++
    ',' :: Text.zeroPadded 3 (instant.nanoseconds / 1000000)

/-- The timestamp in a zone that is ahead of Greenwich by so many seconds. There is none if the date
lies outside the calendar there or in Greenwich. -/
def timestamp? (instant : Instant) (offset : Int) : Option String :=
  let zoned := instant.ahead offset
  if instant.date.IsRepresentable ∧ zoned.date.IsRepresentable then
    some (String.ofList (zoned.date.text ++ ' ' :: zoned.timeText))
  else
    none

end Instant

end LogTree
