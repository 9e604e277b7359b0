/-! # Timestamps

An instant is a number of milliseconds since the start of 1970 in universal
time. Its text is a date and a time of day; years with more than four digits or
before year zero are written with a sign and six digits. Instants further from
1970 than a hundred million days have no date.
-/

namespace InterfaceAddress.Log

/-- A day of the Gregorian calendar, extended to all years. -/
structure Date where
  year : Int
  month : Nat
  day : Nat
deriving DecidableEq

namespace Date

/-- The date of a day counted from the first of January 1970. Years are counted from March in
cycles of 400, so that the leap day is the last of its year. -/
def ofDayNumber (number : Int) : Date :=
  let shifted := number + 719468
  let cycle := shifted / 146097
  let dayOfCycle := (shifted % 146097).toNat
  let yearOfCycle :=
    (dayOfCycle - dayOfCycle / 1460 + dayOfCycle / 36524 - dayOfCycle / 146096) / 365
  let dayOfYear := dayOfCycle - (365 * yearOfCycle + yearOfCycle / 4 - yearOfCycle / 100)
  let monthFromMarch := (5 * dayOfYear + 2) / 153
  let day := dayOfYear - (153 * monthFromMarch + 2) / 5 + 1
  let month := if monthFromMarch < 10 then monthFromMarch + 3 else monthFromMarch - 9
  let year := yearOfCycle + 400 * cycle
  ⟨if month ≤ 2 then year + 1 else year, month, day⟩

end Date

/-- Whether an instant is at most a hundred million days from the start of 1970. -/
def IsDatable (milliseconds : Int) : Prop := milliseconds.natAbs ≤ 8640000000000000

instance (milliseconds : Int) : Decidable (IsDatable milliseconds) :=
  inferInstanceAs (Decidable (_ ≤ _))

/-- An instant that has no date. -/
structure UndatedError where
  milliseconds : Int
deriving DecidableEq

def UndatedError.message (_ : UndatedError) : String := "Invalid time value"

/-- A number in decimal with zeros in front up to a width. -/
def padded (width value : Nat) : List Char := (Nat.toDigits 10 value).leftpad width '0'

/-- A year in four digits, or in six with a sign. -/
def yearText (year : Int) : List Char :=
  if 0 ≤ year ∧ year ≤ 9999 then padded 4 year.toNat
  else (if year < 0 then '-' else '+') :: padded 6 year.natAbs

/-- The date of an instant. -/
def dateText (milliseconds : Int) : List Char :=
  let date := Date.ofDayNumber (milliseconds / 86400000)
  yearText date.year ++ '-' :: padded 2 date.month ++ '-' :: padded 2 date.day

/-- The time of day of an instant. -/
def timeText (milliseconds : Int) : List Char :=
  let time := (milliseconds % 86400000).toNat
  padded 2 (time / 3600000) ++ ':' :: padded 2 (time / 60000 % 60) ++
    ':' :: padded 2 (time / 1000 % 60) ++ '.' :: padded 3 (time % 1000)

/-- Date and time of an instant in universal time. -/
def timestamp (milliseconds : Int) : String :=
  String.ofList (dateText milliseconds ++ 'T' :: timeText milliseconds ++ ['Z'])

end InterfaceAddress.Log
