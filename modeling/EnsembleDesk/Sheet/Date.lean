import EnsembleDesk.Number.Layout
import EnsembleDesk.Text.CharClass
/-!
# Dates

A date with a time of day, in the proleptic Gregorian calendar. It is written
`2024-03-01T12:30:00`, with at least four digits for the year and a sign for a year that is negative
or has more digits. `DateTime.read?` also takes the date alone, at midnight, and is lenient about
blanks in front of numbers and missing leading zeros.
-/

namespace EnsembleDesk

/-- Whether February has 29 days. -/
def isLeapYear (year : Int) : Bool :=
  year % 4 = 0 && (year % 100 != 0 || year % 400 = 0)

/-- The number of days of a month. -/
def daysInMonth (year : Int) (month : Nat) : Nat :=
  if month = 2 then (if isLeapYear year then 29 else 28)
  else if month = 4 ∨ month = 6 ∨ month = 9 ∨ month = 11 then 30
  else 31

/-- Whether numbers name a day of the calendar. -/
def isDay (year : Int) (month day : Nat) : Bool :=
  -262143 ≤ year && year ≤ 262142 && 1 ≤ month && month ≤ 12 && 1 ≤ day &&
    day ≤ daysInMonth year month

/-- Whether numbers name a time of day; any minute may have a leap second. -/
def isTimeOfDay (hour minute second : Nat) : Bool :=
  hour ≤ 23 && minute ≤ 59 && second ≤ 60

/-- A date with a time of day. -/
structure DateTime where
  /-- The year; there is a year zero. -/
  year : Int
  /-- The month, counted from one. -/
  month : Nat
  /-- The day of the month, counted from one. -/
  day : Nat
  /-- The hour. -/
  hour : Nat
  /-- The minute. -/
  minute : Nat
  /-- The second; 60 is a leap second. -/
  second : Nat
  /-- The numbers name a day and a time of day. -/
  valid : (isDay year month day && isTimeOfDay hour minute second) = true
deriving DecidableEq

namespace DateTime

/-- The date and time that numbers name, if they name one. -/
def of? (year : Int) (month day hour minute second : Nat) : Option DateTime :=
  if h : (isDay year month day && isTimeOfDay hour minute second) = true then
    some ⟨year, month, day, hour, minute, second, h⟩
  else none

/-! ### Writing -/

/-- The digits of a number, with zeros in front up to a width. -/
def padded (width n : Nat) : List Char :=
  let digits := Decimal.digitsOf n
  zeros (width - digits.length) ++ digits

/-- The text of a year. -/
def yearChars (year : Int) : List Char :=
  if year < 0 then '-' :: padded 4 year.natAbs
  else if 9999 < year then '+' :: padded 4 year.natAbs
  else padded 4 year.natAbs

/-- The text of a date and time. -/
def chars (d : DateTime) : List Char :=
  yearChars d.year ++ '-' :: padded 2 d.month ++ '-' :: padded 2 d.day ++
    'T' :: padded 2 d.hour ++ ':' :: padded 2 d.minute ++ ':' :: padded 2 d.second

/-- The text of a date and time. -/
def text (d : DateTime) : String := String.ofList d.chars

/-! ### Reading -/

/-- Reads at least one digit and at most `limit`. -/
def readDigits? (limit : Nat) (text : List Char) : Option (Nat × List Char) :=
  let digits := (text.take limit).takeWhile Char.isDigit
  if digits.isEmpty then none else some (digitsValue digits, text.drop digits.length)

/-- Reads a number of one or two digits after blanks. -/
def readPair? (text : List Char) : Option (Nat × List Char) :=
  readDigits? 2 (text.dropWhile isBlank)

/-- Reads a year after blanks: four digits at most, or a sign and any number of digits. -/
def readYear? (text : List Char) : Option (Int × List Char) :=
  match text.dropWhile isBlank with
  | '-' :: rest => (readDigits? rest.length rest).map fun (n, rest) => (-(n : Int), rest)
  | '+' :: rest => (readDigits? rest.length rest).map fun (n, rest) => ((n : Int), rest)
  | text => (readDigits? 4 text).map fun (n, rest) => ((n : Int), rest)

/-- Reads a character that must be the next one. -/
def expect (c : Char) : List Char → Option (List Char)
  | head :: rest => if head = c then some rest else none
  | [] => none

/-- Reads a year, a month and a day. -/
def readDay? (text : List Char) : Option ((Int × Nat × Nat) × List Char) := do
  let (year, text) ← readYear? text
  let text ← expect '-' text
  let (month, text) ← readPair? text
  let text ← expect '-' text
  let (day, text) ← readPair? text
  some ((year, month, day), text)

/-- Reads a time of day. -/
def readTime? (text : List Char) : Option ((Nat × Nat × Nat) × List Char) := do
  let (hour, text) ← readPair? text
  let text ← expect ':' text
  let (minute, text) ← readPair? text
  let text ← expect ':' text
  let (second, text) ← readPair? text
  some ((hour, minute, second), text)

/-- Reads a date with or without a time of day, and nothing after it. -/
def read? (text : List Char) : Option DateTime := do
  let ((year, month, day), text) ← readDay? text
  if text.isEmpty then of? year month day 0 0 0
  else do
    let text ← expect 'T' text
    let ((hour, minute, second), text) ← readTime? text
    if text.isEmpty then of? year month day hour minute second else none

end DateTime

end EnsembleDesk
