import CourierDispatch.Json.Decode
import CourierDispatch.Text.Blank

/-!
# Time stamps

A point in time: whole seconds since the start of 1970 in universal time, and nanoseconds.
A leap second is the second before it with more than a thousand million nanoseconds.

Written, it is a date, `T`, a time and `Z`, with no, three, six or nine decimals of the second
as needed. A reader is laxer: it takes any offset, single digits, blanks between the parts, and
years of any number of digits behind a sign.
-/

namespace CourierDispatch

structure Timestamp where
  seconds : Int
  nanos : Nat
  deriving DecidableEq, Repr

namespace Timestamp

open Decimal (paddedDigits digits ofDigits signText)

/-! ## The calendar -/

/-- A day of the proleptic Gregorian calendar. -/
structure Date where
  year : Int
  month : Nat
  day : Nat
  deriving DecidableEq, Repr

def leapYear (year : Int) : Bool :=
  year % 4 = 0 && (year % 100 ≠ 0 || year % 400 = 0)

def daysInMonth (year : Int) (month : Nat) : Nat :=
  if month = 2 then if leapYear year then 29 else 28
  else if month = 4 ∨ month = 6 ∨ month = 9 ∨ month = 11 then 30
  else 31

/-- Does the calendar have the year? -/
def yearValid (year : Int) : Bool := -262143 ≤ year && year ≤ 262142

def Date.valid (d : Date) : Bool :=
  yearValid d.year && 1 ≤ d.month && d.month ≤ 12 && 1 ≤ d.day &&
    d.day ≤ daysInMonth d.year d.month

/-- Days since the start of 1970. Years are counted from March, so that the leap day is the last
day of its year. -/
def Date.number (d : Date) : Int :=
  let year := if d.month ≤ 2 then d.year - 1 else d.year
  let era := Int.fdiv year 400
  let yearOfEra := year - era * 400
  let month : Int := (d.month + 9) % 12
  let dayOfYear := (153 * month + 2) / 5 + d.day - 1
  let dayOfEra := yearOfEra * 365 + yearOfEra / 4 - yearOfEra / 100 + dayOfYear
  era * 146097 + dayOfEra - 719468

/-- The date of a day number. -/
def Date.ofNumber (n : Int) : Date :=
  let z := n + 719468
  let era := Int.fdiv z 146097
  let dayOfEra := z - era * 146097
  let yearOfEra :=
    (dayOfEra - dayOfEra / 1460 + dayOfEra / 36524 - dayOfEra / 146096) / 365
  let dayOfYear := dayOfEra - (365 * yearOfEra + yearOfEra / 4 - yearOfEra / 100)
  let month := (5 * dayOfYear + 2) / 153
  let day := dayOfYear - (153 * month + 2) / 5 + 1
  let calendarMonth := if month < 10 then month + 3 else month - 9
  ⟨yearOfEra + era * 400 + (if calendarMonth ≤ 2 then 1 else 0), calendarMonth.toNat, day.toNat⟩

example : Date.number ⟨1970, 1, 1⟩ = 0 ∧ Date.ofNumber 0 = ⟨1970, 1, 1⟩ := by decide
example : Date.number ⟨2000, 2, 29⟩ = 11016 ∧ Date.ofNumber 11016 = ⟨2000, 2, 29⟩ := by decide

/-! ## Writing -/

/-- Four digits, or a sign and at least four digits beyond them. -/
def yearText (year : Int) : List Char :=
  if 0 ≤ year ∧ year ≤ 9999 then paddedDigits 4 year.toNat
  else (if year < 0 then '-' else '+') :: paddedDigits 4 year.natAbs

/-- The decimals of a second, in groups of three as needed. -/
def fractionText (nanos : Nat) : List Char :=
  if nanos = 0 then []
  else if nanos % 1000000 = 0 then '.' :: paddedDigits 3 (nanos / 1000000)
  else if nanos % 1000 = 0 then '.' :: paddedDigits 6 (nanos / 1000)
  else '.' :: paddedDigits 9 nanos

/-- The date in universal time. -/
def date (t : Timestamp) : Date := Date.ofNumber (Int.fdiv t.seconds 86400)

/-- The written form. -/
def text (t : Timestamp) : String :=
  let date := t.date
  let time := (Int.fmod t.seconds 86400).toNat
  let leap := t.nanos / 1000000000
  String.ofList <|
    yearText date.year ++ '-' :: paddedDigits 2 date.month ++ '-' :: paddedDigits 2 date.day ++
      'T' :: paddedDigits 2 (time / 3600) ++ ':' :: paddedDigits 2 (time / 60 % 60) ++
      ':' :: paddedDigits 2 (time % 60 + leap) ++ fractionText (t.nanos % 1000000000) ++ ['Z']

/-! ## Reading -/

/-- What a reading step makes of a text: a part and the rest. -/
abbrev Step (α : Type) := List Char → Option (α × List Char)

/-- From one to `most` digits, blanks before them. -/
def number (most : Nat) : Step Nat := fun s =>
  let s := Text.trimStart s
  let ds := (s.take most).takeWhile Char.isDigit
  if ds = [] then none else some (ofDigits ds, s.drop ds.length)

/-- A year: up to four digits, or a sign and any number of them. -/
def yearStep : Step Int := fun s =>
  match Text.trimStart s with
  | '-' :: rest => signed (-1) rest
  | '+' :: rest => signed 1 rest
  | rest => (number 4 rest).map fun (n, rest) => (n, rest)
where
  signed (sign : Int) (rest : List Char) : Option (Int × List Char) :=
    let ds := rest.takeWhile Char.isDigit
    if ds = [] then none else some (sign * ofDigits ds, rest.drop ds.length)

/-- A mark between two parts, blanks before it. -/
def mark (c : Char) (s : List Char) : Option (List Char) :=
  match Text.trimStart s with
  | d :: rest => if d = c then some rest else none
  | [] => none

/-- The decimals of a second as nanoseconds; digits beyond the ninth are dropped. -/
def fraction : Step Nat
  | '.' :: s =>
    let ds := (s.take 9).takeWhile Char.isDigit
    if ds = [] then none
    else some (ofDigits ds * Nat.pow 10 (9 - ds.length), s.dropWhile Char.isDigit)
  | s => some (0, s)

/-- Two digits, the first up to `most`. -/
def twoDigits (most : Char) : Step Nat
  | a :: b :: rest =>
    if a.isDigit ∧ a ≤ most ∧ b.isDigit then some (ofDigits [a, b], rest) else none
  | _ => none

/-- The offset from universal time in seconds. -/
def offset (s : List Char) : Option (Int × List Char) :=
  let s := Text.trimStart s
  if Text.lower (s.take 3) = "utc".toList then some (0, s.drop 3)
  else match s with
    | 'Z' :: rest | 'z' :: rest => some (0, rest)
    | '+' :: rest => ahead 1 rest
    | '-' :: rest | '−' :: rest => ahead (-1) rest
    | _ => none
where
  ahead (sign : Int) (s : List Char) : Option (Int × List Char) := do
    let (hours, s) ← twoDigits '9' s
    let (minutes, s) ← twoDigits '5' (s.dropWhile fun c => c = ':' || Text.isBlank c)
    return (sign * (hours * 3600 + minutes * 60), s)

/-- Reads a date and a time with an offset; both ends of it have to be in the calendar. -/
def read? (s : String) : Option Timestamp := do
  let (year, s) ← yearStep s.toList
  let s ← mark '-' s
  let (month, s) ← number 2 s
  let s ← mark '-' s
  let (day, s) ← number 2 s
  let s ← match s with
    | 't' :: rest | 'T' :: rest | ' ' :: rest => some rest
    | _ => none
  let (hour, s) ← number 2 s
  let s ← mark ':' s
  let (minute, s) ← number 2 s
  let s ← mark ':' s
  let (second, s) ← number 2 s
  let (nanos, s) ← fraction s
  let (ahead, s) ← offset s
  let date : Date := ⟨year, month, day⟩
  if date.valid ∧ hour < 24 ∧ minute < 60 ∧ second ≤ 60 ∧ ahead.natAbs < 86400 ∧
      Text.trimStart s = [] then
    let leap := if second = 60 then 1 else 0
    let time : Int := hour * 3600 + minute * 60 + (second - leap : Nat)
    let t : Timestamp := ⟨date.number * 86400 + time - ahead, nanos + leap * 1000000000⟩
    if yearValid t.date.year then some t else none
  else none

def encode (t : Timestamp) : Json.Value := .text t.text

def decode : Json.Decoder Timestamp := Json.Decoder.refine Json.Decoder.text read?

end Timestamp

end CourierDispatch
