import HomeConfig.Text.Recogniser
import HomeConfig.Yaml.Error

/-!
# Dates and times

A date of the calendar, and a time of day on it with or without the distance of its zone from the
standard time.  Both are written year first.
-/

namespace HomeConfig

namespace Yaml

/-- A day of the calendar. -/
structure Date where
  year : Nat
  month : Nat
  day : Nat
deriving DecidableEq, Repr

/-- A time of day on a date.  The zone is given in minutes east of the standard time. -/
structure DateTime where
  date : Date
  hour : Nat
  minute : Nat
  second : Nat
  microsecond : Nat
  zone : Option Int
deriving DecidableEq, Repr

namespace Date

/-- Whether a year has a leap day. -/
def isLeap (year : Nat) : Bool :=
  year % 4 == 0 && (year % 100 != 0 || year % 400 == 0)

/-- How many days a month has. -/
def daysIn (year month : Nat) : Nat :=
  if month = 2 then (if isLeap year then 29 else 28)
  else if month = 4 ∨ month = 6 ∨ month = 9 ∨ month = 11 then 30 else 31

/-- Whether the calendar has the day. -/
def isValid (date : Date) : Bool :=
  1 ≤ date.year && date.year ≤ 9999 && 1 ≤ date.month && date.month ≤ 12 && 1 ≤ date.day &&
    date.day ≤ daysIn date.year date.month

/-- The number of days before a year. -/
def daysBeforeYear (year : Nat) : Nat :=
  let past := year - 1
  past * 365 + past / 4 - past / 100 + past / 400

/-- The number of days before a date. -/
def ordinal (date : Date) : Nat :=
  let daysBeforeMonth := (List.range (date.month - 1)).foldr
    (fun month days => daysIn date.year (month + 1) + days) 0
  daysBeforeYear date.year + daysBeforeMonth + date.day

/-- A number with leading zeros. -/
def padded (width n : Nat) : String :=
  let digits := Nat.toDigits 10 n
  String.ofList (List.replicate (width - digits.length) '0' ++ digits)

/-- The text of a date. -/
def toText (date : Date) : String :=
  padded 4 date.year ++ "-" ++ padded 2 date.month ++ "-" ++ padded 2 date.day

end Date

namespace DateTime

open Date

/-- Whether there is such a time. -/
def isValid (time : DateTime) : Bool :=
  time.date.isValid && time.hour < 24 && time.minute < 60 && time.second < 60 &&
    time.zone.all fun zone => -1440 < zone && zone < 1440

/-- The microseconds since the start of the calendar, at the place of the time. -/
def localMicroseconds (time : DateTime) : Int :=
  ((((time.date.ordinal * 24 + time.hour) * 60 + time.minute) * 60 + time.second) * 1000000 +
    time.microsecond : Nat)

/-- Whether two times are the same: both without a zone and equal, or both with one and at the
same instant. -/
def same (first second : DateTime) : Bool :=
  match first.zone, second.zone with
  | none, none => first == second
  | some east, some otherEast =>
    first.localMicroseconds - east * 60000000 == second.localMicroseconds - otherEast * 60000000
  | _, _ => false

/-- The text of a zone. -/
def zoneText (zone : Int) : String :=
  (if zone < 0 then "-" else "+") ++ padded 2 (zone.natAbs / 60) ++ ":" ++
    padded 2 (zone.natAbs % 60)

/-- The text of a time. -/
def toText (time : DateTime) : String :=
  time.date.toText ++ "T" ++ padded 2 time.hour ++ ":" ++ padded 2 time.minute ++ ":" ++
    padded 2 time.second ++
    (if time.microsecond = 0 then "" else "." ++ padded 6 time.microsecond) ++
    (time.zone.map zoneText).getD ""

end DateTime

/-- A date or a time, as a document writes it. -/
inductive Timestamp
  | date (date : Date)
  | time (time : DateTime)
deriving DecidableEq, Repr

namespace Timestamp

open Recogniser

/-- The number that one or two digits write. -/
def oneOrTwo : Recogniser Nat := do
  let first ← one Char.isDigit
  let value (c : Char) : Nat := c.toNat - '0'.toNat
  firstOf [do
    let second ← one Char.isDigit
    pure (10 * value first + value second), pure (value first)]

/-- The number that exactly `count` digits write, behind the given ones. -/
def exactly (before : Nat) : (count : Nat) → Recogniser Nat
  | 0 => pure before
  | count + 1 => do
    let c ← one Char.isDigit
    exactly (10 * before + (c.toNat - '0'.toNat)) count

/-- The digits behind a decimal point as microseconds; further digits are dropped. -/
def microseconds (digits : Text) : Nat :=
  let six := digits.take 6
  (six ++ List.replicate (6 - six.length) '0').foldl
    (fun value c => 10 * value + (c.toNat - '0'.toNat)) 0

/-- The zone of a time in minutes, if one is given. -/
def zone : Recogniser (Option Int) :=
  firstOf [do
    skip fun c => c == ' ' || c == '\t'
    firstOf [do
      literal ['Z']
      pure (some 0), do
      let sign ← one fun c => c == '-' || c == '+'
      let hours ← oneOrTwo
      let minutes ← firstOf [do
        literal [':']
        exactly 0 2, pure 0]
      let distance : Int := hours * 60 + minutes
      pure (some (if sign = '-' then -distance else distance))], pure none]

/-- A time of day on a date. -/
def timeOn (date : Date) : Recogniser DateTime := do
  firstOf [do
    let _ ← one fun c => c == 'T' || c == 't', do
    let _ ← run1 fun c => c == ' ' || c == '\t']
  let hour ← oneOrTwo
  literal [':']
  let minute ← exactly 0 2
  literal [':']
  let second ← exactly 0 2
  let fraction ← firstOf [do
    literal ['.']
    let digits ← run Char.isDigit
    pure (microseconds digits.text), pure 0]
  let zone ← zone
  pure ⟨date, hour, minute, second, fraction, zone⟩

/-- Nothing more, apart from one line feed. -/
def theEnd : Recogniser Unit := fun cursor =>
  if cursor.rest.isEmpty || cursor.rest == ['\n'] then some ((), cursor) else none

/-- A date, or a time on it, and nothing else. -/
def form : Recogniser Timestamp := do
  let year ← exactly 0 4
  literal ['-']
  let month ← oneOrTwo
  literal ['-']
  let day ← oneOrTwo
  let date : Date := ⟨year, month, day⟩
  firstOf [do
    let moment ← timeOn date
    theEnd
    pure (.time moment), do
    theEnd
    pure (.date date)]

/-- The date or time that a text writes. -/
def read (text : Text) : Except ContentFault Timestamp :=
  match StateT.run form ⟨0, text⟩ with
  | none => .error .noDate
  | some (.date day, _) => if day.isValid then .ok (.date day) else .error .noSuchValue
  | some (.time moment, _) => if moment.isValid then .ok (.time moment) else .error .noSuchValue

end Timestamp

end Yaml

end HomeConfig
