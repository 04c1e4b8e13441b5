/-
# Dates and times of day

Document texts may hold dates, alone or with a time of day and a distance from universal time.
Only their text in the international format and their validity matter here.
-/

namespace ToolGateway

/-- A time of day; `offset` is the distance from universal time in minutes, if given. -/
structure DayTime where
  hour : Nat
  minute : Nat
  second : Nat
  microsecond : Nat
  offset : Option Int
deriving DecidableEq, Repr

/-- A date of the proleptic calendar, alone or with a time of day. -/
structure Moment where
  year : Nat
  month : Nat
  day : Nat
  time : Option DayTime
deriving DecidableEq, Repr

namespace Moment

/-- The natural in decimal, with zeros in front up to the width. -/
def padded (width n : Nat) : String :=
  let digits := Nat.toDigits 10 n
  .ofList (List.replicate (width - digits.length) '0' ++ digits)

/-- Every fourth year is a leap year, of the full centuries every fourth one. -/
def isLeap (year : Nat) : Bool := year % 4 == 0 && (year % 100 != 0 || year % 400 == 0)

/-- The number of days of a month. -/
def daysIn (year month : Nat) : Nat :=
  match month with
  | 2 => if isLeap year then 29 else 28
  | 4 | 6 | 9 | 11 => 30
  | _ => 31

/-- The distance from universal time as a sign, hours and minutes. -/
def offsetText (minutes : Int) : String :=
  (if minutes < 0 then "-" else "+") ++ padded 2 (minutes.natAbs / 60) ++ ":"
    ++ padded 2 (minutes.natAbs % 60)

/-- The text in the international format, with `separator` between the date and the time. -/
def text (m : Moment) (separator : String) : String :=
  let date := padded 4 m.year ++ "-" ++ padded 2 m.month ++ "-" ++ padded 2 m.day
  match m.time with
  | none => date
  | some t =>
    date ++ separator ++ padded 2 t.hour ++ ":" ++ padded 2 t.minute ++ ":" ++ padded 2 t.second
      ++ (if t.microsecond = 0 then "" else "." ++ padded 6 t.microsecond)
      ++ (t.offset.map offsetText).getD ""

/-- The international format. -/
def iso (m : Moment) : String := m.text "T"

/-- The first part of a moment that lies outside its range, in words. -/
def fault? (m : Moment) : Option String :=
  if m.year < 1 then some ("year " ++ toString m.year ++ " is out of range")
  else if m.month < 1 ∨ 12 < m.month then some "month must be in 1..12"
  else if m.day < 1 ∨ daysIn m.year m.month < m.day then some "day is out of range for month"
  else
    match m.time with
    | none => none
    | some t =>
      if 23 < t.hour then some "hour must be in 0..23"
      else if 59 < t.minute then some "minute must be in 0..59"
      else if 59 < t.second then some "second must be in 0..59"
      else none

/-- The days from the first day of the first year on, counted from one. -/
def dayNumber (m : Moment) : Nat :=
  let years := m.year - 1
  let months := (List.range (m.month - 1)).foldl (fun n i => n + daysIn m.year (i + 1)) 0
  years * 365 + years / 4 - years / 100 + years / 400 + months + m.day

/-- The millionths of a second in universal time, if the distance from it is given. -/
def instant? (m : Moment) : Option Int := do
  let t ← m.time
  let offset ← t.offset
  let minutes : Int := (m.dayNumber * 24 + t.hour) * 60 + t.minute - offset
  return (minutes * 60 + t.second) * 1000000 + t.microsecond

/-- Two moments are the same: with a distance from universal time they are compared there, and
without it as they are written. -/
def sameMoment (m n : Moment) : Bool :=
  match m.instant?, n.instant? with
  | some i, some j => i == j
  | none, none => m == n
  | _, _ => false

example : (⟨2001, 1, 1, some ⟨0, 0, 0, 0, some 0⟩⟩ : Moment).sameMoment
    ⟨2001, 1, 1, some ⟨1, 0, 0, 0, some 60⟩⟩ = true := by decide
example : (⟨2024, 2, 29, none⟩ : Moment).fault? = none := by decide
example : (⟨2023, 2, 29, none⟩ : Moment).fault? = some "day is out of range for month" := by decide

end Moment
end ToolGateway
