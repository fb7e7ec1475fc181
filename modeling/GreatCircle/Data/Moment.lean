/-
# Dates and times

A document can hold a day of the calendar, or a day with a time and perhaps an offset from
universal time.
-/
namespace GreatCircle

/-- A day, or a point of time. -/
inductive Moment where
  /-- A day of the calendar. -/
  | day (year month day : Nat)
  /-- A day, a time of that day with millionths of a second, and the offset from universal time
  in minutes if one is given. -/
  | time (year month day hour minute second micros : Nat) (offset : Option Int)
deriving DecidableEq, Repr

namespace Moment

/-- A number with zeros in front up to a width. -/
def padded (width n : Nat) : String :=
  let digits := Nat.toDigits 10 n
  String.ofList (List.replicate (width - digits.length) '0' ++ digits)

/-- An offset from universal time, in hours and minutes. -/
def offsetText (minutes : Int) : String :=
  (if minutes < 0 then "-" else "+") ++ padded 2 (minutes.natAbs / 60) ++ ":" ++
    padded 2 (minutes.natAbs % 60)

/-- The text of a moment: year, month and day, then the time. -/
def text : Moment → String
  | day y m d => padded 4 y ++ "-" ++ padded 2 m ++ "-" ++ padded 2 d
  | time y m d hour minute second micros offset =>
    padded 4 y ++ "-" ++ padded 2 m ++ "-" ++ padded 2 d ++ " " ++
      padded 2 hour ++ ":" ++ padded 2 minute ++ ":" ++ padded 2 second ++
      (if micros = 0 then "" else "." ++ padded 6 micros) ++
      (match offset with
        | some minutes => offsetText minutes
        | none => "")

/-- The name of the kind of moment. -/
def kindName : Moment → String
  | day .. => "datetime.date"
  | time .. => "datetime.datetime"

/-- The written form of a span of minutes: whole days, which may be fewer than none, and the
seconds that are left. -/
def spanWritten (minutes : Int) : String :=
  let seconds := minutes * 60
  let days := seconds.fdiv 86400
  let left := seconds.fmod 86400
  let parts := (if days = 0 then [] else ["days=" ++ toString days]) ++
    (if left = 0 then [] else ["seconds=" ++ toString left])
  "datetime.timedelta(" ++ ", ".intercalate parts ++ ")"

/-- The written form of an offset from universal time. -/
def offsetWritten (minutes : Int) : String :=
  if minutes = 0 then "tzinfo=datetime.timezone.utc"
  else "tzinfo=datetime.timezone(" ++ spanWritten minutes ++ ")"

/-- The written form of a moment: its kind and its parts, without zeros at the end. -/
def written (moment : Moment) : String :=
  let parts := match moment with
    | day y m d => [y, m, d].map toString
    | time y m d hour minute second micros offset =>
      [y, m, d, hour, minute].map toString ++
        (if second = 0 ∧ micros = 0 then [] else [toString second]) ++
        (if micros = 0 then [] else [toString micros]) ++
        offset.toList.map offsetWritten
  moment.kindName ++ "(" ++ ", ".intercalate parts ++ ")"

/-- The days of a month. -/
def daysInMonth (year month : Nat) : Nat :=
  if month = 2 then if year % 4 = 0 ∧ (year % 100 ≠ 0 ∨ year % 400 = 0) then 29 else 28
  else if month = 4 ∨ month = 6 ∨ month = 9 ∨ month = 11 then 30
  else 31

/-- The number of a day, counted from the first day of the first year. -/
def dayNumber (year month day : Nat) : Nat :=
  let before := year - 1
  365 * before + before / 4 - before / 100 + before / 400 +
    ((List.range (month - 1)).map fun i => daysInMonth year (i + 1)).foldr (· + ·) 0 + day

/-- A moment with an offset, in millionths of a second of universal time.  Two such moments are
the same if these are. -/
def instant? : Moment → Option Int
  | time y m d hour minute second micros (some offset) =>
    let minutes : Int := (dayNumber y m d * 24 + hour : Nat) * 60 + minute - offset
    some ((minutes * 60 + second) * 1000000 + micros)
  | _ => none

/-- The first part of a moment that is out of range, as a message; the offset is looked at
before the rest. -/
def rangeFault? : Moment → Option String
  | day y m d => dateFault? y m d
  | time y m d hour minute second _ offset =>
    match offset with
    | some minutes =>
      if minutes.natAbs < 24 * 60 then
        (dateFault? y m d).or (timeFault? hour minute second)
      else some ("offset must be a timedelta strictly between -timedelta(hours=24) and " ++
        "timedelta(hours=24), not " ++ spanWritten minutes ++ ".")
    | none => (dateFault? y m d).or (timeFault? hour minute second)
where
  /-- The first part of a day that is out of range. -/
  dateFault? (y m d : Nat) : Option String :=
    if y = 0 then some "year 0 is out of range"
    else if m = 0 ∨ 12 < m then some "month must be in 1..12"
    else if d = 0 ∨ daysInMonth y m < d then some "day is out of range for month"
    else none
  /-- The first part of a time of day that is out of range. -/
  timeFault? (hour minute second : Nat) : Option String :=
    if 23 < hour then some "hour must be in 0..23"
    else if 59 < minute then some "minute must be in 0..59"
    else if 59 < second then some "second must be in 0..59"
    else none

end Moment

end GreatCircle
