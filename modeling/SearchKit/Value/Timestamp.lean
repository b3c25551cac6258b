/-!
# Timestamps

A day of the calendar, perhaps with a time of day and its distance from universal time.

* `Timestamp`, `ClockTime`: the parts as they are written.
* `Timestamp.isValid`: the parts name a day and a time that exist.
* `Timestamp.same`: equality, which for times of known distance is equality of the instant.
* `Timestamp.form`: the form inside a container.
-/

namespace SearchKit

/-- A time of day. -/
structure ClockTime where
  hour : Nat
  minute : Nat
  second : Nat
  micro : Nat
  /-- The seconds by which the clock is ahead of universal time, if that is known. -/
  offset : Option Int
  deriving DecidableEq, Inhabited, Repr

/-- A day, perhaps with a time. -/
structure Timestamp where
  year : Nat
  month : Nat
  day : Nat
  time : Option ClockTime
  deriving DecidableEq, Inhabited, Repr

namespace Timestamp

/-- The year has a day more. -/
def isLeap (year : Nat) : Bool := year % 4 == 0 && (year % 100 != 0 || year % 400 == 0)

/-- The lengths of the months of a year. -/
def monthLengths (year : Nat) : List Nat :=
  [31, if isLeap year then 29 else 28, 31, 30, 31, 30, 31, 31, 30, 31, 30, 31]

/-- The seconds of a day. -/
def daySeconds : Nat := 86400

/-- The time of day exists, and its clock is less than a day off. -/
def isClockTime (t : ClockTime) : Bool :=
  t.hour < 24 && t.minute < 60 && t.second < 60 &&
    t.offset.all fun seconds => seconds.natAbs < daySeconds

/-- The day and the time exist. -/
def isValid (t : Timestamp) : Bool :=
  1 ≤ t.year && t.year ≤ 9999 && 1 ≤ t.month && 1 ≤ t.day &&
    t.day ≤ (monthLengths t.year).getD (t.month - 1) 0 && t.time.all isClockTime

/-- The days before a day, counted from the start of the calendar. -/
def dayNumber (t : Timestamp) : Nat :=
  let before := t.year - 1
  365 * before + before / 4 - before / 100 + before / 400 +
    ((monthLengths t.year).take (t.month - 1)).foldl (· + ·) 0 + t.day

/-- The microseconds before an instant, if the distance from universal time is known. -/
def instant? (t : Timestamp) : Option Int := do
  let time ← t.time
  let offset ← time.offset
  let seconds : Int := daySeconds * t.dayNumber + 3600 * time.hour + 60 * time.minute + time.second
  return 1000000 * (seconds - offset) + time.micro

/-- Two timestamps are equal: the same instant, or the same parts where no instant is known. -/
def same (s t : Timestamp) : Bool :=
  match s.instant?, t.instant? with
  | some m, some n => m == n
  | none, none => s == t
  | _, _ => false

/-- The form of a time zone by its distance from universal time, as days and seconds. -/
def zoneForm (offset : Int) : String :=
  if offset = 0 then "datetime.timezone.utc"
  else
    let days := if offset < 0 then "days=-1, " else ""
    let seconds := if offset < 0 then offset + daySeconds else offset
    "datetime.timezone(datetime.timedelta(" ++ days ++ "seconds=" ++ toString seconds ++ "))"

/-- The parts of a time that are written: the seconds and their fraction may be left out. -/
def clockParts (t : ClockTime) : List Nat :=
  [t.hour, t.minute] ++ (if t.second = 0 ∧ t.micro = 0 then [] else [t.second]) ++
    if t.micro = 0 then [] else [t.micro]

/-- The form of a timestamp inside a container. -/
def form (t : Timestamp) : String :=
  let day := [t.year, t.month, t.day]
  let parts (ns : List Nat) : String := ", ".intercalate (ns.map toString)
  match t.time with
  | none => "datetime.date(" ++ parts day ++ ")"
  | some time =>
    let zone := match time.offset with
      | some offset => ", tzinfo=" ++ zoneForm offset
      | none => ""
    "datetime.datetime(" ++ parts (day ++ clockParts time) ++ zone ++ ")"

end Timestamp

end SearchKit
