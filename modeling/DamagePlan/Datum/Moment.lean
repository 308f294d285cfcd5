import DamagePlan.Decimal.Shortest

/-!
Moments: days, and times of a day with or without an offset from universal time.
-/
set_option autoImplicit false

namespace DamagePlan

structure Day where
  year : Nat
  month : Nat
  day : Nat
deriving DecidableEq, Repr

structure TimeOfDay where
  hour : Nat
  minute : Nat
  second : Nat
  microsecond : Nat := 0
  offset : Option Int := none
deriving DecidableEq, Repr

structure Moment where
  day : Day
  time : Option TimeOfDay := none
deriving DecidableEq, Repr

inductive MomentFault where
  | year (n : Nat)
  | month
  | day
  | hour
  | minute
  | second
  | offset (minutes : Int)
deriving DecidableEq, Repr

def differenceText (minutes : Int) : String :=
  let days := minutes / 1440
  let seconds := minutes % 1440 * 60
  let parts := (if days = 0 then [] else ["days=" ++ Decimal.integerText days])
    ++ (if seconds = 0 then [] else ["seconds=" ++ Decimal.integerText seconds])
  "datetime.timedelta(" ++ (if parts.isEmpty then "0" else ", ".intercalate parts) ++ ")"

def MomentFault.message : MomentFault → String
  | .year n => s!"year {n} is out of range"
  | .month => "month must be in 1..12"
  | .day => "day is out of range for month"
  | .hour => "hour must be in 0..23"
  | .minute => "minute must be in 0..59"
  | .second => "second must be in 0..59"
  | .offset minutes =>
    "offset must be a timedelta strictly between -timedelta(hours=24) and timedelta(hours=24), not "
      ++ differenceText minutes ++ "."

namespace Day

def isLeapYear (year : Nat) : Bool := year % 4 == 0 && (year % 100 != 0 || year % 400 == 0)

def daysInMonth (year month : Nat) : Nat :=
  if month == 2 then if isLeapYear year then 29 else 28
  else if [4, 6, 9, 11].contains month then 30 else 31

def fault? (d : Day) : Option MomentFault :=
  if d.year < 1 || 9999 < d.year then some (.year d.year)
  else if d.month < 1 || 12 < d.month then some .month
  else if d.day < 1 || daysInMonth d.year d.month < d.day then some .day
  else none

end Day

namespace TimeOfDay

def fault? (t : TimeOfDay) : Option MomentFault :=
  if 23 < t.hour then some .hour
  else if 59 < t.minute then some .minute
  else if 59 < t.second then some .second
  else none

def offsetFault? (t : TimeOfDay) : Option MomentFault :=
  t.offset.bind fun minutes => if minutes.natAbs < 1440 then none else some (.offset minutes)

end TimeOfDay

namespace Moment

def fault? (m : Moment) : Option MomentFault :=
  (m.time.bind TimeOfDay.offsetFault?).or (m.day.fault?.or (m.time.bind TimeOfDay.fault?))

def dayNumber (d : Day) : Nat :=
  let past := d.year - 1
  past * 365 + past / 4 - past / 100 + past / 400
    + ((List.range (d.month - 1)).map fun m => Day.daysInMonth d.year (m + 1)).foldl (· + ·) 0 + d.day

def instant? (m : Moment) : Option Int := do
  let t ← m.time
  let minutes ← t.offset
  return (((dayNumber m.day * 24 + t.hour) * 60 + t.minute : Nat) - minutes) * 60000000
    + (t.second * 1000000 + t.microsecond : Nat)

def isSame (m n : Moment) : Bool :=
  match m.instant?, n.instant? with
  | some i, some j => i == j
  | _, _ => m == n

def kindName (m : Moment) : String := if m.time.isSome then "datetime" else "date"

def offsetText (minutes : Int) : String :=
  if minutes = 0 then "datetime.timezone.utc" else s!"datetime.timezone({differenceText minutes})"

def timeParts (t : TimeOfDay) : List Nat :=
  [t.hour, t.minute] ++
    (if t.microsecond != 0 then [t.second, t.microsecond] else if t.second != 0 then [t.second] else [])

def shown (m : Moment) : String :=
  let day := [m.day.year, m.day.month, m.day.day]
  let time := (m.time.map timeParts).getD []
  let zone := ((m.time.bind (·.offset)).map fun minutes => [s!"tzinfo={offsetText minutes}"]).getD []
  s!"datetime.{m.kindName}(" ++ ", ".intercalate ((day ++ time).map toString ++ zone) ++ ")"

end Moment

end DamagePlan
