/-!
Instants on the proleptic Gregorian calendar, counted in nanoseconds from
0001-01-01T00:00:00Z, and the calendar arithmetic that turns them into dates and back.
An instant also keeps the UTC offset of the clock it was read on, which only changes how
it is written; order and arithmetic look at the count alone, and arithmetic keeps the
offset. Durations are signed 64-bit nanosecond counts; adding one to an instant stops at
the widest whole-second range instead of wrapping.
-/

namespace StockLedger

/-- A point in time: nanoseconds since the start of 0001-01-01 UTC, and the offset east
of UTC, in seconds, of the clock it was read on. The instant with zero ticks is the
"unset" instant that callers treat as missing. -/
structure Instant where
  ticks : Int
  zone : Int := 0
deriving DecidableEq

namespace Instant

instance : LT Instant := ⟨fun a b => a.ticks < b.ticks⟩
instance : LE Instant := ⟨fun a b => a.ticks ≤ b.ticks⟩

instance (a b : Instant) : Decidable (a < b) := inferInstanceAs (Decidable (a.ticks < b.ticks))
instance (a b : Instant) : Decidable (a ≤ b) := inferInstanceAs (Decidable (a.ticks ≤ b.ticks))

/-- Nanoseconds in one second. -/
def perSecond : Int := 1000000000

/-- The unset instant, 0001-01-01T00:00:00Z. -/
def zero : Instant := { ticks := 0 }

/-- Whether an instant is the unset one, on whatever clock it was read. -/
def isZero (t : Instant) : Bool := t.ticks == 0

/-- Whole seconds since the epoch of the count, rounded toward the past. -/
def seconds (t : Instant) : Int := t.ticks / perSecond

/-- Nanoseconds past the whole second, in `[0, 10^9)`. -/
def nanos (t : Instant) : Int := t.ticks % perSecond

/-- Builds an instant from whole seconds and nanoseconds past them. -/
def ofParts (sec nsec : Int) : Instant := { ticks := sec * perSecond + nsec }

/-- Days from 1970-01-01 to the given civil date (month 1 to 12); days before it are negative. -/
def daysFromCivil (year month day : Int) : Int :=
  let y := if month ≤ 2 then year - 1 else year
  let era := y / 400
  let yoe := y - era * 400
  let mp := if month > 2 then month - 3 else month + 9
  let doy := (153 * mp + 2) / 5 + day - 1
  let doe := yoe * 365 + yoe / 4 - yoe / 100 + doy
  era * 146097 + doe - 719468

/-- The civil date (year, month, day) of a day counted from 1970-01-01. -/
def civilFromDays (days : Int) : Int × Int × Int :=
  let z := days + 719468
  let era := z / 146097
  let doe := z - era * 146097
  let yoe := (doe - doe / 1460 + doe / 36524 - doe / 146096) / 365
  let doy := doe - (365 * yoe + yoe / 4 - yoe / 100)
  let mp := (5 * doy + 2) / 153
  let day := doy - (153 * mp + 2) / 5 + 1
  let month := if mp < 10 then mp + 3 else mp - 9
  let year := yoe + era * 400
  (if month ≤ 2 then year + 1 else year, month, day)

/-- Days from 0001-01-01 to 1970-01-01. -/
def unixEpochDays : Int := 719162

/-- Whether a year has a 29th of February. -/
def leapYear (year : Int) : Bool :=
  year % 4 == 0 && (year % 100 != 0 || year % 400 == 0)

/-- Number of days in a month of a year. -/
def daysIn (month year : Int) : Int :=
  if month == 2 then (if leapYear year then 29 else 28)
  else if month == 4 || month == 6 || month == 9 || month == 11 then 30
  else 31

/-- The instant of a civil date and time of day in UTC. -/
def ofCivil (year month day hour minute second nsec : Int) : Instant :=
  let days := daysFromCivil year month day + unixEpochDays
  ofParts (((days * 24 + hour) * 60 + minute) * 60 + second) nsec

/-- Calendar fields of an instant in UTC: year, month, day, hour, minute, second. -/
structure Civil where
  year : Int
  month : Int
  day : Int
  hour : Int
  minute : Int
  second : Int
  nanos : Int

/-- The calendar fields of an instant, read in UTC. -/
def civil (t : Instant) : Civil :=
  let sec := t.seconds
  let days := sec / 86400
  let inDay := sec % 86400
  let (y, m, d) := civilFromDays (days - unixEpochDays)
  { year := y, month := m, day := d, hour := inDay / 3600, minute := inDay % 3600 / 60,
    second := inDay % 60, nanos := t.nanos }

/-- The largest whole-second count an instant keeps when a duration is added. -/
def secondsBound : Int := 9223372036854775807

/-- Adds whole seconds, stopping at `±secondsBound` when the sum leaves the 64-bit range. -/
def shiftSeconds (sec d : Int) : Int :=
  let sum := sec + d
  if sum > secondsBound then secondsBound
  else if sum < -secondsBound - 1 then -secondsBound
  else sum

/-- Adds a signed nanosecond duration. The whole seconds of the duration are split off
toward zero, the nanoseconds carried into the second, and the second count stops at the
64-bit bound instead of wrapping. -/
def addDuration (t : Instant) (d : Int64) : Instant :=
  let dv := d.toInt
  let dsec := dv.tdiv perSecond
  let n := t.nanos + dv.tmod perSecond
  let (dsec, n) :=
    if n ≥ perSecond then (dsec + 1, n - perSecond)
    else if n < 0 then (dsec - 1, n + perSecond)
    else (dsec, n)
  { ofParts (shiftSeconds t.seconds dsec) n with zone := t.zone }

/-- The distance from `a` to `b` in nanoseconds, unbounded. -/
def diff (b a : Instant) : Int := b.ticks - a.ticks

/-- The calendar fields of an instant on the clock it was read on. -/
def wallClock (t : Instant) : Civil := civil { ticks := t.ticks + t.zone * perSecond }

/-- The same instant read on a clock at UTC. -/
def inUtc (t : Instant) : Instant := { ticks := t.ticks }

end Instant

end StockLedger
