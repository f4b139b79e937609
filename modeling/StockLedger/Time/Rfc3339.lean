import StockLedger.Time.Instant

/-!
RFC 3339 timestamps. Reading takes a four-digit year, two-digit month, day, minute and
second, an hour of one or two digits, an optional fraction after `.` or `,` (digits past
the ninth are ignored), and `Z` or a `±hh:mm` offset; the date must exist. Reading works
on the text's bytes and a refusal says where it stopped, naming the layout element that
did not match or the value out of range; the instant keeps the offset it was written
with. Writing gives the shortest fraction that keeps every nanosecond, none when it is
zero, either in UTC with `Z` or on the instant's own clock with its offset.
-/

namespace StockLedger

namespace Rfc3339

/-- Whether a byte is an ASCII digit. -/
def isDigit (b : UInt8) : Bool := 0x30 ≤ b && b ≤ 0x39

/-- The value of an ASCII digit byte. -/
def digitValue (b : UInt8) : Nat := b.toNat - 0x30

/-- The value of a run of ASCII digit bytes. -/
def digitsValue (bs : List UInt8) : Nat :=
  bs.foldl (fun acc b => acc * 10 + digitValue b) 0

/-- The layout every message names. -/
def layout : String := "2006-01-02T15:04:05Z07:00"

/-- Two hexadecimal digits of a byte. -/
def hexByte (b : UInt8) : String :=
  let digit (n : Nat) : Char := if n < 10 then Char.ofNat (0x30 + n) else Char.ofNat (0x57 + n)
  String.ofList [digit (b.toNat / 16), digit (b.toNat % 16)]

/-- Bytes quoted for a message: bytes outside printable ASCII as `\xhh`, and a quote
or backslash escaped with a backslash. -/
def quoteBytes (bs : List UInt8) : String :=
  let body := bs.map fun b =>
    if b ≥ 0x80 ∨ b < 0x20 then "\\x" ++ hexByte b
    else if b = 0x22 then "\\\""
    else if b = 0x5C then "\\\\"
    else String.singleton (Char.ofNat b.toNat)
  "\"" ++ String.join body ++ "\""

/-- Why a timestamp was refused: the input left when an element of the layout did not
match it, or a complaint about a value. -/
inductive Slip where
  | cannot (rest : List UInt8) (element : String)
  | complaint (text : String)

/-- The message of a refused timestamp. -/
def Slip.message (input : List UInt8) : Slip → String
  | .cannot rest element =>
    "parsing time " ++ quoteBytes input ++ " as " ++ quoteBytes layout.toUTF8.toList ++
      ": cannot parse " ++ quoteBytes rest ++ " as " ++ quoteBytes element.toUTF8.toList
  | .complaint text => "parsing time " ++ quoteBytes input ++ text

/-- Consumes one literal byte of the layout. -/
def literal (c : UInt8) (element : String) : List UInt8 → Except Slip (List UInt8)
  | b :: rest => if b = c then .ok rest else .error (.cannot (b :: rest) element)
  | [] => .error (.cannot [] element)

/-- Reads a two-digit number, or with `loose` also a single digit not followed by
another. -/
def number (loose : Bool) : List UInt8 → Option (Nat × List UInt8)
  | a :: b :: rest =>
    if !isDigit a then none
    else if isDigit b then some (digitValue a * 10 + digitValue b, rest)
    else if loose then some (digitValue a, b :: rest)
    else none
  | [a] => if isDigit a && loose then some (digitValue a, []) else none
  | [] => none

/-- Reads a number of the layout, refusing the input left when there is none and
complaining when it is past its bound. -/
def field (loose : Bool) (element what : String) (bound : Nat) (bs : List UInt8) :
    Except Slip (Nat × List UInt8) :=
  match number loose bs with
  | none => .error (.cannot bs element)
  | some (n, rest) =>
    if n ≥ bound then .error (.complaint (": " ++ what ++ " out of range")) else .ok (n, rest)

/-- Reads the fraction after a second: a mark and at least one digit, scaled to
nanoseconds from its first nine digits. Without a fraction the input is left alone. -/
def fraction (bs : List UInt8) : Nat × List UInt8 :=
  match bs with
  | m :: d :: rest =>
    if (m = 0x2E ∨ m = 0x2C) ∧ isDigit d then
      let digits := (d :: rest).takeWhile isDigit
      let after := (d :: rest).dropWhile isDigit
      let kept := digits.take 9
      (digitsValue kept * Nat.pow 10 (9 - kept.length), after)
    else (0, bs)
  | _ => (0, bs)

/-- Reads the zone: `Z`, or a sign, two hour digits, a colon and two minute digits,
giving the offset east of UTC in seconds. Offsets up to 24 hours and 60 minutes pass. -/
def zone (bs : List UInt8) : Except Slip (Int × List UInt8) :=
  match bs with
  | 0x5A :: rest => .ok (0, rest)
  | s :: h1 :: h2 :: c :: m1 :: m2 :: rest =>
    if c ≠ 0x3A then .error (.cannot bs "Z07:00")
    else
      let hour := number false [h1, h2]
      let minute := match hour with
        | some _ => number false [m1, m2]
        | none => none
      let hourOff := match hour with
        | some (h, _) => decide (h > 24)
        | none => false
      let minuteOff := match minute with
        | some (m, _) => decide (m > 60)
        | none => false
      if minuteOff then .error (.complaint ": time zone offset minute out of range")
      else if hourOff then .error (.complaint ": time zone offset hour out of range")
      else
        match hour, minute with
        | some (h, _), some (m, _) =>
          let offset : Int := ((h * 60 + m) * 60 : Nat)
          if s = 0x2B then .ok (offset, rest)
          else if s = 0x2D then .ok (-offset, rest)
          else .error (.cannot bs "Z07:00")
        | _, _ => .error (.cannot bs "Z07:00")
  | _ => .error (.cannot bs "Z07:00")

/-- Reads an RFC 3339 timestamp from bytes, or says why not. -/
def readBytes (input : List UInt8) : Except Slip Instant := do
  let (year, bs) ← match input with
    | a :: b :: c :: d :: rest =>
      if [a, b, c, d].all isDigit then pure (digitsValue [a, b, c, d], rest)
      else throw (.cannot input "2006")
    | _ => throw (.cannot input "2006")
  let bs ← literal 0x2D "-" bs
  let (month, bs) ← match number false bs with
    | none => throw (.cannot bs "01")
    | some (m, rest) =>
      if m < 1 ∨ m > 12 then throw (.complaint ": month out of range") else pure (m, rest)
  let bs ← literal 0x2D "-" bs
  let (day, bs) ← match number false bs with
    | none => throw (.cannot bs "02")
    | some r => pure r
  let bs ← literal 0x54 "T" bs
  let (hour, bs) ← field true "15" "hour" 24 bs
  let bs ← literal 0x3A ":" bs
  let (minute, bs) ← field false "04" "minute" 60 bs
  let bs ← literal 0x3A ":" bs
  let (second, bs) ← field false "05" "second" 60 bs
  let (nsec, bs) := fraction bs
  let (offset, bs) ← zone bs
  if !bs.isEmpty then throw (.complaint (": extra text: " ++ quoteBytes bs))
  if day < 1 ∨ (day : Int) > Instant.daysIn month year then throw (.complaint ": day out of range")
  let t := Instant.ofCivil year month day hour minute second nsec
  return { ticks := t.ticks - offset * Instant.perSecond, zone := offset }

/-- Reads an RFC 3339 timestamp, or gives the message saying why it cannot be read. -/
def read (text : String) : Except String Instant :=
  let input := text.toUTF8.toList
  match readBytes input with
  | .ok t => .ok t
  | .error slip => .error (slip.message input)

/-- Reads an RFC 3339 timestamp. -/
def parse (text : String) : Option Instant :=
  match read text with
  | .ok t => some t
  | .error _ => none

/-- Decimal digits of `n`, left-padded with zeros to `width`. -/
def padded (width : Nat) (n : Nat) : String :=
  let s := Nat.repr n
  String.ofList (List.replicate (width - s.length) '0') ++ s

/-- The fraction of a second as written: a point and the nanoseconds without trailing
zeros, or nothing when they are zero. -/
def fractionText (nsec : Nat) : String :=
  if nsec = 0 then ""
  else
    let digits := (padded 9 nsec).toList
    let trimmed := (digits.reverse.dropWhile (· = '0')).reverse
    "." ++ String.ofList trimmed

/-- A year as written: at least four digits, with a minus sign before the year zero. -/
def yearText (year : Int) : String :=
  if year < 0 then "-" ++ padded 4 year.natAbs else padded 4 year.toNat

/-- Calendar fields as an RFC 3339 date and time, without the zone. -/
def civilText (c : Instant.Civil) : String :=
  yearText c.year ++ "-" ++ padded 2 c.month.toNat ++ "-" ++ padded 2 c.day.toNat ++ "T" ++
    padded 2 c.hour.toNat ++ ":" ++ padded 2 c.minute.toNat ++ ":" ++ padded 2 c.second.toNat ++
    fractionText c.nanos.toNat

/-- An offset east of UTC in seconds as its sign, hours and minutes, split by `sep`. -/
def offsetText (sep : String) (zone : Int) : String :=
  let m := zone.natAbs / 60
  (if zone < 0 then "-" else "+") ++ padded 2 (m / 60) ++ sep ++ padded 2 (m % 60)

/-- Writes an instant as an RFC 3339 timestamp in UTC with the shortest exact fraction. -/
def format (t : Instant) : String := civilText t.civil ++ "Z"

/-- Writes an instant as an RFC 3339 timestamp on its own clock: `Z` at UTC, else the
offset. -/
def formatZoned (t : Instant) : String :=
  civilText t.wallClock ++ (if t.zone = 0 then "Z" else offsetText ":" t.zone)

/-- Why an instant cannot be written as a strict RFC 3339 timestamp, if it cannot: its
year on its own clock must have four digits and its offset must be under 24 hours. -/
def strictFault? (t : Instant) : Option String :=
  let y := t.wallClock.year
  if y < 0 ∨ y > 9999 then some "year outside of range [0,9999]"
  else if t.zone.natAbs / 3600 ≥ 24 then some "timezone hour outside of range [0,23]"
  else none

end Rfc3339

end StockLedger
