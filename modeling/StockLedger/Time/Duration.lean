/-!
Duration text such as `1h2m3.5s`, `250ms` or `-1.5us`: an optional sign, then one or
more pairs of a decimal number and a unit (`ns`, `us`, `µs`, `μs`, `ms`, `s`, `m`, `h`),
or the bare text `0`. The fraction of each number is scaled to nanoseconds in
double-precision arithmetic and truncated, as the duration format defines it. A total
beyond the signed 64-bit range is refused.
-/

namespace StockLedger

namespace Duration

/-- Nanoseconds in one of a unit. -/
def unitNanos : String → Option Nat
  | "ns" => some 1
  | "us" => some 1000
  | "µs" => some 1000
  | "μs" => some 1000
  | "ms" => some 1000000
  | "s" => some 1000000000
  | "m" => some 60000000000
  | "h" => some 3600000000000
  | _ => none

/-- `2^63`, the bound on magnitudes. -/
def bound : Nat := 9223372036854775808

/-- Reads leading digits; refuses a value past `2^63`. -/
def leadingInt (cs : List Char) : Option (Nat × List Char) :=
  let ds := cs.takeWhile Char.isDigit
  let v := ds.foldl (fun (acc : Option Nat) c =>
    acc.bind fun x => if x > bound / 10 then none else
      let y := x * 10 + (c.toNat - '0'.toNat)
      if y > bound then none else some y) (some 0)
  v.map fun x => (x, cs.drop ds.length)

/-- Reads fraction digits: their value and ten to the number of digits kept, stopping
to keep digits once the value would pass the 63-bit range. -/
def leadingFraction (cs : List Char) : Nat × Float × List Char :=
  let ds := cs.takeWhile Char.isDigit
  let (x, scale, _) := ds.foldl (fun (acc : Nat × Float × Bool) c =>
    let (x, scale, capped) := acc
    if capped then acc
    else if x > (bound - 1) / 10 then (x, scale, true)
    else
      let y := x * 10 + (c.toNat - '0'.toNat)
      if y > bound then (x, scale, true) else (y, scale * 10, false)) (0, 1, false)
  (x, scale, cs.drop ds.length)

/-- Reads the number-and-unit pairs of a duration, adding their nanoseconds to `total`. -/
def pairs : Nat → Nat → List Char → Option Nat
  | 0, _, _ => none
  | _ + 1, total, [] => some total
  | fuel + 1, total, cs@(c :: _) => do
    if !(c = '.' ∨ c.isDigit) then none
    let (v, rest) ← leadingInt cs
    let pre := rest.length != cs.length
    let (f, scale, rest, post) := match rest with
      | '.' :: r =>
        let (f, scale, r') := leadingFraction r
        (f, scale, r', r'.length != r.length)
      | _ => (0, 1, rest, false)
    if !pre && !post then none
    let unitChars := rest.takeWhile (fun c => !(c = '.' ∨ c.isDigit))
    if unitChars.isEmpty then none
    let unit ← unitNanos (String.ofList unitChars)
    let rest := rest.drop unitChars.length
    if v > bound / unit then none
    let v := v * unit
    let v := if f > 0 then v + (Float.ofNat f * (Float.ofNat unit / scale)).toUInt64.toNat else v
    if v > bound then none
    let total := total + v
    if total > bound then none
    pairs fuel total rest

/-- Reads duration text as signed nanoseconds. -/
def parse (text : String) : Option Int64 :=
  let cs := text.toList
  let (neg, cs) := match cs with
    | '-' :: r => (true, r)
    | '+' :: r => (false, r)
    | _ => (false, cs)
  if cs = ['0'] then some 0
  else if cs.isEmpty then none
  else
    match pairs (cs.length + 1) 0 cs with
    | none => none
    | some d =>
      if neg then some (Int64.ofInt (-(d : Int)))
      else if d > bound - 1 then none
      else some (Int64.ofInt d)

end Duration

end StockLedger
