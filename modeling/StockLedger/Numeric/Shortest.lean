import StockLedger.Numeric.Binary64

/-!
The shortest decimal form of a binary64 value, and the text of a JSON number written
from it. A value owns the interval of reals that round to it; the shortest form is the
decimal with the fewest significant digits inside that interval, and among those the one
nearest the value, ties to an even last digit. The interval's ends belong to it exactly
when the significand is even, since a tie there rounds to this value.

The JSON text writes the shortest digits plainly, padding with zeros as needed, when the
magnitude is zero or from `1e-6` up to below `1e21`; otherwise it uses an exponent:
one digit, the rest after a point, then `e`, a sign and at least two exponent digits, the
leading zero of a negative two-digit exponent dropped (`1e-7`, `1e+21`).
-/

namespace StockLedger

namespace Binary64

/-- A decimal `digits · 10 ^ scale`. -/
structure Decimal where
  digits : Nat
  scale : Int
deriving Repr, DecidableEq

/-- Compares `c · 10 ^ p` with `q · 2 ^ t` exactly. -/
def compareDecimal (c : Nat) (p : Int) (q : Nat) (t : Int) : Ordering :=
  compare (c * Nat.pow 10 p.toNat * Nat.pow 2 (-t).toNat) (q * Nat.pow 10 (-p).toNat * Nat.pow 2 t.toNat)

/-- The rounding interval of a nonzero magnitude `m · 2 ^ e`, in units of `2 ^ (e - 2)`:
its lower end, its upper end, and whether the ends belong to it. Below a power of two
the gap to the next smaller value is half as wide, except among the subnormals. -/
def interval (m : Nat) (e : Int) : Nat × Nat × Bool :=
  let low := if m = Nat.pow 2 52 ∧ e > minExponent then 4 * m - 1 else 4 * m - 2
  (low, 4 * m + 2, m % 2 = 0)

/-- Whether `c · 10 ^ p` rounds to the magnitude `m · 2 ^ e`. -/
def roundsTo (m : Nat) (e : Int) (c : Nat) (p : Int) : Bool :=
  let (low, high, closed) := interval m e
  let above := compareDecimal c p low (e - 2)
  let below := compareDecimal c p high (e - 2)
  (above = .gt || (closed && above = .eq)) && (below = .lt || (closed && below = .eq))

/-- The decimal order of a nonzero magnitude `m · 2 ^ e`: the `k` with
`10 ^ k ≤ m · 2 ^ e < 10 ^ (k + 1)`. -/
def decimalOrder (m : Nat) (e : Int) : Int :=
  let a : Int := digitLength (m * Nat.pow 2 e.toNat)
  let b : Int := digitLength (Nat.pow 2 (-e).toNat)
  let guess := a - b
  if compareDecimal 1 guess m e = .gt then guess - 1 else guess

/-- The decimal with `n` significant digits nearest to `m · 2 ^ e`, if one of the two
neighbours at that precision rounds back to it. -/
def candidate (m : Nat) (e : Int) (order : Int) (n : Nat) : Option Decimal :=
  let p := order - n + 1
  let num := m * Nat.pow 2 e.toNat * Nat.pow 10 (-p).toNat
  let den := Nat.pow 2 (-e).toNat * Nat.pow 10 p.toNat
  let down := num / den
  if num % den = 0 then some ⟨down, p⟩
  else
    let up := down + 1
    match roundsTo m e down p, roundsTo m e up p with
    | true, true =>
      match compare (2 * num) ((2 * down + 1) * den) with
      | .lt => some ⟨down, p⟩
      | .gt => some ⟨up, p⟩
      | .eq => some ⟨if down % 2 = 0 then down else up, p⟩
    | true, false => some ⟨down, p⟩
    | false, true => some ⟨up, p⟩
    | false, false => none

/-- Removes trailing zeros from the digits, raising the scale. -/
def Decimal.trim (d : Decimal) : Decimal :=
  let rec strip : Nat → Nat → Int → Decimal
    | 0, c, p => ⟨c, p⟩
    | fuel + 1, c, p => if c ≠ 0 ∧ c % 10 = 0 then strip fuel (c / 10) (p + 1) else ⟨c, p⟩
  strip (digitLength d.digits) d.digits d.scale

/-- The shortest decimal of a value's magnitude; seventeen digits always suffice. -/
def shortest (x : Binary64) : Decimal :=
  if x.significand = 0 then ⟨0, 0⟩
  else
    let order := decimalOrder x.significand x.exponent
    match (List.range 17).findSome? (fun i => candidate x.significand x.exponent order (i + 1)) with
    | some d => d.trim
    | none => (⟨x.significand * Nat.pow 2 x.exponent.toNat, 0⟩ : Decimal).trim

/-- The value of the constant `1e-6`, the least magnitude written without exponent. -/
def plainLow : Binary64 := (ofDecimal false 1 (-6)).getD ⟨false, 0, minExponent⟩

/-- A run of zeros. -/
def zeros (n : Nat) : String := String.ofList (List.replicate n '0')

/-- The digits of a decimal written with a point where its scale puts it. -/
def plainText (d : Decimal) : String :=
  let ds := Nat.repr d.digits
  let point : Int := ds.length + d.scale
  if point ≤ 0 then "0." ++ zeros (-point).toNat ++ ds
  else if point.toNat ≥ ds.length then ds ++ zeros (point.toNat - ds.length)
  else String.ofList (ds.toList.take point.toNat) ++ "." ++ String.ofList (ds.toList.drop point.toNat)

/-- The digits of a decimal written with an exponent. -/
def scientificText (d : Decimal) : String :=
  let ds := (Nat.repr d.digits).toList
  let exp : Int := ds.length - 1 + d.scale
  let mantissa := match ds with
    | [] => "0"
    | [c] => String.singleton c
    | c :: rest => String.singleton c ++ "." ++ String.ofList rest
  let expDigits := Nat.repr exp.natAbs
  if exp < 0 then
    mantissa ++ "e-" ++ expDigits
  else
    mantissa ++ "e+" ++ (if expDigits.length < 2 then "0" ++ expDigits else expDigits)

/-- The JSON text of a value. -/
def text (x : Binary64) : String :=
  let sign := if x.negative then "-" else ""
  let d := shortest x
  let plain := x.isZero ||
    (compareMagnitude x plainLow != .lt && compareScaled x.significand x.exponent (Nat.pow 10 21) 0 = .lt)
  sign ++ (if plain then plainText d else scientificText d)

/-- The general text of a value, as `%g` writes its shortest digits: an exponent form
(`1e+06`, `1.5e-07`) when the decimal exponent is below -4 or at least 6, else plain
digits with a point where needed. -/
def generalText (x : Binary64) : String :=
  let sign := if x.negative then "-" else ""
  let d := shortest x
  let ds := Nat.repr d.digits
  let exp : Int := ds.length - 1 + d.scale
  if x.isZero then sign ++ "0"
  else if exp < -4 ∨ exp ≥ 6 then
    let expDigits := Nat.repr exp.natAbs
    let mantissa := match ds.toList with
      | [] => "0"
      | [c] => String.singleton c
      | c :: rest => String.singleton c ++ "." ++ String.ofList rest
    sign ++ mantissa ++ "e" ++ (if exp < 0 then "-" else "+") ++
      (if expDigits.length < 2 then "0" ++ expDigits else expDigits)
  else sign ++ plainText d

end Binary64

end StockLedger
