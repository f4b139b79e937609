/-!
Finite binary64 values as exact numbers. A value is a sign, a significand and a binary
exponent, worth `significand · 2 ^ exponent`. Values are made by rounding an exact
ratio of naturals to the nearest representable one, ties to an even significand, which
is what reading a decimal number into a double does. Infinities and NaN are not values:
the operations that would make them give `none`.
-/

namespace StockLedger

/-- A finite binary64 value: `(-1) ^ negative · significand · 2 ^ exponent`. A normal
value has a significand of 53 bits and an exponent from -1074 to 971; a subnormal one has
a shorter significand and the exponent -1074. Zero has the significand 0. -/
structure Binary64 where
  negative : Bool
  significand : Nat
  exponent : Int
deriving Repr, DecidableEq

namespace Binary64

/-- The least exponent. -/
def minExponent : Int := -1074

/-- The greatest exponent of a finite value. -/
def maxExponent : Int := 971

/-- The number of binary digits of a natural number. -/
def bitLength (n : Nat) : Nat := (Nat.toDigits 2 n).length

/-- The number of decimal digits of a natural number. -/
def digitLength (n : Nat) : Nat := (Nat.repr n).length

/-- Compares `a · 2 ^ i` with `b · 2 ^ j` exactly. -/
def compareScaled (a : Nat) (i : Int) (b : Nat) (j : Int) : Ordering :=
  let low := min i j
  compare (a * Nat.pow 2 (i - low).toNat) (b * Nat.pow 2 (j - low).toNat)

/-- Rounds `num / den` to the nearest natural number, ties to even. -/
def roundHalfEven (num den : Nat) : Nat :=
  let q := num / den
  let r := num % den
  match compare (2 * r) den with
  | .lt => q
  | .gt => q + 1
  | .eq => if q % 2 = 0 then q else q + 1

/-- The nearest value to `num / den`, or none when it rounds past the largest finite
value. The exponent is chosen so that the significand has 53 bits, unless that would go
below the least exponent. -/
def ofRatio (negative : Bool) (num den : Nat) : Option Binary64 :=
  if num = 0 ∨ den = 0 then some ⟨negative, 0, minExponent⟩
  else
    let a : Int := bitLength num
    let b : Int := bitLength den
    -- the binary order of num / den is a - b or a - b - 1
    let guess := a - b
    let order := if compareScaled num 0 den guess = .lt then guess - 1 else guess
    let e := max (order - 52) minExponent
    let m := roundHalfEven (num * Nat.pow 2 (-e).toNat) (den * Nat.pow 2 e.toNat)
    let (m, e) := if m = Nat.pow 2 53 then (Nat.pow 2 52, e + 1) else (m, e)
    if e > maxExponent then none else some ⟨negative, m, e⟩

/-- The value nearest to `digits · 10 ^ scale`. Scales far outside the range of finite
values are settled without building their powers: too large overflows, too small is
zero. -/
def ofDecimal (negative : Bool) (digits : Nat) (scale : Int) : Option Binary64 :=
  if digits = 0 then some ⟨negative, 0, minExponent⟩
  else
    let order : Int := digitLength digits + scale
    if order > 310 then none
    else if order < -330 then some ⟨negative, 0, minExponent⟩
    else ofRatio negative (digits * Nat.pow 10 scale.toNat) (Nat.pow 10 (-scale).toNat)

/-- The value nearest to an integer. -/
def ofInt (i : Int) : Binary64 :=
  (ofRatio (i < 0) i.natAbs 1).getD ⟨false, 0, minExponent⟩

/-- The digits of a run of ASCII digits. -/
def digitsOf (cs : List Char) : Nat :=
  cs.foldl (fun acc c => acc * 10 + (c.toNat - '0'.toNat)) 0

/-- The value nearest to a JSON number's text: an optional minus sign, digits, an
optional fraction and an optional exponent. None when the text is not such a number or
its value is too large for a finite value. -/
def ofLiteral (lit : String) : Option Binary64 :=
  let cs := lit.toList
  let (negative, cs) := match cs with
    | '-' :: rest => (true, rest)
    | _ => (false, cs)
  let whole := cs.takeWhile Char.isDigit
  let cs := cs.dropWhile Char.isDigit
  let (part, cs) := match cs with
    | '.' :: rest => (rest.takeWhile Char.isDigit, rest.dropWhile Char.isDigit)
    | _ => ([], cs)
  let exp : Option Int := match cs with
    | [] => some 0
    | e :: rest =>
      if e = 'e' ∨ e = 'E' then
        let (neg, ds) := match rest with
          | '-' :: ds => (true, ds)
          | '+' :: ds => (false, ds)
          | ds => (false, ds)
        if ds.isEmpty ∨ !ds.all Char.isDigit then none
        else
          let n : Int := digitsOf ds
          some (if neg then -n else n)
      else none
  match exp with
  | none => none
  | some exp =>
    if whole.isEmpty then none
    else ofDecimal negative (digitsOf (whole ++ part)) (exp - part.length)

/-- The value stored in 64 bits, or none for an infinity or NaN. -/
def ofBits (bits : Nat) : Option Binary64 :=
  let negative := bits / Nat.pow 2 63 % 2 = 1
  let field : Nat := bits / Nat.pow 2 52 % Nat.pow 2 11
  let fraction : Nat := bits % Nat.pow 2 52
  if field = 2047 then none
  else if field = 0 then some ⟨negative, fraction, minExponent⟩
  else some ⟨negative, fraction + Nat.pow 2 52, (field : Int) - 1075⟩

/-- Whether the value is zero. -/
def isZero (x : Binary64) : Bool := x.significand = 0

/-- Compares the magnitudes of two values. -/
def compareMagnitude (x y : Binary64) : Ordering :=
  compareScaled x.significand x.exponent y.significand y.exponent

end Binary64

end StockLedger
