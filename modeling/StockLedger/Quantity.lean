/-!
Stock figures are signed 64-bit words, and arithmetic on them wraps in two's complement
unless an operation says otherwise. Two operations stop at a bound instead: receiving
stock stops at the largest figure, and drawing stock down stops at zero.
-/

namespace StockLedger

namespace Quantity

/-- The largest stock figure, `2^63 - 1`. -/
def top : Int64 := 9223372036854775807

/-- Adds a non-negative amount, stopping at `top` instead of wrapping past it. -/
def capAdd (a b : Int64) : Int64 :=
  if a > top - b then top else a + b

/-- Takes an amount away, stopping at zero. A figure that is already negative (left by a
corrective count) stays as it is rather than being raised to zero. -/
def floorSub (a b : Int64) : Int64 :=
  if a < 0 then a else if b ≥ a then 0 else a - b

/-- Decimal text of an integer, with a leading minus sign when negative. -/
def decimal (i : Int) : String :=
  if i < 0 then "-" ++ Nat.repr i.natAbs else Nat.repr i.toNat

/-- Decimal text of a stock figure. -/
def text (q : Int64) : String := decimal q.toInt

end Quantity

end StockLedger
