import StockLedger.Quantity

/-!
Saturating arithmetic of stock figures, as the log records it. Drawing stock down stops
at zero and adding stops at the top figure, so the movement an entry records can fall
short of the quantity asked for: drawing records its full negation exactly when that
much was on hand, adding records it in full exactly when it fits.
-/

namespace StockLedger

namespace Quantity

/-- The movement of on-hand stock that drawing `q` units from `onHand` records. -/
def drawn (onHand q : Int64) : Int64 := floorSub onHand q - onHand

/-- The movement of on-hand stock that adding `q` units to `onHand` records. -/
def added (onHand q : Int64) : Int64 := capAdd onHand q - onHand

/-- Drawing a positive quantity records its full negation exactly when that much was on
hand. -/
theorem drawn_eq_neg_iff {onHand q : Int64} (positive : 0 < q) : drawn onHand q = -q ↔ q ≤ onHand := by
  have qPos := Int64.lt_iff_toInt_lt.mp positive
  simp only [Int64.toInt_zero] at qPos
  unfold drawn floorSub
  split
  · rename_i negative
    have aNeg := Int64.lt_iff_toInt_lt.mp negative
    simp only [Int64.toInt_zero] at aNeg
    constructor
    · intro same
      have : q = 0 := by grind
      rw [this] at positive
      exact absurd positive (by decide)
    · intro covered
      have := Int64.le_iff_toInt_le.mp covered
      omega
  · split
    · rename_i _ short
      constructor
      · intro same
        have : onHand = q := by grind
        rw [this]
        exact Int64.le_refl q
      · intro covered
        have := Int64.le_iff_toInt_le.mp covered
        have := Int64.le_iff_toInt_le.mp short
        have : onHand = q := Int64.toInt_inj.mp (by omega)
        rw [this]
        grind
    · rename_i _ enough
      exact ⟨fun _ => Int64.le_of_lt (Int64.not_le.mp enough), fun _ => by grind⟩

/-- Adding a quantity records it in full exactly when it fits under the top figure. -/
theorem added_eq_iff {onHand q : Int64} : added onHand q = q ↔ onHand ≤ top - q := by
  unfold added capAdd
  split
  · rename_i beyond
    constructor
    · intro same
      have : onHand = top - q := by grind
      rw [this] at beyond
      exact absurd beyond Int64.lt_irrefl
    · intro within
      exact absurd within (Int64.not_le.mpr beyond)
  · rename_i within
    exact ⟨fun _ => Int64.not_lt.mp within, fun _ => by grind⟩


theorem toInt_top : top.toInt = 9223372036854775807 := rfl

theorem toInt_add_of_fits {a b : Int64} (low : -(top.toInt + 1) ≤ a.toInt + b.toInt)
    (high : a.toInt + b.toInt ≤ top.toInt) : (a + b).toInt = a.toInt + b.toInt := by
  rw [toInt_top] at low high
  rw [Int64.toInt_add]
  exact Int.bmod_eq_of_le (by omega) (by omega)

theorem toInt_sub_of_fits {a b : Int64} (low : -(top.toInt + 1) ≤ a.toInt - b.toInt)
    (high : a.toInt - b.toInt ≤ top.toInt) : (a - b).toInt = a.toInt - b.toInt := by
  rw [toInt_top] at low high
  rw [Int64.toInt_sub]
  exact Int.bmod_eq_of_le (by omega) (by omega)

/-- Drawing a positive quantity lowers the figure by at most that quantity and never
raises it. -/
theorem drawn_bounds {onHand q : Int64} (positive : 0 < q) :
    -q.toInt ≤ (drawn onHand q).toInt ∧ (drawn onHand q).toInt ≤ 0 := by
  have qPos := Int64.lt_iff_toInt_lt.mp positive
  simp only [Int64.toInt_zero] at qPos
  have := onHand.le_toInt
  have := onHand.toInt_lt
  have := q.toInt_lt
  have := toInt_top
  unfold drawn floorSub
  -- a figure below zero is left as it is, one short of `q` goes to zero, and one that
  -- covers `q` loses exactly `q`
  split
  · simp
    omega
  · rename_i nonneg
    have nonneg := Int64.le_iff_toInt_le.mp (Int64.not_lt.mp nonneg)
    simp only [Int64.toInt_zero] at nonneg
    split
    · rename_i short
      have short := Int64.le_iff_toInt_le.mp short
      rw [toInt_sub_of_fits (by simp; omega) (by simp; omega)]
      simp
      omega
    · rename_i enough
      have enough := Int64.lt_iff_toInt_lt.mp (Int64.not_le.mp enough)
      have taken : (onHand - q).toInt = onHand.toInt - q.toInt := toInt_sub_of_fits (by omega) (by omega)
      rw [toInt_sub_of_fits (by rw [taken]; omega) (by rw [taken]; omega), taken]
      omega

/-- Adding a non-negative quantity is exact addition cut at the top figure. -/
theorem toInt_capAdd {a q : Int64} (nonneg : 0 ≤ q) : (capAdd a q).toInt = min (a.toInt + q.toInt) top.toInt := by
  have qNonneg := Int64.le_iff_toInt_le.mp nonneg
  simp only [Int64.toInt_zero] at qNonneg
  have := a.le_toInt
  have := a.toInt_lt
  have := q.toInt_lt
  have := toInt_top
  have room : (top - q).toInt = top.toInt - q.toInt := toInt_sub_of_fits (by omega) (by omega)
  unfold capAdd
  split
  · rename_i beyond
    have := Int64.lt_iff_toInt_lt.mp beyond
    omega
  · rename_i within
    have := Int64.le_iff_toInt_le.mp (Int64.not_lt.mp within)
    rw [toInt_add_of_fits (by omega) (by omega)]
    omega

/-- Drawing a non-negative quantity is exact subtraction cut at zero, except that a
figure already below zero stays as it is. -/
theorem toInt_floorSub {a q : Int64} (nonneg : 0 ≤ q) :
    (floorSub a q).toInt = if a.toInt < 0 then a.toInt else max (a.toInt - q.toInt) 0 := by
  have qNonneg := Int64.le_iff_toInt_le.mp nonneg
  simp only [Int64.toInt_zero] at qNonneg
  have := a.le_toInt
  have := a.toInt_lt
  have := q.toInt_lt
  unfold floorSub
  split
  · rename_i negative
    have below := Int64.lt_iff_toInt_lt.mp negative
    simp only [Int64.toInt_zero] at below
    simp [below]
  · rename_i aNonneg
    have above := Int64.le_iff_toInt_le.mp (Int64.not_lt.mp aNonneg)
    simp only [Int64.toInt_zero] at above
    split
    · rename_i short
      have := Int64.le_iff_toInt_le.mp short
      simp only [Int64.toInt_zero]
      omega
    · rename_i enough
      have := Int64.lt_iff_toInt_lt.mp (Int64.not_le.mp enough)
      rw [toInt_sub_of_fits (by rw [toInt_top]; omega) (by rw [toInt_top]; omega)]
      omega

theorem floorSub_of_le {a q : Int64} (positive : 0 < q) (covered : q ≤ a) : floorSub a q = a - q := by
  have drawnAll := (drawn_eq_neg_iff positive).mpr covered
  unfold drawn at drawnAll
  grind

theorem sub_le_sub_of_le {a b q : Int64} (nonneg : 0 ≤ q) (covered : q ≤ a) (ordered : a ≤ b) :
    a - q ≤ b - q := by
  have reaches := Int64.le_trans covered ordered
  rw [Int64.le_iff_toInt_le, Int64.toInt_sub_of_le _ _ nonneg covered, Int64.toInt_sub_of_le _ _ nonneg reaches]
  have := Int64.le_iff_toInt_le.mp ordered
  omega

end Quantity

end StockLedger
