import StockLedger.Proofs.LevelBounds

/-!
Saturating moves in exact integers. Receipts, returns, shipments, releases, damage
reports, scrapping and synchronised increments and decrements are written with 64-bit
figures; `Move.exactly` says what each does to on hand, committed and damaged stock in
unbounded integers: adding stops at the top figure, drawing stops at zero and leaves a
figure below zero alone, a damage report fills at most the room on hand less damaged,
and scrapping takes at most the damaged units from damaged and on-hand stock.

The receipts, returns, shipments, releases and synchronised changes are exact on every
level. A damage report is exact exactly when on hand less damaged is a figure, since the
room it fills is computed in wrapping arithmetic; scrapping exactly when on hand less what
it scraps, and the negation of that, are figures (`Move.ExactOn`). Every such call files
one entry that starts at the figure its kind tracks and, exactly when the move is exact,
moves it by the exact change (`saturating_calls_exact`). A run reaches a level whose room
wraps, where one more damaged unit is counted against on-hand stock at the smallest figure
(`Session.damage_below_min_overcounts`).
-/

namespace StockLedger

namespace Quantity

/-- Whether an integer is a stock figure: from `-2^63` to `2^63 - 1`. -/
def InRange (x : Int) : Prop := -(top.toInt + 1) ≤ x ∧ x ≤ top.toInt

theorem inRange_toInt (a : Int64) : InRange a.toInt := toInt_bounds a

/-- A wrapping difference is the integer one exactly when that is a figure. -/
theorem toInt_sub_eq_iff {a b : Int64} : (a - b).toInt = a.toInt - b.toInt ↔ InRange (a.toInt - b.toInt) :=
  ⟨fun same => same ▸ inRange_toInt (a - b), fun fits => toInt_sub_of_fits fits.1 fits.2⟩

theorem toInt_neg_eq_iff {a : Int64} : (-a).toInt = -a.toInt ↔ InRange (-a.toInt) := by
  have negated : -a = 0 - a := by grind
  have zero := toInt_sub_eq_iff (a := 0) (b := a)
  rwa [Int64.toInt_zero, Int.zero_sub, ← negated] at zero

theorem toInt_sub_of_below {a b : Int64} (below : a.toInt - b.toInt < -(top.toInt + 1)) :
    (a - b).toInt = a.toInt - b.toInt + 18446744073709551616 := by
  have := toInt_bounds a
  have := toInt_bounds b
  rw [toInt_top] at *
  rw [Int64.toInt_sub, Int.bmod_def]
  split <;> omega

theorem toInt_sub_of_above {a b : Int64} (above : top.toInt < a.toInt - b.toInt) :
    (a - b).toInt = a.toInt - b.toInt - 18446744073709551616 := by
  have := toInt_bounds a
  have := toInt_bounds b
  rw [toInt_top] at *
  rw [Int64.toInt_sub, Int.bmod_def]
  split <;> omega

theorem toInt_zeroBelow (a : Int64) : (if a < 0 then 0 else a).toInt = max a.toInt 0 := by
  split
  · rename_i negative
    have := Int64.lt_iff_toInt_lt.mp negative
    simp only [Int64.toInt_zero] at this ⊢
    omega
  · rename_i nonneg
    have := Int64.le_iff_toInt_le.mp (Int64.not_lt.mp nonneg)
    simp only [Int64.toInt_zero] at this
    omega

/-- `capAdd` in exact integers. -/
def capAddInt (a q : Int) : Int := min (a + q) top.toInt

/-- `floorSub` in exact integers. -/
def floorSubInt (a q : Int) : Int := if a < 0 then a else max (a - q) 0

theorem toInt_capAdd_eq {a q : Int64} (nonneg : 0 ≤ q) : (capAdd a q).toInt = capAddInt a.toInt q.toInt :=
  toInt_capAdd nonneg

theorem toInt_floorSub_eq {a q : Int64} (nonneg : 0 ≤ q) : (floorSub a q).toInt = floorSubInt a.toInt q.toInt :=
  toInt_floorSub nonneg

theorem toInt_capAdd_sub {a q : Int64} (nonneg : 0 ≤ q) :
    (capAdd a q - a).toInt = (capAdd a q).toInt - a.toInt := by
  have added := toInt_capAdd (a := a) nonneg
  have := toInt_bounds a
  have := toInt_bounds q
  have := Int64.le_iff_toInt_le.mp nonneg
  simp only [Int64.toInt_zero] at this
  exact toInt_sub_of_fits (by omega) (by omega)

theorem toInt_floorSub_sub {a q : Int64} (nonneg : 0 ≤ q) :
    (floorSub a q - a).toInt = (floorSub a q).toInt - a.toInt := by
  have drawn := toInt_floorSub (a := a) nonneg
  have := toInt_bounds a
  have := toInt_bounds q
  have := Int64.le_iff_toInt_le.mp nonneg
  simp only [Int64.toInt_zero] at this
  exact toInt_sub_of_fits (by split at drawn <;> omega) (by split at drawn <;> omega)

end Quantity

open Quantity

/-- On hand, committed and damaged stock as exact integers. -/
@[ext] structure Figures where
  onHand : Int
  committed : Int
  damaged : Int
deriving DecidableEq

namespace Level

def figures (w : Level) : Figures := ⟨w.onHand.toInt, w.committed.toInt, w.damaged.toInt⟩

@[simp] theorem figures_onHand (w : Level) : w.figures.onHand = w.onHand.toInt := rfl

@[simp] theorem figures_committed (w : Level) : w.figures.committed = w.committed.toInt := rfl

@[simp] theorem figures_damaged (w : Level) : w.figures.damaged = w.damaged.toInt := rfl

end Level

namespace AdjustmentKind

/-- The figure whose movement entries of a kind record. -/
def tracked : AdjustmentKind → Figures → Int
  | .reserved, f | .unreserved, f => f.committed
  | .damaged, f => f.damaged
  | _, f => f.onHand

end AdjustmentKind

namespace Move

/-- The quantity of a move whose figures follow saturating arithmetic: receipts, returns,
shipments, releases, damage reports, scrapping, and synchronised increments and
decrements. -/
def saturating? : Move → Option Int64
  | .receive q | .restock q | .ship q | .release q | .damage q | .scrap q => some q
  | .sync .increment q | .sync .decrement q => some q
  | _ => none

/-- What such a move does to the figures in exact integer arithmetic. -/
def exactly : Move → Figures → Figures
  | .receive q, f | .restock q, f | .sync .increment q, f => { f with onHand := capAddInt f.onHand q.toInt }
  | .sync .decrement q, f => { f with onHand := floorSubInt f.onHand q.toInt }
  | .ship q, f =>
    { f with onHand := floorSubInt f.onHand q.toInt, committed := floorSubInt f.committed q.toInt }
  | .release q, f => { f with committed := floorSubInt f.committed q.toInt }
  | .damage q, f => { f with damaged := f.damaged + min q.toInt (max (f.onHand - f.damaged) 0) }
  | .scrap q, f =>
    { f with onHand := f.onHand - min q.toInt f.damaged, damaged := f.damaged - min q.toInt f.damaged }
  | _, f => f

/-- Where the 64-bit arithmetic of a move meets the exact one: a damage report needs on hand
less damaged to be a figure, and scrapping needs on hand less what it scraps, and the
negation of what it scraps, to be figures. -/
def ExactOn : Move → Figures → Prop
  | .damage _, f => InRange (f.onHand - f.damaged)
  | .scrap q, f => InRange (f.onHand - min q.toInt f.damaged) ∧ InRange (-min q.toInt f.damaged)
  | _, _ => True

variable {q : Int64} (w : Level)

/-- The shape every saturating move is shown to have: it files a movement that starts at
the figure its kind tracks, and it is exact on the level exactly when its figures and the
movement are the exact ones. -/
def Saturates (m : Move) (w : Level) : Prop :=
  ∃ w' mv, m.apply w = .ok (w', some mv) ∧ mv.previous.toInt = mv.kind.tracked w.figures ∧
    (m.ExactOn w.figures ↔ w'.figures = m.exactly w.figures ∧
      mv.delta.toInt = mv.kind.tracked w'.figures - mv.kind.tracked w.figures)

theorem saturates_of_exact {m : Move} {w' : Level} {mv : Movement} (applied : m.apply w = .ok (w', some mv))
    (previous : mv.previous.toInt = mv.kind.tracked w.figures) (always : m.ExactOn w.figures)
    (figures : w'.figures = m.exactly w.figures)
    (delta : mv.delta.toInt = mv.kind.tracked w'.figures - mv.kind.tracked w.figures) : m.Saturates w :=
  ⟨w', mv, applied, previous, ⟨fun _ => ⟨figures, delta⟩, fun _ => always⟩⟩

theorem receive_saturates (nonneg : 0 ≤ q) : (receive q).Saturates w := by
  refine saturates_of_exact w rfl rfl trivial ?_ (toInt_capAdd_sub nonneg)
  ext <;> simp [exactly, Level.recount, toInt_capAdd_eq nonneg]

theorem restock_saturates (nonneg : 0 ≤ q) : (restock q).Saturates w := by
  refine saturates_of_exact w rfl rfl trivial ?_ (toInt_capAdd_sub nonneg)
  ext <;> simp [exactly, Level.recount, toInt_capAdd_eq nonneg]

theorem increment_saturates (nonneg : 0 ≤ q) : (sync .increment q).Saturates w := by
  refine saturates_of_exact w rfl rfl trivial ?_ (toInt_capAdd_sub nonneg)
  ext <;> simp [exactly, Level.recount, toInt_capAdd_eq nonneg]

theorem decrement_saturates (nonneg : 0 ≤ q) : (sync .decrement q).Saturates w := by
  refine saturates_of_exact w rfl rfl trivial ?_ (toInt_floorSub_sub nonneg)
  ext <;> simp [exactly, Level.recount, toInt_floorSub_eq nonneg]

theorem ship_saturates (nonneg : 0 ≤ q) : (ship q).Saturates w := by
  refine saturates_of_exact w rfl rfl trivial ?_ (toInt_floorSub_sub nonneg)
  ext <;> simp [exactly, Level.recount, toInt_floorSub_eq nonneg]

theorem release_saturates (nonneg : 0 ≤ q) : (release q).Saturates w := by
  refine saturates_of_exact w rfl rfl trivial ?_ (toInt_floorSub_sub nonneg)
  ext <;> simp [exactly, Level.recount, toInt_floorSub_eq nonneg]

/-- A damage report fills the room on hand less damaged, computed with wrapping: the exact
room when that difference is a figure. Below the smallest figure the room wraps to a
positive figure and the report counts units that are not there; above the top figure it
wraps below zero and the report counts none. -/
theorem damage_saturates (positive : 0 < q.toInt) : (damage q).Saturates w := by
  refine ⟨_, _, rfl, rfl, ?_⟩
  generalize gapIs : w.onHand - w.damaged = gap
  generalize roomIs : (if gap < 0 then 0 else gap) = room
  generalize filledIs : (if q ≤ room then q else room) = filled
  have roomInt : room.toInt = max gap.toInt 0 := roomIs ▸ toInt_zeroBelow gap
  have filledInt : filled.toInt = min q.toInt room.toInt := filledIs ▸ toInt_ite_le q room
  have := toInt_bounds w.onHand
  have := toInt_bounds w.damaged
  have := toInt_bounds q
  have := toInt_bounds gap
  have := toInt_top
  simp only [ExactOn, exactly, AdjustmentKind.tracked, Level.figures_onHand, Level.figures_damaged]
  constructor
  · intro fits
    have gapInt : gap.toInt = w.onHand.toInt - w.damaged.toInt := gapIs ▸ toInt_sub_of_fits fits.1 fits.2
    have sum : (w.damaged + filled).toInt = w.damaged.toInt + filled.toInt :=
      toInt_add_of_fits (by omega) (by omega)
    refine ⟨?_, ?_⟩
    · ext <;> simp [Level.recount, sum, filledInt, roomInt, gapInt]
    · show (w.damaged + filled - w.damaged).toInt = (w.damaged + filled).toInt - w.damaged.toInt
      rw [sum, toInt_sub_of_fits (by rw [sum]; omega) (by rw [sum]; omega), sum]
  · rintro ⟨figures, -⟩
    have damagedIs := congrArg Figures.damaged figures
    simp only [Level.recount, Level.figures_damaged] at damagedIs
    refine ⟨Classical.byContradiction fun below => ?_, Classical.byContradiction fun above => ?_⟩
    · -- the room wraps up to a positive figure, so the report counts at least one unit
      have gapInt := gapIs ▸ toInt_sub_of_below (by omega)
      have moved : filled ≠ 0 := fun none => by
        rw [none, Int64.toInt_zero] at filledInt
        omega
      have same : w.damaged + filled = w.damaged := by
        apply Int64.toInt_inj.mp
        rw [damagedIs]
        omega
      exact moved (by grind)
    · -- the room wraps below zero, so the report counts nothing where one unit is due
      have gapInt := gapIs ▸ toInt_sub_of_above (by omega)
      have none : filled = 0 := by
        apply Int64.toInt_inj.mp
        rw [filledInt, Int64.toInt_zero]
        omega
      rw [none, Int64.add_zero] at damagedIs
      omega

/-- Scrapping takes at most the damaged units from damaged and on-hand stock; the on-hand
figure and the movement are exact exactly when they are figures. -/
theorem scrap_saturates (positive : 0 < q.toInt) : (scrap q).Saturates w := by
  refine ⟨_, _, rfl, rfl, ?_⟩
  generalize goneIs : (if q ≤ w.damaged then q else w.damaged) = gone
  have goneInt : gone.toInt = min q.toInt w.damaged.toInt := goneIs ▸ toInt_ite_le q w.damaged
  have := toInt_bounds w.damaged
  have := toInt_bounds q
  have left : (w.damaged - gone).toInt = w.damaged.toInt - gone.toInt := toInt_sub_of_fits (by omega) (by omega)
  simp only [ExactOn, exactly, AdjustmentKind.tracked, Level.figures_onHand, Level.figures_damaged, ← goneInt]
  constructor
  · rintro ⟨taken, negated⟩
    have onHandInt := toInt_sub_eq_iff.mpr taken
    refine ⟨?_, ?_⟩
    · ext <;> simp [Level.recount, onHandInt, left]
    · show (-gone).toInt = (w.onHand - gone).toInt - w.onHand.toInt
      rw [toInt_neg_eq_iff.mpr negated, onHandInt]
      omega
  · rintro ⟨figures, delta⟩
    have onHandInt := congrArg Figures.onHand figures
    simp only [Level.recount, Level.figures_onHand] at onHandInt
    change (-gone).toInt = (w.onHand - gone).toInt - w.onHand.toInt at delta
    rw [onHandInt] at delta
    exact ⟨toInt_sub_eq_iff.mp onHandInt, toInt_neg_eq_iff.mp (by omega)⟩

/-- Every saturating move with a positive quantity files a movement from the figure its
kind tracks, and its figures and movement are the exact ones exactly where it is exact. -/
theorem saturates {m : Move} (saturating : m.saturating? = some q) (positive : 0 < q.toInt) : m.Saturates w := by
  have nonneg := nonneg_of_positive positive
  cases m with
  | receive _ => cases saturating; exact receive_saturates w nonneg
  | restock _ => cases saturating; exact restock_saturates w nonneg
  | ship _ => cases saturating; exact ship_saturates w nonneg
  | release _ => cases saturating; exact release_saturates w nonneg
  | damage _ => cases saturating; exact damage_saturates w positive
  | scrap _ => cases saturating; exact scrap_saturates w positive
  | sync mode _ =>
    cases mode with
    | set => cases saturating
    | increment => cases saturating; exact increment_saturates w nonneg
    | decrement => cases saturating; exact decrement_saturates w nonneg
  | set _ | count _ _ | reserve _ | limits _ => cases saturating

end Move

namespace Stock.Op

/-- What a successful call leaves when its move saturates with a positive quantity: the
level stored under its key and one entry appended for the key, starting at the figure its
kind tracks on the level the call started from. The stored figures are the exact ones, and
the entry's quantity the exact change of its figure, exactly when the move is exact on
that level. -/
def Saturated (op : Op) (l : Ledger) (w' : Level) (l' : Ledger) : Prop :=
  ∀ move q, op.checked = .ok move → move.saturating? = some q → 0 < q.toInt →
    ∃ w e, l.book.working op.key move.creates = .ok w ∧ l'.book.find? op.key = some w' ∧
      l'.book.log = l.book.log ++ [e] ∧ e.key = op.key ∧ e.previous.toInt = e.kind.tracked w.figures ∧
      (move.ExactOn w.figures ↔ w'.figures = move.exactly w.figures ∧
        e.quantity.toInt = e.kind.tracked w'.figures - e.kind.tracked w.figures)

end Stock.Op

/-- Saturating stock arithmetic as exact integer arithmetic. On every ledger kept in memory,
a call that fails leaves the ledger as it was; one that succeeds with a receipt, return,
shipment, release, damage report, scrap, or synchronised increment or decrement of a
positive quantity stores its level and files one entry, which starts at the figure its
kind tracks. Exactly when the move is exact on the level it started from (always, but for
damage reports and scrapping whose differences leave the figures), the stored on-hand,
committed and damaged figures are those of `Move.exactly` and the entry's quantity is the
exact change of its figure. -/
theorem saturating_calls_exact (call : Call) (op : Stock.Op) {l : Ledger} (inMemory : l.wiring.inventory = false) :
    Run.Post (op.exec call) l (op.Saturated l) (fun _ l' => l' = l) := by
  refine Stock.Op.post_exec inMemory (fun _ => rfl) fun move w w' mv? checked working applied => ?_
  intro move' q checked' saturating positive
  rw [checked] at checked'
  cases checked'
  obtain ⟨w'', mv, applied', previous, exact⟩ := Move.saturates w saturating positive
  rw [applied'] at applied
  cases applied
  exact ⟨w, l.filed op.key (Stock.noted call move op.note mv), working,
    (Stock.Op.written_of_apply checked working applied').stored, by simp, rfl, previous, exact⟩

namespace Session

open Stock

/-- Ten units of `p1` set at the main warehouse, five of them reported damaged, and on-hand
stock then set to the smallest figure: on hand less damaged is `-2^63 - 5`. -/
def damagedToMin : Ledger :=
  let stocked := (((Op.run mainStock (.set 10) {}).exec {}).exec fresh).2
  let damaged := (((Op.run mainStock (.damage 5) {}).exec {}).exec stocked).2
  (((Op.run mainStock (.set (-9223372036854775808)) {}).exec {}).exec damaged).2

/-- One more unit reported damaged. -/
def damagedBelowMin : Ledger := (((Op.run mainStock (.damage 1) {}).exec {}).exec damagedToMin).2

theorem damagedToMin_reachable : Stock.Reachable everyOp damagedToMin :=
  ⟨fresh, rfl, rfl, .tail (.tail (.single (.call _ _ _ trivial)) (.call _ _ _ trivial)) (.call _ _ _ trivial)⟩

theorem damagedToMin_saturated :
    damagedToMin.wiring.inventory = false ∧
      Run.Post ((Op.run mainStock (.damage 1) {}).exec {}) damagedToMin
        ((Op.run mainStock (.damage 1) {}).Saturated damagedToMin) (fun _ l' => l' = damagedToMin) :=
  ⟨damagedToMin_reachable.inMemory, saturating_calls_exact {} _ damagedToMin_reachable.inMemory⟩

/-- A run reaches a level with on-hand stock at the smallest figure and five units
damaged, and a report of one more damaged unit counts it: damaged stock goes to six where
exact arithmetic, with no room left, keeps it at five. -/
theorem damage_below_min_overcounts :
    Stock.Reachable everyOp damagedBelowMin ∧
      (damagedToMin.book.find? mainStock).map Level.figures = some ⟨-9223372036854775808, 0, 5⟩ ∧
      (damagedToMin.book.find? mainStock).map (fun w => (Move.damage 1).exactly w.figures) =
        some ⟨-9223372036854775808, 0, 5⟩ ∧
      (damagedBelowMin.book.find? mainStock).map Level.figures = some ⟨-9223372036854775808, 0, 6⟩ :=
  ⟨⟨fresh, rfl, rfl, .tail (.tail (.tail (.single (.call _ _ _ trivial)) (.call _ _ _ trivial))
    (.call _ _ _ trivial)) (.call _ _ _ trivial)⟩, by decide +kernel, by decide +kernel, by decide +kernel⟩

end Session

end StockLedger
