import StockLedger.Proofs.StockCalls
import StockLedger.Proofs.Saturating

/-!
Bounds of stock levels. Available stock is kept as on hand less committed less damaged in
wrapping 64-bit arithmetic. A level is exact when committed and damaged stock are not
negative and that difference, taken as integers, is its available stock.

Every move that does not write on-hand stock over keeps a level exact
(`Move.exact_apply`): a reservation is checked against exact available stock, so committed
stock cannot pass the top figure; the room a damage report fills is exact; shipping,
receiving, releasing and scrapping keep every figure in range. A set, count or synchronised
change writes any on-hand figure. When on hand less committed less damaged then falls below
the smallest figure, available stock wraps to a large positive figure, and a reservation
against it pushes committed stock past the top figure into the negatives
(`Session.wrappedReservation_negative`). Along runs whose rewrites of on-hand stock stay in
range, every level stays exact and every reservation adds exactly its quantity
(`levels_exact_in_range`), and releasing what a reservation added gives an exact level back
as it was (`Move.release_raisedBy`).
-/

namespace StockLedger

open Quantity

theorem Quantity.toInt_bounds (x : Int64) : -(top.toInt + 1) ≤ x.toInt ∧ x.toInt ≤ top.toInt := by
  have := x.le_toInt
  have := x.toInt_lt
  rw [toInt_top]
  omega

theorem Quantity.toInt_ite_le (a b : Int64) : (if a ≤ b then a else b).toInt = min a.toInt b.toInt := by
  split
  · rename_i fits
    have := Int64.le_iff_toInt_le.mp fits
    omega
  · rename_i exceeds
    have := Int64.lt_iff_toInt_lt.mp (Int64.not_le.mp exceeds)
    omega

namespace Level

/-- On hand less committed less damaged, as integers. -/
def exactAvailable (w : Level) : Int := w.onHand.toInt - w.committed.toInt - w.damaged.toInt

/-- A level whose figures do not wrap: committed and damaged stock are not negative, and
available stock is on hand less committed less damaged, as integers. -/
structure Exact (w : Level) : Prop where
  committed : 0 ≤ w.committed.toInt
  damaged : 0 ≤ w.damaged.toInt
  available : w.available.toInt = w.exactAvailable

theorem fresh_exact (key : StockKey) : (fresh key).Exact :=
  ⟨by simp [fresh], by simp [fresh], by simp [fresh, exactAvailable]⟩

/-- Recounting a level whose difference is in range and whose committed and damaged stock
are not negative makes it exact. -/
theorem recount_exact {w : Level} (committed : 0 ≤ w.committed.toInt) (damaged : 0 ≤ w.damaged.toInt)
    (low : -(top.toInt + 1) ≤ w.exactAvailable) : w.recount.Exact := by
  have := toInt_bounds w.onHand
  have := toInt_bounds w.committed
  unfold exactAvailable at low
  have first : (w.onHand - w.committed).toInt = w.onHand.toInt - w.committed.toInt :=
    toInt_sub_of_fits (by omega) (by omega)
  refine ⟨committed, damaged, ?_⟩
  show (w.onHand - w.committed - w.damaged).toInt = w.onHand.toInt - w.committed.toInt - w.damaged.toInt
  rw [toInt_sub_of_fits (by rw [first]; omega) (by rw [first]; omega), first]

theorem Exact.low {w : Level} (exact : w.Exact) : -(top.toInt + 1) ≤ w.exactAvailable := by
  rw [← exact.available]
  exact (toInt_bounds w.available).1

end Level

namespace Move

/-- Whether a move writes on-hand stock over, whatever it was: a set, a count or a
synchronised change. -/
def rewrites : Move → Bool
  | .set _ | .count _ _ | .sync _ _ => true
  | _ => false

variable {w : Level} {q : Int64}

theorem nonneg_of_positive (positive : 0 < q.toInt) : 0 ≤ q :=
  Int64.le_iff_toInt_le.mpr (by simp only [Int64.toInt_zero]; omega)

theorem unit_positive {e : Failure}
    (checked : (if q ≤ 0 then Except.error e else Except.ok ()) = (Except.ok () : Except Failure Unit)) :
    0 < q.toInt := by
  split at checked
  · cases checked
  · rename_i notPositive
    simpa using Int64.lt_iff_toInt_lt.mp (Int64.not_le.mp notPositive)

/-- A reservation checked against exact available stock adds exactly its quantity to
committed stock and leaves the level exact. -/
theorem exact_reserve (exact : w.Exact) (positive : 0 < q.toInt) (enough : q.toInt ≤ w.available.toInt) :
    (w.committed + q).toInt = w.committed.toInt + q.toInt ∧
      { w with committed := w.committed + q }.recount.Exact := by
  have avail := exact.available
  unfold Level.exactAvailable at avail
  have := toInt_bounds w.available
  have := toInt_bounds w.onHand
  have := toInt_bounds q
  have := exact.committed
  have := exact.damaged
  have sum : (w.committed + q).toInt = w.committed.toInt + q.toInt := toInt_add_of_fits (by omega) (by omega)
  refine ⟨sum, Level.recount_exact ?_ exact.damaged ?_⟩
  · show 0 ≤ (w.committed + q).toInt
    omega
  · show _ ≤ w.onHand.toInt - (w.committed + q).toInt - w.damaged.toInt
    omega

theorem exact_release (exact : w.Exact) (positive : 0 < q.toInt) :
    { w with committed := floorSub w.committed q }.recount.Exact := by
  have released := toInt_floorSub (a := w.committed) (nonneg_of_positive positive)
  have := exact.committed
  have low := exact.low
  unfold Level.exactAvailable at low
  refine Level.recount_exact ?_ exact.damaged ?_
  · show 0 ≤ (floorSub w.committed q).toInt
    split at released <;> omega
  · show _ ≤ w.onHand.toInt - (floorSub w.committed q).toInt - w.damaged.toInt
    split at released <;> omega

theorem exact_ship (exact : w.Exact) (positive : 0 < q.toInt) :
    { w with onHand := floorSub w.onHand q, committed := floorSub w.committed q }.recount.Exact := by
  have drawn := toInt_floorSub (a := w.onHand) (nonneg_of_positive positive)
  have released := toInt_floorSub (a := w.committed) (nonneg_of_positive positive)
  have := toInt_bounds w.onHand
  have := toInt_bounds w.damaged
  have := toInt_top
  have := exact.committed
  have low := exact.low
  unfold Level.exactAvailable at low
  refine Level.recount_exact ?_ exact.damaged ?_
  · show 0 ≤ (floorSub w.committed q).toInt
    split at released <;> omega
  · -- a figure below zero stays, and either both figures drop by `q` or the one that is
    -- short drops to zero, which leaves the difference no lower than minus the damage
    show _ ≤ (floorSub w.onHand q).toInt - (floorSub w.committed q).toInt - w.damaged.toInt
    split at drawn <;> split at released <;> omega

theorem exact_receive (exact : w.Exact) (positive : 0 < q.toInt) :
    { w with onHand := capAdd w.onHand q }.recount.Exact := by
  have added := toInt_capAdd (a := w.onHand) (nonneg_of_positive positive)
  have := toInt_bounds w.onHand
  have low := exact.low
  unfold Level.exactAvailable at low
  refine Level.recount_exact exact.committed exact.damaged ?_
  show _ ≤ (capAdd w.onHand q).toInt - w.committed.toInt - w.damaged.toInt
  omega

/-- The room a damage report fills is on hand less damaged, which is exact on an exact
level, so damaged stock stays within on-hand stock and cannot wrap. -/
theorem exact_damage (exact : w.Exact) (positive : 0 < q.toInt) :
    let gap := w.onHand - w.damaged
    let room := if gap < 0 then 0 else gap
    { w with damaged := w.damaged + (if q ≤ room then q else room) }.recount.Exact := by
  intro gap room
  have := toInt_bounds w.onHand
  have := toInt_bounds w.committed
  have := toInt_bounds w.damaged
  have := toInt_bounds q
  have := exact.committed
  have := exact.damaged
  have low := exact.low
  unfold Level.exactAvailable at low
  have gapInt : gap.toInt = w.onHand.toInt - w.damaged.toInt := toInt_sub_of_fits (by omega) (by omega)
  have roomInt : room.toInt = max (w.onHand.toInt - w.damaged.toInt) 0 := by
    show (if gap < 0 then 0 else gap).toInt = _
    split
    · rename_i negative
      have := Int64.lt_iff_toInt_lt.mp negative
      simp only [Int64.toInt_zero] at this ⊢
      omega
    · rename_i nonneg
      have := Int64.le_iff_toInt_le.mp (Int64.not_lt.mp nonneg)
      simp only [Int64.toInt_zero] at this
      omega
  have filled := toInt_ite_le q room
  have sum : (w.damaged + (if q ≤ room then q else room)).toInt = w.damaged.toInt + min q.toInt room.toInt := by
    rw [toInt_add_of_fits (by omega) (by omega), filled]
  refine Level.recount_exact exact.committed ?_ ?_
  · show 0 ≤ (w.damaged + (if q ≤ room then q else room)).toInt
    omega
  · show _ ≤ w.onHand.toInt - w.committed.toInt - (w.damaged + (if q ≤ room then q else room)).toInt
    omega

/-- Scrapping takes at most the damaged units, from damaged and on-hand stock alike, so
the difference does not move. -/
theorem exact_scrap (exact : w.Exact) (positive : 0 < q.toInt) :
    let gone := if q ≤ w.damaged then q else w.damaged
    { w with damaged := w.damaged - gone, onHand := w.onHand - gone }.recount.Exact := by
  intro gone
  have := toInt_bounds w.onHand
  have := toInt_bounds w.damaged
  have := toInt_bounds q
  have := exact.committed
  have := exact.damaged
  have low := exact.low
  unfold Level.exactAvailable at low
  have goneInt : gone.toInt = min q.toInt w.damaged.toInt := toInt_ite_le q w.damaged
  have left : (w.damaged - gone).toInt = w.damaged.toInt - gone.toInt := toInt_sub_of_fits (by omega) (by omega)
  have taken : (w.onHand - gone).toInt = w.onHand.toInt - gone.toInt := toInt_sub_of_fits (by omega) (by omega)
  refine Level.recount_exact exact.committed ?_ ?_
  · show 0 ≤ (w.damaged - gone).toInt
    omega
  · show _ ≤ (w.onHand - gone).toInt - w.committed.toInt - (w.damaged - gone).toInt
    omega

variable {m : Move} {w' : Level} {mv? : Option Movement}

/-- A move keeps a level exact, provided that, when it writes on-hand stock over, the
level it writes is in range. -/
theorem exact_apply (exact : w.Exact) (checked : m.precheck = .ok ()) (applied : m.apply w = .ok (w', mv?))
    (inRange : m.rewrites → -(top.toInt + 1) ≤ w'.exactAvailable) : w'.Exact := by
  cases m with
  | set v =>
    cases applied
    exact Level.recount_exact exact.committed exact.damaged (inRange rfl)
  | count v t =>
    cases applied
    exact Level.recount_exact exact.committed exact.damaged (inRange rfl)
  | sync mode q =>
    cases applied
    exact Level.recount_exact exact.committed exact.damaged (inRange rfl)
  | reserve q =>
    simp only [apply] at applied
    split at applied
    · cases applied
    · rename_i enough
      cases applied
      exact (exact_reserve exact (unit_positive checked)
        (Int64.le_iff_toInt_le.mp (Int64.not_lt.mp enough))).2
  | release q =>
    cases applied
    exact exact_release exact (unit_positive checked)
  | ship q =>
    cases applied
    exact exact_ship exact (unit_positive checked)
  | receive q =>
    cases applied
    exact exact_receive exact (unit_positive checked)
  | restock q =>
    cases applied
    exact exact_receive exact (unit_positive checked)
  | damage q =>
    cases applied
    exact exact_damage exact (unit_positive checked)
  | scrap q =>
    cases applied
    exact exact_scrap exact (unit_positive checked)
  | limits t =>
    simp only [apply] at applied
    split at applied
    · cases applied
    · cases applied
      exact Level.recount_exact exact.committed exact.damaged exact.low

end Move

namespace Level

/-- The level with a reservation of `q` taken from it. -/
def raisedBy (w : Level) (q : Int64) : Level := { w with committed := w.committed + q }.recount

theorem Exact.recount_eq {w : Level} (exact : w.Exact) : w.recount = w := by
  have recounted := (recount_exact exact.committed exact.damaged exact.low).available
  have same : w.availableOf = w.available := Int64.toInt_inj.mp (recounted.trans exact.available.symm)
  simp [recount, same]

@[simp] theorem raisedBy_key (w : Level) (q : Int64) : (w.raisedBy q).key = w.key := rfl

instance (w : Level) : Decidable w.Exact :=
  decidable_of_iff (0 ≤ w.committed.toInt ∧ 0 ≤ w.damaged.toInt ∧ w.available.toInt = w.exactAvailable)
    ⟨fun held => ⟨held.1, held.2.1, held.2.2⟩, fun exact => ⟨exact.committed, exact.damaged, exact.available⟩⟩

end Level

namespace Move

variable {w w' : Level} {q : Int64} {mv? : Option Movement}

theorem reserve_raisedBy (applied : (Move.reserve q).apply w = .ok (w', mv?)) :
    w' = w.raisedBy q ∧ q.toInt ≤ w.available.toInt ∧ ∃ mv, mv? = some mv ∧ mv.kind = .reserved := by
  simp only [apply] at applied
  split at applied
  · cases applied
  · rename_i enough
    simp only [Except.ok.injEq, Prod.mk.injEq] at applied
    exact ⟨applied.1.symm, Int64.le_iff_toInt_le.mp (Int64.not_lt.mp enough), _, applied.2.symm, rfl⟩

theorem release_precheck (positive : 0 < q.toInt) : (Move.release q).precheck = .ok () := by
  simp only [precheck]
  rw [if_neg]
  intro notPositive
  have := Int64.le_iff_toInt_le.mp notPositive
  simp only [Int64.toInt_zero] at this
  omega

/-- Releasing what a reservation added to an exact level gives the level back, and files
the whole quantity as released. -/
theorem release_raisedBy (exact : w.Exact) (positive : 0 < q.toInt) (enough : q.toInt ≤ w.available.toInt) :
    (Move.release q).apply (w.raisedBy q) = .ok (w, some ⟨.unreserved, -q, w.committed + q⟩) := by
  obtain ⟨sum, -⟩ := exact_reserve exact positive enough
  have back : floorSub (w.committed + q) q = w.committed := by
    apply Int64.toInt_inj.mp
    rw [toInt_floorSub (nonneg_of_positive positive), sum]
    have := exact.committed
    split <;> omega
  have restored : { w.raisedBy q with committed := floorSub (w.raisedBy q).committed q }.recount = w := by
    show { w.raisedBy q with committed := floorSub (w.committed + q) q }.recount = w
    rw [back]
    exact exact.recount_eq
  have applied : (release q).apply (w.raisedBy q) =
      .ok ({ w.raisedBy q with committed := floorSub (w.raisedBy q).committed q }.recount,
        some ⟨.unreserved, ({ w.raisedBy q with committed := floorSub (w.raisedBy q).committed q }.recount).committed -
          (w.raisedBy q).committed, (w.raisedBy q).committed⟩) := rfl
  rw [restored] at applied
  have released : w.committed - (w.committed + q) = -q := by grind
  rw [applied]
  show (Except.ok (w, some ⟨.unreserved, w.committed - (w.committed + q), w.committed + q⟩) :
    Except Failure (Level × Option Movement)) = _
  rw [released]

end Move

namespace Book

/-- Every level of the book is exact. -/
def Exact (b : Book) : Prop := ∀ w ∈ b.levels, w.Exact

instance (b : Book) : Decidable b.Exact := inferInstanceAs (Decidable (∀ w ∈ b.levels, w.Exact))

theorem find?_of_working {b : Book} {key : StockKey} {w : Level} (worked : b.working key false = .ok w) :
    b.find? key = some w := by
  unfold working at worked
  split at worked
  · rename_i found
    cases worked
    exact found
  · cases worked

theorem Exact.find? {b : Book} {key : StockKey} {w : Level} (exact : b.Exact) (found : b.find? key = some w) :
    w.Exact :=
  exact w (List.mem_of_find?_eq_some found)

theorem working_exact {b : Book} {key : StockKey} {creates : Bool} {w : Level} (exact : b.Exact)
    (working : b.working key creates = .ok w) : w.Exact := by
  unfold Book.working at working
  split at working
  · rename_i found
    cases working
    exact exact _ (List.mem_of_find?_eq_some found)
  · split at working
    · cases working
      exact Level.fresh_exact key
    · cases working

end Book

namespace Stock

namespace Op

theorem checked_run {key : StockKey} {m move : Move} {note : Note} (checked : (run key m note).checked = .ok move) :
    move = m ∧ m.precheck = .ok () := by
  simp only [Op.checked] at checked
  rcases passed : m.precheck with e | ⟨⟩ <;> rw [passed] at checked <;> cases checked
  exact ⟨rfl, rfl⟩

theorem precheck_of_checked {op : Op} {move : Move} (checked : op.checked = .ok move) : move.precheck = .ok () := by
  cases op with
  | run key m note =>
    obtain ⟨rfl, passed⟩ := checked_run checked
    exact passed
  | change key changeType quantity reference reason =>
    simp only [Op.checked] at checked
    split at checked
    · cases checked
    · split at checked
      · cases checked
      · cases checked
        rfl

/-- A call stays in range when, should its move write on-hand stock over, on hand less
committed less damaged of the level it writes is not below the smallest figure. -/
def inRange (l : Ledger) (op : Op) : Prop :=
  ∀ move w w' mv?, op.checked = .ok move → l.book.working op.key move.creates = .ok w →
    move.apply w = .ok (w', mv?) → move.rewrites → -(top.toInt + 1) ≤ w'.exactAvailable

/-- A stock operation that does not write on-hand stock over is always in range. -/
theorem inRange_of_keeps {key : StockKey} {m : Move} {note : Note} (keeps : m.rewrites = false) (l : Ledger) :
    (run key m note).inRange l := by
  intro move _ _ _ checked _ _ rewrites
  rw [(checked_run checked).1, keeps] at rewrites
  cases rewrites

end Op

variable {l : Ledger}

theorem post_exact (exact : l.book.Exact) (inMemory : l.wiring.inventory = false) (call : Call) (op : Op)
    (admitted : op.inRange l) :
    Run.Post (op.exec call) l (fun _ l' => l'.book.Exact) (fun _ l' => l'.book.Exact) := by
  refine Op.post_exec inMemory (fun _ => exact) fun move w w' mv? checked working applied => ?_
  intro m member
  rw [Ledger.written_levels] at member
  rcases Book.mem_store member with old | rfl
  · exact exact m old
  · exact Move.exact_apply (Book.working_exact exact working) (Op.precheck_of_checked checked) applied
      (admitted move w m mv? checked working applied)

theorem Reachable.exact {l : Ledger} (reached : Reachable Op.inRange l) : l.book.Exact :=
  reached.induction (fun _ _ empty => by rw [empty]; intro w member; cases member)
    (fun l call op inMemory admitted exact => (post_exact exact inMemory call op admitted).final)
    (fun _ _ book _ exact => book ▸ exact)

/-- On a book of exact levels kept in memory a reservation that succeeds adds exactly its
quantity to committed stock and leaves available stock not negative. -/
theorem post_reserve_exact (exact : l.book.Exact) (inMemory : l.wiring.inventory = false) (call : Call)
    (key : StockKey) (q : Int64) (note : Note) :
    Run.Post (Stock.run call key (.reserve q) note) l
      (fun w _ => ∃ w₀, l.book.find? key = some w₀ ∧ w.committed.toInt = w₀.committed.toInt + q.toInt ∧
        0 ≤ w.available.toInt)
      (fun _ _ => True) := by
  show Run.Post ((Op.run key (.reserve q) note).exec call) l _ _
  refine Op.post_exec inMemory (fun _ => trivial) fun move w w' mv? checked working applied => ?_
  obtain ⟨rfl, passed⟩ := Op.checked_run checked
  have found : l.book.find? key = some w := by
    unfold Book.working at working
    split at working
    · rename_i found
      cases working
      exact found
    · cases working
  have held := Book.working_exact exact working
  simp only [Move.apply] at applied
  split at applied
  · cases applied
  · rename_i enough
    cases applied
    have enough := Int64.le_iff_toInt_le.mp (Int64.not_lt.mp enough)
    obtain ⟨sum, after⟩ := Move.exact_reserve held (Move.unit_positive passed) enough
    refine ⟨w, found, sum, ?_⟩
    rw [after.available]
    unfold Level.exactAvailable
    have := held.available
    unfold Level.exactAvailable at this
    show 0 ≤ w.onHand.toInt - (w.committed + q).toInt - w.damaged.toInt
    omega

end Stock

/-- Along a stock run whose sets, counts and synchronised changes never leave on hand less
committed less damaged below the smallest figure, every level is exact: committed and
damaged stock are not negative and available stock is on hand less committed less
damaged, as integers; and every reservation that succeeds adds exactly its quantity to
committed stock and leaves available stock not negative. -/
theorem levels_exact_in_range {l : Ledger} (reached : Stock.Reachable Stock.Op.inRange l) :
    (∀ w ∈ l.book.levels, w.Exact) ∧
      ∀ call key q note, Run.Post (Stock.run call key (.reserve q) note) l
        (fun w _ => ∃ w₀, l.book.find? key = some w₀ ∧ w.committed.toInt = w₀.committed.toInt + q.toInt ∧
          0 ≤ w.available.toInt)
        (fun _ _ => True) :=
  ⟨reached.exact, fun call key q note => Stock.post_reserve_exact reached.exact reached.inMemory call key q note⟩

namespace Session

open Stock

/-- Ten units of `p1` set at the main warehouse and five of them reserved; then on-hand
stock is set to the smallest figure, and available stock wraps to `2^63 - 5`. -/
def countedToMin : Ledger :=
  let stocked := (((Op.run mainStock (.set 10) {}).exec {}).exec fresh).2
  let reserved := (((Op.run mainStock (.reserve 5) {}).exec {}).exec stocked).2
  (((Op.run mainStock (.set (-9223372036854775808)) {}).exec {}).exec reserved).2

/-- The wrapped available stock reserved in full. -/
def wrappedReservation : Ledger :=
  (((Op.run mainStock (.reserve 9223372036854775803) {}).exec {}).exec countedToMin).2

theorem wrappedReservation_reachable : Stock.Reachable everyOp wrappedReservation :=
  ⟨fresh, rfl, rfl, .tail (.tail (.tail (.single (.call _ _ _ trivial)) (.call _ _ _ trivial))
    (.call _ _ _ trivial)) (.call _ _ _ trivial)⟩

/-- A run reaches a level whose available stock has wrapped, `2^63 - 5` where on hand less
committed less damaged is `-2^63 - 5`, and a reservation of all of it succeeds and leaves
committed stock at the smallest figure: not every reachable level is exact. -/
theorem wrappedReservation_negative :
    Stock.Reachable everyOp wrappedReservation ∧
      (countedToMin.book.figure mainStock Level.available).toInt = 9223372036854775803 ∧
      (countedToMin.book.figure mainStock Level.onHand).toInt -
        (countedToMin.book.figure mainStock Level.committed).toInt = -9223372036854775813 ∧
      (wrappedReservation.book.figure mainStock Level.committed).toInt = -9223372036854775808 ∧
      ¬ ∀ w ∈ wrappedReservation.book.levels, w.Exact := by
  have negative : ∃ w ∈ wrappedReservation.book.levels, w.committed.toInt < 0 := by decide +kernel
  obtain ⟨w, member, below⟩ := negative
  exact ⟨wrappedReservation_reachable, by decide +kernel, by decide +kernel, by decide +kernel,
    fun all => absurd (all w member).committed (by omega)⟩

/-- Ten units of `p1` received at the main warehouse, four reserved, three reported
damaged, one of those scrapped and two shipped: no call writes on-hand stock over. -/
def receivedRun : Ledger :=
  let received := (((Op.run mainStock (.receive 10) {}).exec {}).exec fresh).2
  let reserved := (((Op.run mainStock (.reserve 4) {}).exec {}).exec received).2
  let damaged := (((Op.run mainStock (.damage 3) {}).exec {}).exec reserved).2
  let scrapped := (((Op.run mainStock (.scrap 1) {}).exec {}).exec damaged).2
  (((Op.run mainStock (.ship 2) {}).exec {}).exec scrapped).2

theorem receivedRun_reachable : Stock.Reachable Op.inRange receivedRun :=
  ⟨fresh, rfl, rfl, .tail (.tail (.tail (.tail (.single (.call _ _ _ (Op.inRange_of_keeps rfl _)))
    (.call _ _ _ (Op.inRange_of_keeps rfl _))) (.call _ _ _ (Op.inRange_of_keeps rfl _)))
    (.call _ _ _ (Op.inRange_of_keeps rfl _))) (.call _ _ _ (Op.inRange_of_keeps rfl _))⟩

theorem receivedRun_exact :
    Stock.Reachable Op.inRange receivedRun ∧ (∀ w ∈ receivedRun.book.levels, w.Exact) ∧
      ∀ call key q note, Run.Post (Stock.run call key (.reserve q) note) receivedRun
        (fun w _ => ∃ w₀, receivedRun.book.find? key = some w₀ ∧
          w.committed.toInt = w₀.committed.toInt + q.toInt ∧ 0 ≤ w.available.toInt)
        (fun _ _ => True) :=
  ⟨receivedRun_reachable, levels_exact_in_range receivedRun_reachable⟩

end Session

end StockLedger
