import StockLedger.Proofs.OrderHoldings

/-!
The accounts of order reservations. `Ledger.Accounts` holds of a ledger kept in memory
whose levels have their available stock recomputed, whose reserve, release and ship entries
are all filed under an order, whose committed figure at every key is the total of those
entries there, and in which no order holds less than nothing.

A write keeps the accounts when it moves committed stock by exactly what its entry adds to
the holding of the order it is filed under, and leaves that holding non-negative
(`Ledger.Accounts.written`). A reservation and a release always move committed stock
exactly. A shipment records the movement of on-hand stock, and drawing either figure down
stops at zero, so it moves committed stock exactly only when both figures cover it
(`post_ship`).
-/

namespace StockLedger

open Run Orders

/-- What a movement adds to the holding of the order it is filed under. -/
def Movement.held : Option Movement → Int64
  | some mv => if mv.kind.holds then mv.delta else 0
  | none => 0

theorem Stock.optional_eq_some {s o : String} : Stock.optional s = some o ↔ s = o ∧ s ≠ "" := by
  unfold Stock.optional
  split <;> simp_all [eq_comm]

namespace Ledger

structure Accounts (l : Ledger) : Prop where
  inMemory : l.wiring.inventory = false
  recounted : ∀ w ∈ l.book.levels, w.available = w.availableOf
  filed : ∀ e ∈ l.book.log, e.kind.holds → e.reference ≠ none
  balanced : ∀ k, l.book.figure k Level.committed = total l.book.log k
  nonneg : ∀ o k, 0 ≤ holding l.book.log o k

/-- Two ledgers that agree, away from `key`, on every figure and on what every order holds. -/
def Frame (key : StockKey) (l l' : Ledger) : Prop :=
  ∀ k, k ≠ key → (∀ f, l'.book.figure k f = l.book.figure k f) ∧
    ∀ o, holding l'.book.log o k = holding l.book.log o k

section Written

variable (l : Ledger) {key : StockKey} {w' : Level} (call : Call) (move : Move) (note : Note)
  (mv? : Option Movement)

theorem written_figure (keyed : w'.key = key) (c : Option Change) (k : StockKey) (f : Level → Int64) :
    (l.written key w' c).book.figure k f = if key = k then f w' else l.book.figure k f := by
  rw [Book.figure_store (written_levels l key w' c), keyed]

theorem written_holding (o : String) (k : StockKey) :
    holding (l.written key w' (mv?.map (Stock.noted call move note))).book.log o k =
      holding l.book.log o k + if Stock.optional note.reference = some o ∧ key = k then Movement.held mv? else 0 := by
  rcases mv? with _ | mv
  · simp [Movement.held]
  · simp only [written_log, Option.map_some, Option.toList_some, holding_append, filed_reference,
      Stock.noted_reference, filed_key, filed_kind, Stock.noted_kind, filed_quantity, Stock.noted_delta,
      Movement.held]
    by_cases holds : mv.kind.holds <;> simp [holds]

theorem written_total (k : StockKey) :
    total (l.written key w' (mv?.map (Stock.noted call move note))).book.log k =
      total l.book.log k + if key = k then Movement.held mv? else 0 := by
  rcases mv? with _ | mv
  · simp [Movement.held]
  · simp only [written_log, Option.map_some, Option.toList_some, total_append, filed_key, filed_kind,
      Stock.noted_kind, filed_quantity, Stock.noted_delta, Movement.held]
    by_cases holds : mv.kind.holds <;> simp [holds]

theorem written_frame (keyed : w'.key = key) :
    Frame key l (l.written key w' (mv?.map (Stock.noted call move note))) := by
  intro k other
  refine ⟨fun f => ?_, fun o => ?_⟩
  · rw [written_figure l keyed, if_neg (Ne.symm other)]
  · rw [written_holding, if_neg (fun h => other h.2.symm), Int64.add_zero]

end Written

variable {l : Ledger} {key : StockKey} {w w' : Level} {call : Call} {move : Move} {note : Note}
  {mv? : Option Movement}

theorem Accounts.working_recounted (accounts : l.Accounts) {creates : Bool}
    (working : l.book.working key creates = .ok w) : w.available = w.availableOf := by
  unfold Book.working at working
  split at working
  · rename_i found
    cases working
    exact accounts.recounted _ (List.mem_of_find?_eq_some found)
  · split at working
    · cases working
      simp [Level.fresh, Level.availableOf]
    · cases working

/-- A write keeps the accounts when committed stock moves by exactly what the entry adds to
its order's holding, the entry, if an order holds it, is filed under a named order, and
that order's holding stays non-negative. -/
theorem Accounts.written (accounts : l.Accounts) (working : l.book.working key move.creates = .ok w)
    (applied : move.apply w = .ok (w', mv?)) (exact : w'.committed = w.committed + Movement.held mv?)
    (named : ∀ mv ∈ mv?, mv.kind.holds → note.reference ≠ "")
    (kept : note.reference ≠ "" → 0 ≤ holding l.book.log note.reference key + Movement.held mv?) :
    (l.written key w' (mv?.map (Stock.noted call move note))).Accounts := by
  obtain ⟨recounted, keyed'⟩ := Move.apply_recounts applied
  obtain ⟨figured, keyed⟩ := Book.figure_of_working working Level.committed rfl
  refine ⟨by simp [accounts.inMemory], ?_, ?_, ?_, ?_⟩
  · intro m member
    rw [written_levels] at member
    rcases Book.mem_store member with old | rfl
    · exact accounts.recounted m old
    · exact recounted
  · intro e member holds
    rw [written_log] at member
    rcases List.mem_append.mp member with old | new
    · exact accounts.filed e old holds
    · rcases mv? with _ | mv
      · cases new
      · simp only [Option.map_some, Option.toList_some, List.mem_singleton] at new
        subst new
        rw [filed_reference, Stock.noted_reference, Stock.optional_of_ne (named mv rfl holds)]
        exact Option.some_ne_none _
  · intro k
    rw [written_figure l (keyed'.trans keyed), written_total]
    split
    · rename_i here
      subst here
      rw [exact, ← figured, accounts.balanced]
    · rw [Int64.add_zero]
      exact accounts.balanced k
  · intro o k
    rw [written_holding]
    split
    · rename_i filed
      obtain ⟨rfl, named⟩ := Stock.optional_eq_some.mp filed.1
      rw [← filed.2]
      exact kept named
    · rw [Int64.add_zero]
      exact accounts.nonneg o k

/-- A write on a ledger kept in memory leaves it as it was when it fails, and otherwise
writes the move's level with the entry of its movement. -/
theorem post_write {ok : Level → Ledger → Prop} {err : Failure → Ledger → Prop}
    (inMemory : l.wiring.inventory = false) (refused : ∀ e, err e l)
    (wrote : ∀ w w' mv?, l.book.working key move.creates = .ok w → move.apply w = .ok (w', mv?) →
      ok w' (l.written key w' (mv?.map (Stock.noted call move note)))) :
    Post (Stock.write call key move note) l ok err := by
  unfold Post
  rcases Stock.write_cases call key move note inMemory with ⟨e, failed⟩ | ⟨w, w', mv?, working, applied, done⟩
  · rw [failed]
    exact refused e
  · rw [done]
    exact wrote w w' mv? working applied

theorem post_run {ok : Level → Ledger → Prop} {err : Failure → Ledger → Prop}
    (inMemory : l.wiring.inventory = false) (refused : ∀ e, err e l)
    (wrote : ∀ w w' mv?, move.precheck = .ok () → l.book.working key move.creates = .ok w →
      move.apply w = .ok (w', mv?) → ok w' (l.written key w' (mv?.map (Stock.noted call move note)))) :
    Post (Stock.run call key move note) l ok err :=
  Stock.post_run_cases inMemory refused fun w w' mv? checked _ working applied => wrote w w' mv? checked working applied

theorem Move.positive_of_precheck {m : Move} {q : Int64} (unit : m = .reserve q ∨ m = .release q ∨ m = .ship q)
    (checked : m.precheck = .ok ()) : 0 < q := by
  rcases unit with rfl | rfl | rfl <;>
  · simp only [Move.precheck] at checked
    split at checked
    · cases checked
    · exact Int64.not_le.mp ‹_›

/-- A move that commits nothing keeps the accounts, whatever it is filed under. -/
theorem Accounts.written_quiet (accounts : l.Accounts) (quiet : move.commits = false)
    (working : l.book.working key move.creates = .ok w) (applied : move.apply w = .ok (w', mv?)) :
    (l.written key w' (mv?.map (Stock.noted call move note))).Accounts := by
  obtain ⟨same, unheld⟩ := Move.apply_quiet quiet applied
  have nothing : Movement.held mv? = 0 := by
    rcases mv? with _ | mv
    · rfl
    · simp [Movement.held, unheld mv rfl]
  refine accounts.written working applied (by rw [same, nothing, Int64.add_zero]) ?_ ?_
  · intro mv member holds
    rw [unheld mv member] at holds
    cases holds
  · intro _
    rw [nothing, Int64.add_zero]
    exact accounts.nonneg _ _

theorem Accounts.post_quiet (accounts : l.Accounts) (quiet : move.commits = false) :
    Post (Stock.run call key move note) l (fun _ l' => l'.Accounts) (fun _ l' => l'.Accounts) :=
  post_run accounts.inMemory (fun _ => accounts) fun _ _ _ _ working applied =>
    accounts.written_quiet quiet working applied

theorem Accounts.post_write_quiet (accounts : l.Accounts) (quiet : move.commits = false) :
    Post (Stock.write call key move note) l (fun _ l' => l'.Accounts) (fun _ l' => l'.Accounts) :=
  post_write accounts.inMemory (fun _ => accounts) fun _ _ _ working applied =>
    accounts.written_quiet quiet working applied

section Commits

variable {q : Int64}

/-- A reservation adds its quantity to the order's holding and takes it from the stock
available at the key, provided the two stay below the top figure. -/
theorem Accounts.post_reserve (accounts : l.Accounts) (note : Note) (named : note.reference ≠ "")
    (room : (holding l.book.log note.reference key).toInt + (l.book.figure key Level.available).toInt ≤
      Quantity.top.toInt) :
    Post (Stock.run call key (.reserve q) note) l
      (fun _ l' => l'.Accounts ∧ Frame key l l' ∧ 0 < q ∧ q ≤ l.book.figure key Level.available ∧
        (holding l'.book.log note.reference key).toInt = (holding l.book.log note.reference key).toInt + q.toInt ∧
        (l'.book.figure key Level.available).toInt = (l.book.figure key Level.available).toInt - q.toInt)
      (fun _ l' => l' = l) := by
  refine post_run accounts.inMemory (fun _ => rfl) fun w w' mv? checked working applied => ?_
  have positive := Move.positive_of_precheck (.inl rfl) checked
  obtain ⟨enough, committed, onHand, damaged, rfl⟩ := Move.reserve_applied applied
  obtain ⟨recounted, keyed'⟩ := Move.apply_recounts applied
  obtain ⟨available, keyed⟩ := Book.figure_of_working working Level.available rfl
  have qPos := Int64.lt_iff_toInt_lt.mp positive
  have qEnough := Int64.le_iff_toInt_le.mp enough
  have held := Int64.le_iff_toInt_le.mp (accounts.nonneg note.reference key)
  simp only [Int64.toInt_zero] at qPos held
  rw [available] at room
  have := Quantity.toInt_top
  -- the new holding does not wrap: it stays below holding plus available stock
  have added : (holding l.book.log note.reference key + q).toInt =
      (holding l.book.log note.reference key).toInt + q.toInt :=
    Quantity.toInt_add_of_fits (by have := Int64.le_toInt (holding l.book.log note.reference key); omega)
      (by omega)
  have reserved : Movement.held (some ⟨.reserved, q, w.committed⟩) = q := rfl
  have holdingAfter : holding (l.written key w' (some ⟨.reserved, q, w.committed⟩ |>.map
      (Stock.noted call (.reserve q) note))).book.log note.reference key =
      holding l.book.log note.reference key + q := by
    rw [written_holding, if_pos ⟨Stock.optional_of_ne named, rfl⟩, reserved]
  have left : w'.available = w.available - q := by
    rw [recounted, accounts.working_recounted working]
    simp only [Level.availableOf, committed, onHand, damaged]
    grind
  refine ⟨accounts.written working applied (by rw [committed, reserved]) (fun _ _ _ => named)
      fun _ => ?_, written_frame l call _ note _ (keyed'.trans keyed), positive, available ▸ enough, ?_, ?_⟩
  · rw [reserved]
    exact Int64.le_iff_toInt_le.mpr (by simp only [Int64.toInt_zero]; omega)
  · rw [holdingAfter, added]
  · rw [written_figure l (keyed'.trans keyed), if_pos rfl, left, available]
    exact Quantity.toInt_sub_of_fits (by have := Int64.le_toInt w.available; omega)
      (by have := Int64.toInt_lt w.available; omega)

/-- A release takes from the order's holding at most its quantity, and keeps the accounts
when the order holds at least that much. -/
theorem Accounts.post_release (accounts : l.Accounts) (note : Note) (named : note.reference ≠ "")
    (covered : q ≤ holding l.book.log note.reference key) :
    Post (Stock.run call key (.release q) note) l
      (fun _ l' => l'.Accounts ∧ Frame key l l' ∧
        (holding l.book.log note.reference key).toInt - q.toInt ≤ (holding l'.book.log note.reference key).toInt)
      (fun _ l' => l' = l) := by
  refine post_run accounts.inMemory (fun _ => rfl) fun w w' mv? checked working applied => ?_
  have positive := Move.positive_of_precheck (.inr (.inl rfl)) checked
  rw [Move.release_apply] at applied
  cases applied
  obtain ⟨-, keyed⟩ := Book.figure_of_working working Level.committed rfl
  have released : Movement.held (some ⟨.unreserved, Quantity.drawn w.committed q, w.committed⟩) =
      Quantity.drawn w.committed q := rfl
  have bounds : -q.toInt ≤ (Quantity.drawn w.committed q).toInt ∧ (Quantity.drawn w.committed q).toInt ≤ 0 :=
    Quantity.drawn_bounds positive
  obtain ⟨low, high⟩ := bounds
  have qCovered := Int64.le_iff_toInt_le.mp covered
  have qPos := Int64.lt_iff_toInt_lt.mp positive
  simp only [Int64.toInt_zero] at qPos
  have := Quantity.toInt_top
  -- what the release takes stays within the holding, so the new holding does not wrap
  have taken : (holding l.book.log note.reference key + Quantity.drawn w.committed q).toInt =
      (holding l.book.log note.reference key).toInt + (Quantity.drawn w.committed q).toInt :=
    Quantity.toInt_add_of_fits (by omega) (by have := Int64.toInt_lt (holding l.book.log note.reference key); omega)
  refine ⟨accounts.written working (Move.release_apply q) ?_ (fun _ _ _ => named) fun _ => ?_,
    written_frame l call _ note _ keyed, ?_⟩
  · rw [released]
    show Quantity.floorSub w.committed q = w.committed + (Quantity.floorSub w.committed q - w.committed)
    grind
  · rw [released]
    exact Int64.le_iff_toInt_le.mpr (by simp only [Int64.toInt_zero]; omega)
  · rw [written_holding, if_pos ⟨Stock.optional_of_ne named, rfl⟩, released, taken]
    omega

/-- A shipment that committed and on-hand stock both cover takes exactly its quantity from
the order's holding and from both figures. -/
theorem Accounts.post_ship (accounts : l.Accounts) (note : Note) (named : note.reference ≠ "")
    (held : q ≤ holding l.book.log note.reference key)
    (committed : holding l.book.log note.reference key ≤ l.book.figure key Level.committed)
    (onHand : l.book.figure key Level.committed ≤ l.book.figure key Level.onHand) :
    Post (Stock.run call key (.ship q) note) l
      (fun _ l' => l'.Accounts ∧ Frame key l l' ∧ 0 < q ∧
        holding l'.book.log note.reference key = holding l.book.log note.reference key - q ∧
        l'.book.figure key Level.committed = l.book.figure key Level.committed - q ∧
        l'.book.figure key Level.onHand = l.book.figure key Level.onHand - q)
      (fun _ l' => l' = l) := by
  refine post_run accounts.inMemory (fun _ => rfl) fun w w' mv? checked working applied => ?_
  have positive := Move.positive_of_precheck (.inr (.inr rfl)) checked
  rw [Move.ship_apply] at applied
  cases applied
  obtain ⟨committedAt, keyed⟩ := Book.figure_of_working working Level.committed rfl
  obtain ⟨onHandAt, -⟩ := Book.figure_of_working working Level.onHand rfl
  obtain ⟨-, keyed'⟩ := Move.apply_recounts (Move.ship_apply (w := w) q)
  rw [committedAt] at committed onHand
  rw [onHandAt] at onHand
  have coversCommitted : q ≤ w.committed := Int64.le_trans held committed
  have coversOnHand : q ≤ w.onHand := Int64.le_trans coversCommitted onHand
  have shipped : Movement.held (some ⟨.shipped, Quantity.drawn w.onHand q, w.onHand⟩) = -q := by
    simp only [Movement.held, AdjustmentKind.holds, if_true]
    exact (Quantity.drawn_eq_neg_iff positive).mpr coversOnHand
  have remaining : holding l.book.log note.reference key + -q = holding l.book.log note.reference key - q :=
    (Int64.sub_eq_add_neg _ _).symm
  refine ⟨accounts.written working (Move.ship_apply q) ?_ (fun _ _ _ => named) fun _ => ?_,
    written_frame l call _ note _ keyed, positive, ?_, ?_, ?_⟩
  · rw [shipped, ← Int64.sub_eq_add_neg]
    exact Quantity.floorSub_of_le positive coversCommitted
  · rw [shipped, remaining]
    have := Int64.toInt_sub_of_le _ _ (Int64.le_of_lt positive) held
    exact Int64.le_iff_toInt_le.mpr (by
      have := Int64.le_iff_toInt_le.mp held
      simp only [Int64.toInt_zero]
      omega)
  · rw [written_holding, if_pos ⟨Stock.optional_of_ne named, rfl⟩, shipped, remaining]
  · rw [written_figure l (keyed'.trans keyed), if_pos rfl, committedAt]
    exact Quantity.floorSub_of_le positive coversCommitted
  · rw [written_figure l (keyed'.trans keyed), if_pos rfl, onHandAt]
    exact Quantity.floorSub_of_le positive coversOnHand

end Commits

end Ledger

end StockLedger
