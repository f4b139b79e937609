import StockLedger.Proofs.OrderAccounts
import Mathlib

/-!
Order events keep the accounts. A created event reserves its lines in turn, reading the
order's holding first on a key it has not reserved yet; `Orders.Reserving` is what holds
between two lines: every reservation it made is still covered by what the order holds, so
a rollback releases no more than the order holds, and on each key it reserved, the order's
holding and the stock still available there add up to no more than the top figure, so a
repeated line's reservation cannot wrap the holding. Cancelled and fulfilled events settle
each line for at most what the order holds; a fulfilment keeps the accounts when, at each
key it names, the order's holding is committed and the committed stock is on hand
(`Orders.Covers`). Returned events only restock.
-/

namespace StockLedger

open Run

namespace Orders

/-- The location an event's lines are kept at: the main warehouse when none is given. -/
def place (location : String) : String := if location = "" then "warehouse-main" else location

/-- The keys and quantities of an event's lines at its location. -/
def keyed (location : String) (lines : List OrderLine) : List (StockKey × Int64) :=
  lines.map fun x => (⟨x.product, x.variant, place location⟩, x.quantity)

theorem place_ne_empty (location : String) : place location ≠ "" := by
  unfold place
  split
  · decide
  · assumption

/-- Keys the listener can read back: a named product at a named location. -/
def Readable (lines : List (StockKey × Int64)) : Prop := ∀ p ∈ lines, p.1.product ≠ "" ∧ p.1.location ≠ ""

theorem readable_keyed {location : String} {lines : List OrderLine} (products : ∀ x ∈ lines, x.product ≠ "") :
    Readable (keyed location lines) := by
  intro p member
  obtain ⟨x, found, rfl⟩ := List.mem_map.mp member
  exact ⟨products x found, place_ne_empty location⟩

variable {l : Ledger} {call : Call} {o : String}

theorem post_held {key : StockKey} {ok : Int64 → Ledger → Prop} {err : Failure → Ledger → Prop}
    (inMemory : l.wiring.inventory = false) (readable : key.product ≠ "" ∧ key.location ≠ "") (named : o ≠ "") :
    Post (held call key o) l ok err ↔ ok (holding l.book.log o key) l := by
  unfold Post
  rw [held_exec call key o inMemory readable.1 readable.2 named]

/-- The quantities a created event reserved on a key, which its rollback releases. -/
def reservedOn (made : List (StockKey × Int64)) (k : StockKey) : Int :=
  ((made.filter (·.1 == k)).map (·.2.toInt)).sum

theorem reservedOn_cons (key : StockKey) (q : Int64) (made : List (StockKey × Int64)) (k : StockKey) :
    reservedOn ((key, q) :: made) k = (if key = k then q.toInt else 0) + reservedOn made k := by
  unfold reservedOn
  by_cases here : key = k <;> simp [here]

theorem reservedOn_append (made : List (StockKey × Int64)) (key : StockKey) (q : Int64) (k : StockKey) :
    reservedOn (made ++ [(key, q)]) k = reservedOn made k + if key = k then q.toInt else 0 := by
  unfold reservedOn
  by_cases here : key = k <;> simp [here]

theorem reservedOn_reverse (made : List (StockKey × Int64)) (k : StockKey) :
    reservedOn made.reverse k = reservedOn made k := by
  simp [reservedOn, List.filter_reverse]

/-- Reservations a rollback may release: each positive, and on each key no more than the
order holds there. -/
structure Releasable (o : String) (made : List (StockKey × Int64)) (l : Ledger) : Prop where
  accounts : l.Accounts
  covered : ∀ k, reservedOn made k ≤ (holding l.book.log o k).toInt
  positive : ∀ p ∈ made, 0 < p.2

theorem reservedOn_nonneg {made : List (StockKey × Int64)} (positive : ∀ p ∈ made, 0 < p.2) (k : StockKey) :
    0 ≤ reservedOn made k := by
  unfold reservedOn
  apply List.sum_nonneg
  intro x member
  obtain ⟨p, kept, rfl⟩ := List.mem_map.mp member
  have := Int64.lt_iff_toInt_lt.mp (positive p (List.mem_of_mem_filter kept))
  simp only [Int64.toInt_zero] at this
  omega

theorem post_releaseAll (named : o ≠ "") (reason : String) (r : List (StockKey × Int64))
    (releasable : Releasable o r l) :
    Post (r.forM fun (key, q) => do
        let _ ← attempt (Stock.run call key (.release q) { reference := o, reason, user := system }))
      l (fun _ l' => l'.Accounts) (fun _ l' => l'.Accounts) := by
  induction r generalizing l with
  | nil => exact releasable.accounts
  | cons p rest ih =>
    obtain ⟨key, q⟩ := p
    have positive := releasable.positive (key, q) (by simp)
    have restPositive : ∀ p ∈ rest, 0 < p.2 := fun p member => releasable.positive p (by simp [member])
    have restNonneg := reservedOn_nonneg restPositive
    have qPos := Int64.lt_iff_toInt_lt.mp positive
    simp only [Int64.toInt_zero] at qPos
    show Post (_ >>= fun _ => rest.forM _) l _ _
    rw [post_bind, post_bind, post_attempt]
    refine Post.mono (releasable.accounts.post_release { reference := o, reason, user := system }
      named ?_) (fun _ l' after => ih ?_) fun _ l' same => ih ?_
    · -- the release is of a reservation the order still holds
      show q ≤ holding l.book.log o key
      have := releasable.covered key
      rw [reservedOn_cons, if_pos rfl] at this
      exact Int64.le_iff_toInt_le.mpr (by have := restNonneg key; omega)
    · obtain ⟨accounts, frame, taken⟩ := after
      dsimp only at taken
      refine ⟨accounts, fun k => ?_, restPositive⟩
      have before := releasable.covered k
      rw [reservedOn_cons] at before
      by_cases here : key = k
      · subst here
        rw [if_pos rfl] at before
        omega
      · rw [(frame k (Ne.symm here)).2 o]
        rw [if_neg here] at before
        omega
    · subst same
      refine ⟨releasable.accounts, fun k => ?_, restPositive⟩
      have before := releasable.covered k
      rw [reservedOn_cons] at before
      split at before <;> omega

theorem post_rollback (named : o ≠ "") (made : List (StockKey × Int64)) (releasable : Releasable o made l) :
    Post (rollback call o made) l (fun _ l' => l'.Accounts) (fun _ l' => l'.Accounts) := by
  unfold rollback
  refine post_releaseAll named _ made.reverse ⟨releasable.accounts, fun k => ?_, fun p member => ?_⟩
  · rw [reservedOn_reverse]
    exact releasable.covered k
  · exact releasable.positive p (List.mem_reverse.mp member)

/-- What holds between two lines of a created event: its reservations can be rolled back,
and on each key it reserved, the order's holding and the stock still available there
stay below the top figure. -/
structure Reserving (o : String) (touched : List StockKey) (made : List (StockKey × Int64)) (l : Ledger) :
    Prop where
  releasable : Releasable o made l
  room : ∀ k ∈ touched,
    (holding l.book.log o k).toInt + (l.book.figure k Level.available).toInt ≤ Quantity.top.toInt

/-- Reserving a line keeps what holds between lines, with the line's key touched and its
reservation made. -/
theorem Reserving.reserve {touched : List StockKey} {made : List (StockKey × Int64)} {key : StockKey}
    {q : Int64} {l' : Ledger} (reserving : Reserving o touched made l)
    (room : (holding l.book.log o key).toInt + (l.book.figure key Level.available).toInt ≤ Quantity.top.toInt)
    (frame : Ledger.Frame key l l')
    (accounts : l'.Accounts) (positive : 0 < q) (enough : q ≤ l.book.figure key Level.available)
    (added : (holding l'.book.log o key).toInt = (holding l.book.log o key).toInt + q.toInt)
    (taken : (l'.book.figure key Level.available).toInt = (l.book.figure key Level.available).toInt - q.toInt) :
    Reserving o (key :: touched) (made ++ [(key, q)]) l' := by
  have qEnough := Int64.le_iff_toInt_le.mp enough
  refine ⟨⟨accounts, fun k => ?_, fun p member => ?_⟩, fun k member => ?_⟩
  · have before := reserving.releasable.covered k
    rw [reservedOn_append]
    by_cases here : key = k
    · subst here
      rw [if_pos rfl, added]
      omega
    · rw [if_neg here, Int.add_zero, (frame k (Ne.symm here)).2 o]
      exact before
  · rcases List.mem_append.mp member with old | new
    · exact reserving.releasable.positive p old
    · rw [List.mem_singleton.mp new]
      exact positive
  · by_cases here : k = key
    · subst here
      rw [added, taken]
      omega
    · obtain ⟨figures, holdings⟩ := frame k here
      rw [figures, holdings]
      exact reserving.room k (List.mem_of_ne_of_mem here member)

/-- A created event reserves its lines in turn and keeps the accounts, whether it goes
through or rolls back. -/
theorem post_reserveLines (named : o ≠ "") (lines : List (StockKey × Int64)) (readable : Readable lines)
    {touched : List StockKey} {made : List (StockKey × Int64)} (reserving : Reserving o touched made l) :
    Post (reserveLines call o touched made lines) l (fun _ l' => l'.Accounts) (fun _ l' => l'.Accounts) := by
  induction lines generalizing touched made l with
  | nil => exact reserving.releasable.accounts
  | cons p rest ih =>
    obtain ⟨key, q⟩ := p
    have restReadable : Readable rest := fun p member => readable p (by simp [member])
    have accounts := reserving.releasable.accounts
    -- the reservation of the line, once the order's holding leaves room for it
    have reserve : ∀ next : Except Failure Level → Run Unit,
        (∀ e, next (.error e) = rollback call o made) →
        (∀ w, next (.ok w) = reserveLines call o (key :: touched) (made ++ [(key, q)]) rest) →
        (holding l.book.log o key).toInt + (l.book.figure key Level.available).toInt ≤ Quantity.top.toInt →
        Post (attempt (Stock.run call key (.reserve q)
            { reference := o, reason := "Stock reserved for order", user := system }) >>= next)
          l (fun _ l' => l'.Accounts) (fun _ l' => l'.Accounts) := by
      intro next failed reserved room
      rw [post_bind, post_attempt]
      refine (accounts.post_reserve { reference := o, reason := "Stock reserved for order", user := system } named
        room).mono (fun _ l' after => ?_) fun _ l' same => ?_
      · obtain ⟨accounts', frame, positive, enough, added, taken⟩ := after
        rw [reserved]
        exact ih restReadable (reserving.reserve room frame accounts' positive enough added taken)
      · subst same
        rw [failed]
        exact post_rollback named made reserving.releasable
    rw [reserveLines]
    by_cases seen : touched.contains key = true
    · rw [if_pos seen, post_bind, post_pure]
      exact reserve _ (fun _ => rfl) (fun _ => rfl) (reserving.room key (List.contains_iff_mem.mp seen))
    · rw [if_neg seen]
      simp only [post_bind, post_attempt, post_held accounts.inMemory (readable (key, q) (by simp)) named,
        post_pure]
      by_cases holds : holding l.book.log o key > 0
      · simp only [holds, decide_true]
        exact ih restReadable reserving
      · simp only [holds, decide_false]
        -- an order holding nothing on the key leaves room for all the stock available there
        refine reserve _ (fun _ => rfl) (fun _ => rfl) ?_
        have nothing : holding l.book.log o key = 0 :=
          Int64.le_antisymm (Int64.not_lt.mp holds) (accounts.nonneg o key)
        rw [nothing, Int64.toInt_zero, Int.zero_add, Quantity.toInt_top]
        have := Int64.toInt_lt (l.book.figure key Level.available)
        omega

/-- Settling lines keeps an invariant of the accounts when settling one line, for an
amount the order holds there, keeps it whether the stock operation goes through or not. -/
theorem post_settle {I : Ledger → Prop} (named : o ≠ "") (lines : List (StockKey × Int64))
    (readable : Readable lines) (move : Int64 → Move) (reason : String) (accounts : ∀ l, I l → l.Accounts)
    (step : ∀ p ∈ lines, ∀ l (q : Int64), I l → q ≤ holding l.book.log o p.1 →
      Post (Stock.run call p.1 (move q) { reference := o, reason, user := system }) l (fun _ => I) (fun _ l' => l' = l))
    (start : I l) : Post (settle call o lines move reason) l (fun _ => I) (fun _ => I) := by
  unfold settle
  refine post_forM _ _ I start fun p member l inv => ?_
  obtain ⟨key, q⟩ := p
  simp only [post_bind, post_attempt, post_held (accounts l inv).inMemory (readable (key, q) member) named]
  split
  · exact inv
  · rename_i holds
    rw [post_bind, post_attempt]
    -- the line is settled for at most what the order holds
    refine (step (key, q) member l _ inv ?_).mono (fun _ _ kept => kept) fun _ _ same => same ▸ inv
    split
    · exact Int64.le_refl _
    · exact Int64.not_lt.mp ‹_›

/-- A fulfilment is covered on a ledger when, at each key it names, the order holds no
more than is committed there and no more is committed than is on hand. -/
def Covers (o : String) (lines : List (StockKey × Int64)) (l : Ledger) : Prop :=
  ∀ p ∈ lines, holding l.book.log o p.1 ≤ l.book.figure p.1 Level.committed ∧
    l.book.figure p.1 Level.committed ≤ l.book.figure p.1 Level.onHand

instance (o : String) (lines : List (StockKey × Int64)) (l : Ledger) : Decidable (Covers o lines l) :=
  inferInstanceAs (Decidable (∀ p ∈ lines, _ ∧ _))

/-- A shipment out of a covered fulfilment leaves the rest of it covered. -/
theorem Covers.ship {lines : List (StockKey × Int64)} {key : StockKey} {q : Int64} {l' : Ledger}
    (covers : Covers o lines l) (frame : Ledger.Frame key l l') (positive : 0 < q)
    (held : q ≤ holding l.book.log o key)
    (holding' : holding l'.book.log o key = holding l.book.log o key - q)
    (committed' : l'.book.figure key Level.committed = l.book.figure key Level.committed - q)
    (onHand' : l'.book.figure key Level.onHand = l.book.figure key Level.onHand - q) : Covers o lines l' := by
  intro p member
  obtain ⟨committed, onHand⟩ := covers p member
  by_cases here : p.1 = key
  · rw [here] at committed onHand ⊢
    rw [holding', committed', onHand']
    have nonneg := Int64.le_of_lt positive
    exact ⟨Quantity.sub_le_sub_of_le nonneg held committed,
      Quantity.sub_le_sub_of_le nonneg (Int64.le_trans held committed) onHand⟩
  · obtain ⟨figures, holdings⟩ := frame p.1 here
    rw [figures, figures, holdings]
    exact ⟨committed, onHand⟩

section Events

variable {change : OrderChange} {location : String} {lines : List OrderLine}

theorem post_cancel (accounts : l.Accounts) (named : o ≠ "") (readable : Readable (keyed location lines)) :
    Post (settle call o (keyed location lines) .release "Order cancelled") l
      (fun _ l' => l'.Accounts) (fun _ l' => l'.Accounts) := by
  refine post_settle (I := fun l => l.Accounts) named _ readable .release "Order cancelled" (fun _ kept => kept)
    (fun _ _ l _ kept held => ?_) accounts
  exact (kept.post_release { reference := o, reason := "Order cancelled", user := system } named
    held).mono (fun _ _ after => after.1) fun _ _ same => same

theorem post_fulfil (accounts : l.Accounts) (named : o ≠ "") (readable : Readable (keyed location lines))
    (covers : Covers o (keyed location lines) l) :
    Post (settle call o (keyed location lines) .ship "Order fulfilled") l
      (fun _ l' => l'.Accounts) (fun _ l' => l'.Accounts) := by
  -- each shipment keeps the accounts only while the lines are covered, so coverage is
  -- carried along the lines with them
  refine (post_settle (I := fun l => l.Accounts ∧ Covers o (keyed location lines) l) named _ readable
    .ship "Order fulfilled" (fun _ kept => kept.1) (fun p member l q kept held => ?_) ⟨accounts, covers⟩).mono
    (fun _ _ kept => kept.1) fun _ _ kept => kept.1
  obtain ⟨accounts, covers⟩ := kept
  obtain ⟨committed, onHand⟩ := covers p member
  refine (accounts.post_ship { reference := o, reason := "Order fulfilled", user := system } named held
    committed onHand).mono (fun _ l' after => ?_) fun _ _ same => same
  obtain ⟨accounts', frame, positive, holding', committed', onHand'⟩ := after
  exact ⟨accounts', covers.ship frame positive held holding' committed' onHand'⟩

theorem post_return (accounts : l.Accounts) (o : String) :
    Post ((keyed location lines).forM fun (key, q) => do
        let _ ← attempt (Stock.run call key (.restock q)
          { reference := o, reason := "Order returned", user := system }))
      l (fun _ l' => l'.Accounts) (fun _ l' => l'.Accounts) := by
  refine post_forM _ _ _ accounts fun p _ l kept => ?_
  obtain ⟨key, q⟩ := p
  rw [post_bind, post_attempt]
  exact (kept.post_quiet rfl).mono (fun _ _ h => h) fun _ _ h => h

/-- An order event keeps the accounts, for a named order and named products, when a
fulfilment is covered. -/
theorem post_apply (accounts : l.Accounts) (named : o ≠ "") (products : ∀ x ∈ lines, x.product ≠ "")
    (covered : change = .fulfilled → Covers o (keyed location lines) l) :
    Post (apply call change o location lines) l (fun _ l' => l'.Accounts) (fun _ l' => l'.Accounts) := by
  have readable : Readable (keyed location lines) := readable_keyed products
  cases change with
  | created =>
    -- with nothing reserved yet, a rollback needs only that the order holds no less than nothing
    refine post_reserveLines named _ readable ⟨⟨accounts, fun k => ?_, by simp⟩, by simp⟩
    simpa [reservedOn] using Int64.le_iff_toInt_le.mp (accounts.nonneg o k)
  | cancelled => exact post_cancel accounts named readable
  | fulfilled => exact post_fulfil accounts named readable (covered rfl)
  | returned => exact post_return accounts o

end Events

end Orders

end StockLedger
