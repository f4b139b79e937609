import StockLedger.Proofs.OrderRuns
import StockLedger.Proofs.LevelBounds

/-!
A created order reserves all its due lines or none. A line is due when the order holds no
positive quantity on its key before the event. The event reserves the due lines in turn,
and the first that cannot be reserved releases those before it, newest first. Which of the
two happens is settled before the event by `Orders.Fits`: every due line has a positive
quantity, the lock of its key and a level there, and on each key the due quantities
together fit the stock available. Between two lines the ledger is the starting one with the
reservations made so far stacked on it (`Orders.Stacked`); a release takes the last one off
exactly, so a rollback ends on the levels the event began with.

The order's holding is read only on keys the event has not reserved yet, and only its sign
counts. A blank product reads what the order holds on every product at the location, so
its line is skipped once the order holds another; and an order that held less than nothing
on a key still holds no more than nothing after its first delivery, so a redelivery
reserves again. On a level whose available stock has wrapped, a reservation pushes
committed stock past the top figure, and the release that rolls it back draws from a
negative figure and leaves it there (`Session.created_order_skips_wraps_and_repeats`).
-/

namespace StockLedger

open Run

namespace Quantity

theorem sum_toInt_nonneg {qs : List Int64} (positive : ∀ q ∈ qs, 0 < q) : 0 ≤ (qs.map Int64.toInt).sum := by
  apply List.sum_nonneg
  intro x member
  obtain ⟨y, kept, rfl⟩ := List.mem_map.mp member
  have := Int64.lt_iff_toInt_lt.mp (positive y kept)
  simp only [Int64.toInt_zero] at this
  omega

theorem toInt_sum_of_pos {qs : List Int64} (positive : ∀ q ∈ qs, 0 < q)
    (bounded : (qs.map Int64.toInt).sum ≤ top.toInt) : qs.sum.toInt = (qs.map Int64.toInt).sum := by
  induction qs with
  | nil => simp
  | cons q rest ih =>
    have qPos : 0 < q.toInt := by simpa using Int64.lt_iff_toInt_lt.mp (positive q (by simp))
    have restNonneg := sum_toInt_nonneg fun x member => positive x (List.mem_cons_of_mem q member)
    simp only [List.map_cons, List.sum_cons] at bounded ⊢
    have restSum := ih (fun x member => positive x (List.mem_cons_of_mem q member)) (by omega)
    have := toInt_top
    rw [toInt_add_of_fits (by omega) (by omega), restSum]

end Quantity

namespace Level

/-- `v` is the exact level `w` with `s` more committed and `s` less available, and the same
stock on hand and damaged. -/
structure Lifted (w : Level) (s : Int) (v : Level) : Prop where
  exact : v.Exact
  committed : v.committed.toInt = w.committed.toInt + s
  available : v.available.toInt = w.available.toInt - s
  onHand : v.onHand = w.onHand
  damaged : v.damaged = w.damaged

variable {w u v : Level} {a b : Int}

theorem Lifted.refl (exact : w.Exact) : w.Lifted 0 w := ⟨exact, by omega, by omega, rfl, rfl⟩

theorem Lifted.trans (first : w.Lifted a u) (second : u.Lifted b v) : w.Lifted (a + b) v where
  exact := second.exact
  committed := by rw [second.committed, first.committed]; omega
  available := by rw [second.available, first.available]; omega
  onHand := second.onHand.trans first.onHand
  damaged := second.damaged.trans first.damaged

theorem Lifted.raisedBy {q : Int64} (exact : w.Exact) (positive : 0 < q.toInt) (enough : q.toInt ≤ w.available.toInt) :
    w.Lifted q.toInt (w.raisedBy q) := by
  obtain ⟨sum, after⟩ := Move.exact_reserve exact positive enough
  have now : (w.raisedBy q).available.toInt = w.onHand.toInt - (w.committed + q).toInt - w.damaged.toInt :=
    after.available
  have before := exact.available
  unfold exactAvailable at before
  exact ⟨after, sum, by omega, rfl, rfl⟩

/-- Raising an exact level by positive quantities that together fit its available stock
lifts it by their sum. -/
theorem Exact.lifted_foldl (exact : w.Exact) {qs : List Int64} (positive : ∀ q ∈ qs, 0 < q)
    (fits : (qs.map Int64.toInt).sum ≤ w.available.toInt) :
    w.Lifted (qs.map Int64.toInt).sum (qs.foldl raisedBy w) := by
  induction qs generalizing w with
  | nil => exact Lifted.refl exact
  | cons q rest ih =>
    have qPos : 0 < q.toInt := by simpa using Int64.lt_iff_toInt_lt.mp (positive q (by simp))
    have restNonneg := Quantity.sum_toInt_nonneg fun x member => positive x (List.mem_cons_of_mem q member)
    simp only [List.map_cons, List.sum_cons] at fits ⊢
    have first := Lifted.raisedBy exact qPos (by omega)
    -- the rest fits what the first reservation left available
    have second := ih first.exact (fun x member => positive x (List.mem_cons_of_mem q member))
      (by rw [first.available]; omega)
    exact first.trans second

end Level

namespace Orders

/-- The quantities reserved on a key, in the order they were reserved. -/
def quantitiesOn (made : List (StockKey × Int64)) (k : StockKey) : List Int64 :=
  (made.filter (·.1 == k)).map (·.2)

@[simp] theorem quantitiesOn_nil (k : StockKey) : quantitiesOn [] k = [] := rfl

theorem quantitiesOn_append (made : List (StockKey × Int64)) (key : StockKey) (q : Int64) (k : StockKey) :
    quantitiesOn (made ++ [(key, q)]) k = quantitiesOn made k ++ if key = k then [q] else [] := by
  unfold quantitiesOn
  by_cases here : key = k <;> simp [here]

theorem quantitiesOn_eq_nil {made : List (StockKey × Int64)} {k : StockKey} (absent : ∀ p ∈ made, p.1 ≠ k) :
    quantitiesOn made k = [] := by
  simp only [quantitiesOn, List.map_eq_nil_iff, List.filter_eq_nil_iff, beq_iff_eq]
  exact absent

theorem reservedOn_eq_sum (made : List (StockKey × Int64)) (k : StockKey) :
    reservedOn made k = ((quantitiesOn made k).map Int64.toInt).sum := by
  simp [reservedOn, quantitiesOn, List.map_map, Function.comp_def]

theorem reservedOn_append_all (xs ys : List (StockKey × Int64)) (k : StockKey) :
    reservedOn (xs ++ ys) k = reservedOn xs k + reservedOn ys k := by
  simp [reservedOn, List.filter_append]

/-- The lines of a created event that reserve: those on a key the order holds no positive
quantity on. -/
def dueLines (log : List Adjustment) (o : String) (lines : List (StockKey × Int64)) : List (StockKey × Int64) :=
  lines.filter fun p => holding log o p.1 ≤ 0

/-- The due reservations of a created event all go through: each has a positive quantity,
the lock of its key and a level there, and on each key they together fit the stock
available. -/
structure Fits (call : Call) (l : Ledger) (due : List (StockKey × Int64)) : Prop where
  positive : ∀ p ∈ due, 0 < p.2
  locked : ∀ p ∈ due, l.locker.acquire call p.1.text = .ok ()
  stocked : ∀ p ∈ due, (l.book.find? p.1).isSome
  room : ∀ p ∈ due, reservedOn due p.1 ≤ (l.book.figure p.1 Level.available).toInt

instance (call : Call) (l : Ledger) (due : List (StockKey × Int64)) : Decidable (Fits call l due) :=
  decidable_of_iff (∀ p ∈ due, 0 < p.2 ∧ (l.locker.acquire call p.1.text).isOk ∧ (l.book.find? p.1).isSome ∧
      reservedOn due p.1 ≤ (l.book.figure p.1 Level.available).toInt)
    ⟨fun holds => ⟨fun p member => (holds p member).1, fun p member => Except.eq_ok_unit (holds p member).2.1,
        fun p member => (holds p member).2.2.1, fun p member => (holds p member).2.2.2⟩,
      fun fits p member => ⟨fits.positive p member, by rw [fits.locked p member]; rfl, fits.stocked p member,
        fits.room p member⟩⟩

variable {call : Call} {l l' : Ledger}

theorem Fits.nil : Fits call l [] := ⟨by simp, by simp, by simp, by simp⟩

theorem figure_of_find? {b : Book} {k : StockKey} {w : Level} (found : b.find? k = some w) (f : Level → Int64) :
    b.figure k f = f w := by
  rw [Book.figure, found]
  rfl

theorem Fits.of_append {xs ys : List (StockKey × Int64)} (fits : Fits call l (xs ++ ys)) : Fits call l xs := by
  have later : ∀ k, 0 ≤ reservedOn ys k :=
    reservedOn_nonneg fun p member => fits.positive p (List.mem_append_right xs member)
  refine ⟨fun p member => fits.positive p (List.mem_append_left ys member),
    fun p member => fits.locked p (List.mem_append_left ys member),
    fun p member => fits.stocked p (List.mem_append_left ys member), fun p member => ?_⟩
  have room := fits.room p (List.mem_append_left ys member)
  rw [reservedOn_append_all] at room
  have := later p.1
  omega

theorem Fits.snoc {made : List (StockKey × Int64)} {key : StockKey} {q : Int64} {w : Level}
    (fits : Fits call l made) (positive : 0 < q) (locked : l.locker.acquire call key.text = .ok ())
    (found : l.book.find? key = some w) (enough : reservedOn made key + q.toInt ≤ w.available.toInt) :
    Fits call l (made ++ [(key, q)]) := by
  have new : ∀ p ∈ made ++ [(key, q)], p ∈ made ∨ p = (key, q) := by simp
  refine ⟨fun p member => ?_, fun p member => ?_, fun p member => ?_, fun p member => ?_⟩
  · rcases new p member with old | rfl
    · exact fits.positive p old
    · exact positive
  · rcases new p member with old | rfl
    · exact fits.locked p old
    · exact locked
  · rcases new p member with old | rfl
    · exact fits.stocked p old
    · simp [found]
  · rw [reservedOn_append]
    by_cases here : key = p.1
    · rw [if_pos here, ← here, figure_of_find? found]
      exact enough
    · rcases new p member with old | rfl
      · rw [if_neg here, Int.add_zero]
        exact fits.room p old
      · exact absurd rfl here

/-- Whether reservations fit depends on the ledger only through its levels and locks. -/
theorem Fits.of_same {due : List (StockKey × Int64)} (fits : Fits call l due)
    (levels : ∀ k, l'.book.find? k = l.book.find? k) (locker : l'.locker = l.locker) : Fits call l' due := by
  have figures : ∀ k f, l'.book.figure k f = l.book.figure k f := fun k f => by rw [Book.figure, Book.figure, levels]
  refine ⟨fits.positive, fun p member => ?_, fun p member => ?_, fun p member => ?_⟩
  · rw [locker]
    exact fits.locked p member
  · rw [levels]
    exact fits.stocked p member
  · rw [figures]
    exact fits.room p member

/-- Under reservations that fit, each level is lifted by what was reserved on its key. -/
theorem Fits.lifted {made : List (StockKey × Int64)} (fits : Fits call l made) (exact : l.book.Exact) {k : StockKey}
    {w : Level} (found : l.book.find? k = some w) :
    w.Lifted (reservedOn made k) ((quantitiesOn made k).foldl Level.raisedBy w) := by
  by_cases touched : ∃ p ∈ made, p.1 = k
  · obtain ⟨p, member, rfl⟩ := touched
    have room := fits.room p member
    rw [figure_of_find? found, reservedOn_eq_sum] at room
    rw [reservedOn_eq_sum]
    refine (exact.find? found).lifted_foldl (fun q listed => ?_) room
    obtain ⟨r, kept, rfl⟩ := List.mem_map.mp listed
    exact fits.positive r (List.mem_of_mem_filter kept)
  · have none : quantitiesOn made k = [] := quantitiesOn_eq_nil fun p member here => touched ⟨p, member, here⟩
    rw [reservedOn_eq_sum, none]
    exact Level.Lifted.refl (exact.find? found)

/-- The ledger `l₀` a created event began on, with the reservations `made` stacked on it:
each level raised by what was made on its key, and the order's holding with it. -/
structure Stacked (l₀ : Ledger) (call : Call) (o : String) (made : List (StockKey × Int64)) (l : Ledger) :
    Prop where
  inMemory : l.wiring.inventory = false
  locker : l.locker = l₀.locker
  origin : l₀.book.Exact
  exact : l.book.Exact
  fits : Fits call l₀ made
  levels : ∀ k, l.book.find? k = (l₀.book.find? k).map fun w => (quantitiesOn made k).foldl Level.raisedBy w
  holdings : ∀ k, holding l.book.log o k = holding l₀.book.log o k + (quantitiesOn made k).sum

section Stacked

variable {l₀ : Ledger} {o : String} {made : List (StockKey × Int64)} {key : StockKey} {q : Int64}

theorem Stacked.start (call : Call) (o : String) (inMemory : l.wiring.inventory = false) (exact : l.book.Exact) :
    Stacked l call o [] l :=
  ⟨inMemory, rfl, exact, exact, Fits.nil, fun k => by simp, fun k => by simp⟩

theorem Stacked.find?_nil (stacked : Stacked l₀ call o [] l) (k : StockKey) : l.book.find? k = l₀.book.find? k := by
  simp [stacked.levels k]

theorem Stacked.lifted (stacked : Stacked l₀ call o made l) (k : StockKey) :
    Option.Rel (Level.Lifted · (reservedOn made k)) (l₀.book.find? k) (l.book.find? k) := by
  rw [stacked.levels k]
  cases found : l₀.book.find? k with
  | none => exact .none
  | some w => exact .some (stacked.fits.lifted stacked.origin found)

/-- A write at one key keeps a ledger stacked, now with the reservations `made'`, when these
differ from `made` only on that key, fit, and ask there for the level and the holding the
write leaves. -/
theorem Stacked.write {made' : List (StockKey × Int64)} {w₀ v : Level} {move : Move} {mv : Movement}
    (stacked : Stacked l₀ call o made l) (named : o ≠ "") (reason : String) (fits : Fits call l₀ made')
    (others : ∀ k, key ≠ k → quantitiesOn made' k = quantitiesOn made k) (found₀ : l₀.book.find? key = some w₀)
    (level : (quantitiesOn made' key).foldl Level.raisedBy w₀ = v) (keyed : v.key = key)
    (held : (quantitiesOn made' key).sum = (quantitiesOn made key).sum + Movement.held (some mv)) :
    Stacked l₀ call o made'
      (l.written key v ((some mv).map (Stock.noted call move { reference := o, reason, user := system }))) := by
  refine ⟨by simp [stacked.inMemory], by simp [stacked.locker], stacked.origin, fun u member => ?_, fits,
    fun k => ?_, fun k => ?_⟩
  · rw [Ledger.written_levels] at member
    rcases Book.mem_store member with old | rfl
    · exact stacked.exact u old
    · exact level ▸ (fits.lifted stacked.origin found₀).exact
  · rw [Ledger.written_find?]
    by_cases here : key = k
    · subst here
      rw [if_pos keyed, found₀, Option.map_some, level]
    · rw [if_neg (by rw [keyed]; exact here), stacked.levels k, others k here]
  · rw [Ledger.written_holding, stacked.holdings, Stock.optional_of_ne named]
    by_cases here : key = k
    · subst here
      rw [if_pos ⟨rfl, rfl⟩, held, Int64.add_assoc]
    · rw [if_neg fun filed => here filed.2, Int64.add_zero, others k here]

theorem Stacked.reserve {w w' : Level} {mv? : Option Movement} (stacked : Stacked l₀ call o made l) (named : o ≠ "")
    (reason : String) (checked : (Move.reserve q).precheck = .ok ())
    (acquired : l.locker.acquire call key.text = .ok ()) (working : l.book.working key (Move.reserve q).creates = .ok w)
    (applied : (Move.reserve q).apply w = .ok (w', mv?)) :
    Stacked l₀ call o (made ++ [(key, q)])
      (l.written key w' (mv?.map (Stock.noted call (.reserve q) { reference := o, reason, user := system }))) := by
  obtain ⟨rfl, enough, -⟩ := Move.reserve_raisedBy applied
  obtain ⟨-, -, -, -, rfl⟩ := Move.reserve_applied applied
  have found : l.book.find? key = some w := Book.find?_of_working working
  obtain ⟨w₀, found₀, rfl⟩ := Option.map_eq_some_iff.mp ((stacked.levels key).symm.trans found)
  have lifted := stacked.fits.lifted stacked.origin found₀
  have positive := Ledger.Move.positive_of_precheck (.inl rfl) checked
  refine stacked.write named reason
    (stacked.fits.snoc positive (stacked.locker ▸ acquired) found₀ (by rw [lifted.available] at enough; omega))
    (fun k here => by rw [quantitiesOn_append, if_neg here, List.append_nil]) found₀ ?_ ?_ ?_
  · rw [quantitiesOn_append, if_pos rfl, List.foldl_append]
    rfl
  · rw [Level.raisedBy_key]
    exact Book.working_key working
  · rw [quantitiesOn_append, if_pos rfl, List.sum_append, List.sum_singleton]
    rfl

/-- What fits goes through: on a stacked ledger, a reservation that fits with the ones
made passes its check, gets its lock, finds its level and applies. -/
theorem Stacked.reserve_fits (stacked : Stacked l₀ call o made l) (fits : Fits call l₀ (made ++ [(key, q)])) :
    (Move.reserve q).precheck = .ok () ∧ l.locker.acquire call key.text = .ok () ∧
      ∃ w, l.book.working key (Move.reserve q).creates = .ok w ∧
        (Move.reserve q).apply w = .ok (w.raisedBy q, some ⟨.reserved, q, w.committed⟩) := by
  have member : (key, q) ∈ made ++ [(key, q)] := by simp
  obtain ⟨w₀, found₀⟩ := Option.isSome_iff_exists.mp (fits.stocked _ member)
  have lifted := fits.of_append.lifted stacked.origin found₀
  have room := fits.room _ member
  rw [reservedOn_append, if_pos rfl, figure_of_find? found₀] at room
  refine ⟨?_, stacked.locker ▸ fits.locked _ member, (quantitiesOn made key).foldl Level.raisedBy w₀, ?_, ?_⟩
  · simp [Move.precheck, Int64.not_le.mpr (fits.positive _ member)]
  · simp [Book.working, stacked.levels key, found₀]
  · have enough : ¬ ((quantitiesOn made key).foldl Level.raisedBy w₀).available < q := by
      rw [Int64.lt_iff_toInt_lt, lifted.available]
      omega
    simp [Move.apply, enough, Level.raisedBy]

/-- A reservation on a stacked ledger stacks its line when it fits with the ones made, and
is refused with the ledger unchanged otherwise. -/
theorem Stacked.post_reserve (stacked : Stacked l₀ call o made l) (named : o ≠ "") (reason : String) :
    Post (Stock.run call key (.reserve q) { reference := o, reason, user := system }) l
      (fun _ l' => Stacked l₀ call o (made ++ [(key, q)]) l')
      (fun _ l' => l' = l ∧ ¬ Fits call l₀ (made ++ [(key, q)])) := by
  by_cases fits : Fits call l₀ (made ++ [(key, q)])
  · obtain ⟨checked, acquired, w, working, applied⟩ := stacked.reserve_fits fits
    rw [Post, Stock.run_exec_ok stacked.inMemory checked acquired working applied]
    exact stacked.reserve named reason checked acquired working applied
  · exact Stock.post_run_cases stacked.inMemory (fun _ => ⟨rfl, fits⟩)
      fun _ _ _ checked acquired working applied => stacked.reserve named reason checked acquired working applied

theorem Stacked.post_release (stacked : Stacked l₀ call o (made ++ [(key, q)]) l) (named : o ≠ "")
    (reason : String) :
    Post (Stock.run call key (.release q) { reference := o, reason, user := system }) l
      (fun _ l' => Stacked l₀ call o made l') (fun _ _ => False) := by
  have member : (key, q) ∈ made ++ [(key, q)] := by simp
  obtain ⟨w₀, found₀⟩ := Option.isSome_iff_exists.mp (stacked.fits.stocked _ member)
  have lifted := stacked.fits.of_append.lifted stacked.origin found₀
  have room := stacked.fits.room _ member
  rw [reservedOn_append, if_pos rfl, figure_of_find? found₀] at room
  have qPos : 0 < q.toInt := by simpa using Int64.lt_iff_toInt_lt.mp (stacked.fits.positive _ member)
  have enough : q.toInt ≤ ((quantitiesOn made key).foldl Level.raisedBy w₀).available.toInt := by
    rw [lifted.available]
    omega
  have working : l.book.working key (Move.release q).creates =
      .ok (((quantitiesOn made key).foldl Level.raisedBy w₀).raisedBy q) := by
    simp [Book.working, stacked.levels key, found₀, quantitiesOn_append]
  have keyed : ((quantitiesOn made key).foldl Level.raisedBy w₀).key = key := by
    simpa using Book.working_key working
  rw [Post, Stock.run_exec_ok stacked.inMemory (Move.release_precheck qPos) (stacked.locker ▸ stacked.fits.locked _ member)
    working (Move.release_raisedBy lifted.exact qPos enough)]
  refine stacked.write named reason stacked.fits.of_append
    (fun k here => by rw [quantitiesOn_append, if_neg here, List.append_nil]) found₀ rfl keyed ?_
  -- the release files the whole quantity back
  rw [quantitiesOn_append, if_pos rfl, List.sum_append, List.sum_singleton]
  simp only [Movement.held, AdjustmentKind.holds, if_true]
  grind

theorem Stacked.post_rollback (named : o ≠ "") :
    Stacked l₀ call o made l → Post (rollback call o made) l (fun _ => Stacked l₀ call o []) (fun _ _ => False) := by
  -- the last reservation made is the first released
  induction made using List.reverseRecOn generalizing l with
  | nil =>
    intro stacked
    exact stacked
  | append_singleton made p ih =>
    intro stacked
    obtain ⟨key, q⟩ := p
    unfold rollback
    rw [List.reverse_append, List.reverse_singleton, List.singleton_append]
    show Post (_ >>= fun _ => made.reverse.forM _) l _ _
    rw [post_bind, post_bind, post_attempt]
    exact (stacked.post_release named _).mono (fun _ _ kept => ih kept) fun _ _ impossible => impossible.elim

end Stacked

section Events

variable {l₀ : Ledger} {o : String} {made : List (StockKey × Int64)}

theorem dueLines_cons_of_le {log : List Adjustment} {key : StockKey} {q : Int64} {rest : List (StockKey × Int64)}
    (owed : holding log o key ≤ 0) : dueLines log o ((key, q) :: rest) = (key, q) :: dueLines log o rest := by
  simp [dueLines, owed]

theorem dueLines_cons_of_pos {log : List Adjustment} {key : StockKey} {q : Int64} {rest : List (StockKey × Int64)}
    (holds : 0 < holding log o key) : dueLines log o ((key, q) :: rest) = dueLines log o rest := by
  simp [dueLines, Int64.not_le.mpr holds]

/-- Where a created event that began on `l₀` ends: its due reservations `due` all made when
they fit, and none made otherwise. -/
def AllOrNothing (l₀ : Ledger) (call : Call) (o : String) (due : List (StockKey × Int64)) (l : Ledger) : Prop :=
  Fits call l₀ due ∧ Stacked l₀ call o due l ∨ ¬ Fits call l₀ due ∧ Stacked l₀ call o [] l

/-- The lines of a created event are reserved in turn: on a key it has reserved on, or on
which the order held no positive quantity, the line is reserved; the event ends with every
due reservation made when they fit, and with none otherwise. -/
theorem Stacked.post_reserveLines (named : o ≠ "") (lines : List (StockKey × Int64)) (readable : Readable lines)
    {touched : List StockKey} (stacked : Stacked l₀ call o made l)
    (touches : ∀ k, k ∈ touched ↔ k ∈ made.map (·.1)) (owed : ∀ p ∈ made, holding l₀.book.log o p.1 ≤ 0) :
    Post (reserveLines call o touched made lines) l
      (fun _ => AllOrNothing l₀ call o (made ++ dueLines l₀.book.log o lines)) (fun _ _ => False) := by
  induction lines generalizing touched made l with
  | nil =>
    rw [reserveLines, post_pure]
    simp only [dueLines, List.filter_nil, List.append_nil]
    exact .inl ⟨stacked.fits, stacked⟩
  | cons p rest ih =>
    obtain ⟨key, q⟩ := p
    have restReadable : Readable rest := fun p member => readable p (by simp [member])
    -- a due line is reserved and the rest follow, or what was made is rolled back
    have reserve : ∀ next : Except Failure Level → Run Unit,
        (∀ e, next (.error e) = rollback call o made) →
        (∀ w, next (.ok w) = reserveLines call o (key :: touched) (made ++ [(key, q)]) rest) →
        holding l₀.book.log o key ≤ 0 →
        Post (attempt (Stock.run call key (.reserve q)
            { reference := o, reason := "Stock reserved for order", user := system }) >>= next)
          l (fun _ => AllOrNothing l₀ call o (made ++ (key, q) :: dueLines l₀.book.log o rest)) (fun _ _ => False) := by
      intro next failed reserved due
      have regroup : made ++ (key, q) :: dueLines l₀.book.log o rest =
          (made ++ [(key, q)]) ++ dueLines l₀.book.log o rest := by simp
      rw [post_bind, post_attempt, regroup]
      refine (stacked.post_reserve named _).mono (fun _ l' after => ?_) fun _ l' refused => ?_
      · rw [reserved]
        refine ih restReadable after (fun k => ?_) fun p member => ?_
        · simp only [List.mem_cons, touches k, List.map_append, List.mem_append, List.map_cons, List.map_nil,
            List.not_mem_nil, or_false]
          exact or_comm
        · rcases List.mem_append.mp member with old | new
          · exact owed p old
          · rw [List.mem_singleton.mp new]
            exact due
      · obtain ⟨rfl, unfit⟩ := refused
        rw [failed]
        refine (stacked.post_rollback named).mono (fun _ _ rolled => .inr ⟨fun fits => unfit ?_, rolled⟩)
          fun _ _ impossible => impossible
        exact fits.of_append
    rw [reserveLines]
    by_cases seen : touched.contains key = true
    · rw [if_pos seen, post_bind, post_pure]
      obtain ⟨p, member, rfl⟩ := List.mem_map.mp ((touches key).mp (List.contains_iff_mem.mp seen))
      rw [dueLines_cons_of_le (owed p member)]
      exact reserve _ (fun _ => rfl) (fun _ => rfl) (owed p member)
    · rw [if_neg seen]
      simp only [post_bind, post_attempt, post_held stacked.inMemory (readable (key, q) (by simp)) named, post_pure]
      -- nothing was reserved on the key yet, so the holding read back is the starting one
      have untouched : holding l.book.log o key = holding l₀.book.log o key := by
        rw [stacked.holdings, quantitiesOn_eq_nil fun p member here =>
          seen (List.contains_iff_mem.mpr ((touches key).mpr (List.mem_map.mpr ⟨p, member, here⟩)))]
        simp
      rw [untouched]
      by_cases holds : holding l₀.book.log o key > 0
      · simp only [holds, decide_true]
        rw [dueLines_cons_of_pos holds]
        exact ih restReadable stacked touches owed
      · simp only [holds, decide_false]
        rw [dueLines_cons_of_le (Int64.not_lt.mp holds)]
        exact reserve _ (fun _ => rfl) (fun _ => rfl) (Int64.not_lt.mp holds)

/-- A created event, on a ledger in memory with exact levels, for a named order and named
products, makes its due reservations all when they fit and none otherwise, and never
fails. -/
theorem post_created {location : String} {lines : List OrderLine} (inMemory : l.wiring.inventory = false)
    (exact : l.book.Exact) (named : o ≠ "") (products : ∀ x ∈ lines, x.product ≠ "") :
    Post (apply call .created o location lines) l
      (fun _ => AllOrNothing l call o (dueLines l.book.log o (keyed location lines))) (fun _ _ => False) := by
  have started : Post (reserveLines call o [] [] (keyed location lines)) l
      (fun _ => AllOrNothing l call o ([] ++ dueLines l.book.log o (keyed location lines))) (fun _ _ => False) :=
    (Stacked.start call o inMemory exact).post_reserveLines named _ (readable_keyed products) (by simp) (by simp)
  rwa [List.nil_append] at started

theorem Stacked.dueLines_nil (stacked : Stacked l₀ call o [] l) (lines : List (StockKey × Int64)) :
    dueLines l.book.log o lines = dueLines l₀.book.log o lines := by
  simp [dueLines, stacked.holdings]

/-- After a created event made its due reservations, the order holds a positive quantity
on every key of the event, provided it held no less than nothing on them before. -/
theorem Stacked.nothing_due {lines : List (StockKey × Int64)}
    (stacked : Stacked l₀ call o (dueLines l₀.book.log o lines) l)
    (nonneg : ∀ p ∈ lines, 0 ≤ holding l₀.book.log o p.1) : dueLines l.book.log o lines = [] := by
  rw [dueLines, List.filter_eq_nil_iff]
  intro p member
  simp only [decide_eq_true_eq, Int64.not_le]
  rw [stacked.holdings]
  by_cases owed : holding l₀.book.log o p.1 ≤ 0
  · -- the order held nothing there, and now holds what the event reserved on the key
    have due : p ∈ dueLines l₀.book.log o lines := List.mem_filter.mpr ⟨member, by simpa using owed⟩
    have positive : ∀ q ∈ quantitiesOn (dueLines l₀.book.log o lines) p.1, 0 < q := fun q listed => by
      obtain ⟨r, kept, rfl⟩ := List.mem_map.mp listed
      exact stacked.fits.positive r (List.mem_of_mem_filter kept)
    have listed : p.2 ∈ quantitiesOn (dueLines l₀.book.log o lines) p.1 :=
      List.mem_map.mpr ⟨p, List.mem_filter.mpr ⟨due, by simp⟩, rfl⟩
    have room := stacked.fits.room p due
    rw [reservedOn_eq_sum] at room
    have := (Quantity.toInt_bounds (l₀.book.figure p.1 Level.available)).2
    have sum := Quantity.toInt_sum_of_pos positive (by omega)
    have sumPos : 0 < ((quantitiesOn (dueLines l₀.book.log o lines) p.1).map Int64.toInt).sum :=
      List.sum_pos _ (fun x mapped => by
          obtain ⟨y, kept, rfl⟩ := List.mem_map.mp mapped
          simpa using Int64.lt_iff_toInt_lt.mp (positive y kept))
        (by simpa using List.ne_nil_of_mem listed)
    rw [Int64.le_antisymm owed (nonneg p member), Int64.zero_add, Int64.lt_iff_toInt_lt, Int64.toInt_zero, sum]
    exact sumPos
  · -- the order held a positive quantity there, so no line on the key was due
    rw [quantitiesOn_eq_nil fun r due here => owed (by rw [← here]; simpa using (List.mem_filter.mp due).2),
      List.sum_nil, Int64.add_zero]
    exact Int64.not_le.mp owed

end Events

end Orders

open Orders

/-- A created order, on a ledger in memory with exact levels, for a named order and named
products, either reserves every due line, lifting each key's level by the quantities due
there, or leaves every level as it was; the first happens exactly when the due lines fit.
Delivered again straight after, it changes no level: after a rollback it owes the same
lines, which still do not fit, and after it went through it owes none, provided the order
held no less than nothing on the event's keys. -/
theorem created_order_all_or_nothing {l : Ledger} (call : Call) (order location : String) (lines : List OrderLine)
    (inMemory : l.wiring.inventory = false) (exact : l.book.Exact) (named : order ≠ "")
    (products : ∀ x ∈ lines, x.product ≠ "") :
    let due := dueLines l.book.log order (keyed location lines)
    let l' := ((apply call .created order location lines).exec l).2
    let l'' := ((apply call .created order location lines).exec l').2
    (Fits call l due ∧ (∀ k, Option.Rel (Level.Lifted · (reservedOn due k)) (l.book.find? k) (l'.book.find? k)) ∧
        ((∀ p ∈ keyed location lines, 0 ≤ holding l.book.log order p.1) → ∀ k, l''.book.find? k = l'.book.find? k)) ∨
      (¬ Fits call l due ∧ (∀ k, l'.book.find? k = l.book.find? k) ∧ ∀ k, l''.book.find? k = l'.book.find? k) := by
  intro due l' l''
  have delivered : ∀ {l : Ledger}, l.wiring.inventory = false → l.book.Exact →
      AllOrNothing l call order (dueLines l.book.log order (keyed location lines))
        ((apply call .created order location lines).exec l).2 := fun inMemory exact =>
    ((post_created inMemory exact named products).mono (fun _ _ ended => ended)
      fun _ _ impossible => impossible.elim).final
  rcases delivered inMemory exact with ⟨fits, stacked⟩ | ⟨unfit, stacked⟩
  · -- every due line was reserved, so a redelivery owes none
    refine .inl ⟨fits, stacked.lifted, fun nonneg k => ?_⟩
    have again := delivered stacked.inMemory stacked.exact
    rw [stacked.nothing_due nonneg] at again
    rcases again with ⟨-, restacked⟩ | ⟨unfit, -⟩
    · exact restacked.find?_nil k
    · exact absurd Fits.nil unfit
  · -- nothing was kept, so a redelivery owes the same lines, which still do not fit
    refine .inr ⟨unfit, stacked.find?_nil, fun k => ?_⟩
    have again := delivered stacked.inMemory stacked.exact
    rw [stacked.dueLines_nil] at again
    rcases again with ⟨fits, -⟩ | ⟨-, restacked⟩
    · exact absurd (fits.of_same (fun k => (stacked.find?_nil k).symm) stacked.locker.symm) unfit
    · exact restacked.find?_nil k

namespace Session

def secondKey : StockKey := ⟨"p2", "", Location.mainId⟩

/-- Ten units of `p1` and four of `p2`, of which order `o1` holds one. -/
def partlyHeld : Ledger :=
  let stocked := ((Stock.run {} mainKey (.set 10) {}).exec fresh).2
  let stockedBoth := ((Stock.run {} secondKey (.set 4) {}).exec stocked).2
  ((apply {} .created "o1" "" [⟨"p2", "", 1⟩]).exec stockedBoth).2

/-- An order event with a line on a key the order holds and two lines on one key. -/
def mixedLines : List OrderLine := [⟨"p1", "", 4⟩, ⟨"p2", "", 2⟩, ⟨"p1", "", 3⟩]

theorem created_order_partly_held :
    partlyHeld.wiring.inventory = false ∧ partlyHeld.book.Exact ∧ "o1" ≠ "" ∧ (∀ x ∈ mixedLines, x.product ≠ "") ∧
      let due := dueLines partlyHeld.book.log "o1" (keyed "" mixedLines)
      let l' := ((apply {} .created "o1" "" mixedLines).exec partlyHeld).2
      let l'' := ((apply {} .created "o1" "" mixedLines).exec l').2
      (Fits {} partlyHeld due ∧
          (∀ k, Option.Rel (Level.Lifted · (reservedOn due k)) (partlyHeld.book.find? k) (l'.book.find? k)) ∧
          ((∀ p ∈ keyed "" mixedLines, 0 ≤ holding partlyHeld.book.log "o1" p.1) →
            ∀ k, l''.book.find? k = l'.book.find? k)) ∨
        (¬ Fits {} partlyHeld due ∧ (∀ k, l'.book.find? k = partlyHeld.book.find? k) ∧
          ∀ k, l''.book.find? k = l'.book.find? k) :=
  ⟨by decide +kernel, by decide +kernel, by decide, by decide,
    created_order_all_or_nothing {} "o1" "" mixedLines (by decide +kernel) (by decide +kernel) (by decide)
      (by decide)⟩

def blankKey : StockKey := ⟨"", "", Location.mainId⟩

/-- Ten units each of `p1` and of a blank product at the main warehouse. -/
def blankStocked : Ledger :=
  let stocked := ((Stock.run {} mainKey (.set 10) {}).exec fresh).2
  ((Stock.run {} blankKey (.set 10) {}).exec stocked).2

/-- Ten units of `p1`, five of them reserved under `x` and then released under `o1`, so
that `o1` holds minus five. -/
def heldBelowZero : Ledger :=
  let stocked := ((Stock.run {} mainKey (.set 10) {}).exec fresh).2
  let reserved := ((Stock.run {} mainKey (.reserve 5) { reference := "x" }).exec stocked).2
  ((Stock.run {} mainKey (.release 5) { reference := "o1" }).exec reserved).2

/-- Order `o1` created with two units of `p1` and one of the blank product, before which
it held nothing on the blank product, reserves the first line only. Created with all the
stock available at a level whose available stock has wrapped and with a line on a key
without a level, it rolls back to a committed figure at the smallest value instead of five.
And created with three units of `p1` where it held minus five, it reserves them again when
the event is delivered a second time. -/
theorem created_order_skips_wraps_and_repeats :
    let blankOrdered := ((apply {} .created "o1" "" [⟨"p1", "", 2⟩, ⟨"", "", 1⟩]).exec blankStocked).2
    let rolledBack :=
      ((apply {} .created "o1" "" [⟨"p1", "", 9223372036854775803⟩, ⟨"p2", "", 1⟩]).exec countedToMin).2
    let once := ((apply {} .created "o1" "" [⟨"p1", "", 3⟩]).exec heldBelowZero).2
    let twice := ((apply {} .created "o1" "" [⟨"p1", "", 3⟩]).exec once).2
    (holding blankStocked.book.log "o1" blankKey = 0 ∧ blankStocked.book.figure blankKey Level.committed = 0 ∧
      blankOrdered.book.figure mainKey Level.committed = 2 ∧ blankOrdered.book.figure blankKey Level.committed = 0) ∧
    (countedToMin.book.figure mainKey Level.committed = 5 ∧
      rolledBack.book.figure mainKey Level.committed = -9223372036854775808) ∧
    (holding heldBelowZero.book.log "o1" mainKey = -5 ∧ once.book.figure mainKey Level.committed = 3 ∧
      twice.book.figure mainKey Level.committed = 6) :=
  ⟨by decide +kernel, by decide +kernel, by decide +kernel⟩

end Session

end StockLedger
