import StockLedger.Proofs.StockWrites
import StockLedger.Ledger.Transfers

/-!
Counting the log. `tally log ref key kind` is the number of entries filed under `ref`
for `key` as `kind`. A ledger kept in memory answers a log query from its own log, and
the transfer engine's test of whether one side of a line already happened is a
comparison of two tallies: the entries of the side against the entries undoing it.
-/

namespace StockLedger

/-- How many entries of a log are filed under `ref` for `key` as `kind`. -/
def tally (log : List Adjustment) (ref : String) (key : StockKey) (kind : AdjustmentKind) : Nat :=
  log.countP fun e => e.reference = some ref ∧ e.key = key ∧ e.kind = kind

section Tally

variable (log : List Adjustment) (ref : String) (key : StockKey) (kind : AdjustmentKind)

@[simp] theorem tally_nil : tally [] ref key kind = 0 := rfl

theorem tally_append (more : List Adjustment) :
    tally (log ++ more) ref key kind = tally log ref key kind + tally more ref key kind := by
  simp [tally, List.countP_append]

theorem tally_single (e : Adjustment) :
    tally [e] ref key kind = if e.reference = some ref ∧ e.key = key ∧ e.kind = kind then 1 else 0 := by
  by_cases filed : e.reference = some ref ∧ e.key = key ∧ e.kind = kind <;> simp [tally, filed]

/-- An entry filed under another reference, key or kind leaves the tally as it was. -/
theorem tally_append_other (e : Adjustment)
    (other : ¬ (e.reference = some ref ∧ e.key = key ∧ e.kind = kind)) :
    tally (log ++ [e]) ref key kind = tally log ref key kind := by
  rw [tally_append, tally_single, if_neg other, Nat.add_zero]

theorem tally_append_same (e : Adjustment) (hits : e.reference = some ref ∧ e.key = key ∧ e.kind = kind) :
    tally (log ++ [e]) ref key kind = tally log ref key kind + 1 := by
  rw [tally_append, tally_single, if_pos hits]

theorem tally_le_append (more : List Adjustment) : tally log ref key kind ≤ tally (log ++ more) ref key kind := by
  rw [tally_append]
  exact Nat.le_add_right _ _

theorem tally_eq_zero_of_absent (absent : ∀ e ∈ log, e.reference ≠ some ref) : tally log ref key kind = 0 := by
  simp only [tally, List.countP_eq_zero]
  intro e member filed
  exact absent e member (of_decide_eq_true filed).1

theorem tally_eq_zero_of_kind (absent : ∀ e ∈ log, e.kind ≠ kind) : tally log ref key kind = 0 := by
  simp only [tally, List.countP_eq_zero]
  intro e member filed
  exact absent e member (of_decide_eq_true filed).2.2

end Tally

namespace AdjustmentQuery

/-- A query by product, location and reference admits exactly the entries filed under
that reference at a key of that product and location, when none of the three is empty. -/
theorem admits_keyed {p loc ref : String} (product : p ≠ "") (location : loc ≠ "") (filed : ref ≠ "")
    (e : Adjustment) :
    ({ product := p, location := loc, reference := ref } : AdjustmentQuery).admits e = true ↔
      e.key.product = p ∧ e.key.location = loc ∧ e.reference = some ref := by
  have product' : (p == "") = false := by simpa using product
  have location' : (loc == "") = false := by simpa using location
  have filed' : (ref == "") = false := by simpa using filed
  simp only [admits, product', location', filed', Bool.false_or, Bool.and_eq_true, beq_iff_eq]
  simp [and_assoc]

theorem select_unlimited (q : AdjustmentQuery) (log : List Adjustment) (unlimited : q.limit = 0) :
    q.select log = log.reverse.filter q.admits := by
  simp [select, unlimited]

end AdjustmentQuery

namespace Stock

open Run

/-- In memory, a log query reads the book's own log and changes nothing. -/
theorem history_exec (call : Call) (q : AdjustmentQuery) {l : Ledger} (inMemory : l.wiring.inventory = false) :
    (history call q).exec l = (.ok (q.select l.book.log), l) := by
  simp [history, LevelStore.history, LevelStore.onDatabase, inMemory, Book.history]

end Stock

namespace Transfers

open Run

/-- The running count the side test keeps over entries: one up for the side, one down
for its undoing, nothing for another variant or kind. -/
theorem side_fold (variant : String) (side undo : AdjustmentKind) (distinct : side ≠ undo)
    (entries : List Adjustment) (n : Int) :
    entries.foldl (fun (n : Int) e =>
        if e.key.variant != variant then n
        else if e.kind == side then n + 1
        else if e.kind == undo then n - 1
        else n) n =
      n + (entries.countP fun e => e.key.variant = variant ∧ e.kind = side) -
        (entries.countP fun e => e.key.variant = variant ∧ e.kind = undo) := by
  induction entries generalizing n with
  | nil => simp
  | cons e rest ih =>
    rw [List.foldl_cons, ih]
    by_cases same : e.key.variant = variant
    · by_cases isSide : e.kind = side
      · simp [same, isSide, distinct]
        omega
      · by_cases isUndo : e.kind = undo
        · simp [same, isUndo, distinct.symm]
          omega
        · simp [same, isSide, isUndo]
    · simp [same]

/-- Counting a variant's side entries among the entries a keyed query returns is the
tally of the side for that variant's key. -/
theorem keyed_count {p loc ref : String} (product : p ≠ "") (location : loc ≠ "") (filed : ref ≠ "")
    (variant : String) (kind : AdjustmentKind) (log : List Adjustment) :
    ((({ product := p, location := loc, reference := ref } : AdjustmentQuery).select log).countP
        fun e => e.key.variant = variant ∧ e.kind = kind) =
      tally log ref ⟨p, variant, loc⟩ kind := by
  rw [AdjustmentQuery.select_unlimited _ _ rfl, List.countP_filter, List.countP_reverse, tally]
  apply List.countP_congr
  intro e _
  have admitted := AdjustmentQuery.admits_keyed product location filed e
  rcases e with ⟨id, seq, ⟨p', v', loc'⟩⟩
  simp only at admitted
  rw [Bool.eq_iff_iff, Bool.and_eq_true, admitted]
  simp only [decide_eq_true_eq, StockKey.mk.injEq, iff_true]
  constructor
  · rintro ⟨⟨rfl, rfl⟩, rfl, rfl, filedHere⟩
    exact ⟨filedHere, ⟨rfl, rfl, rfl⟩, rfl⟩
  · rintro ⟨filedHere, ⟨rfl, rfl, rfl⟩, rfl⟩
    exact ⟨⟨rfl, rfl⟩, rfl, rfl, filedHere⟩

theorem reference_ne_empty (id : String) : Transfer.reference id ≠ "" := by
  intro h
  have := congrArg String.length h
  simp [Transfer.reference] at this

/-- In memory, the side test of a line at a location reads the log and answers whether
the line's side entries there outnumber the entries undoing them. -/
theorem applied_exec (call : Call) (t : Transfer) (line : TransferLine) (location : String)
    (side undo : AdjustmentKind) {l : Ledger} (inMemory : l.wiring.inventory = false)
    (product : line.product ≠ "") (placed : location ≠ "") (distinct : side ≠ undo) :
    (applied call t line location side undo).exec l =
      (.ok (decide (tally l.book.log (Transfer.reference t.id) ⟨line.product, line.variant, location⟩ undo <
        tally l.book.log (Transfer.reference t.id) ⟨line.product, line.variant, location⟩ side)), l) := by
  simp only [applied, exec_bind, Stock.history_exec call _ inMemory, exec_pure]
  rw [side_fold _ _ _ distinct, keyed_count product placed (reference_ne_empty _),
    keyed_count product placed (reference_ne_empty _)]
  simp only [Prod.mk.injEq, Except.ok.injEq, and_true]
  apply decide_eq_decide.mpr
  omega

end Transfers

end StockLedger
