import StockLedger.Proofs.OrderListener
import StockLedger.Proofs.TransferRuns

/-!
Runs of the order listener. A run starts from a session with nothing logged and no levels,
and takes steps: order events for a named order and named products, stock operations that
neither reserve, release nor ship, synchronised changes, and changes from outside of the
clock, the journal trap and the locks. Which order events a run lets through is a
parameter: any, for the runs the listener is meant to serve, or only those whose
fulfilment is covered (`Orders.coveredEvent`).

Along a covered run the committed figure of every key is the wrapping sum over the
orders of what each holds there, and no order holds less than nothing
(`committed_eq_sum_held`). A fulfilment that finds less on hand than the order holds
breaks the first: its shipment entry records only the units that were on hand, while
committed stock drops by the whole amount, and a redelivered fulfilment then ships the
difference out of units another order holds (`Session.fulfilledShort_accounts`).
-/

namespace StockLedger

open Run Orders

namespace Orders

/-- One step of an order run; `admits` says which order events the run lets through. -/
inductive Step (admits : Ledger → OrderChange → String → String → List OrderLine → Prop) :
    Ledger → Ledger → Prop
  | event (l : Ledger) (call : Call) (change : OrderChange) (order location : String)
      (lines : List OrderLine) (named : order ≠ "") (products : ∀ x ∈ lines, x.product ≠ "")
      (admitted : admits l change order location lines) :
      Step admits l ((apply call change order location lines).exec l).2
  | stock (l : Ledger) (call : Call) (key : StockKey) (move : Move) (note : Note) (quiet : move.commits = false) :
      Step admits l ((Stock.run call key move note).exec l).2
  | sync (l : Ledger) (call : Call) (key : StockKey) (changeType : String) (quantity : Int64)
      (reference reason : String) :
      Step admits l ((Stock.applyChange call key changeType quantity reference reason).exec l).2
  | outside (l : Ledger) (clock : Instant) (trap : Option JournalTrap) (locker : Locker) :
      Step admits l { l with clock, trap, locker }

/-- Every order event. -/
def anyEvent (_ : Ledger) (_ : OrderChange) (_ _ : String) (_ : List OrderLine) : Prop := True

/-- Order events whose fulfilment, if they are one, is covered. -/
def coveredEvent (l : Ledger) (change : OrderChange) (order location : String) (lines : List OrderLine) : Prop :=
  change = .fulfilled → Covers order (keyed location lines) l

/-- The ledgers an order run reaches from a session with nothing logged and no levels. -/
def Reachable (admits : Ledger → OrderChange → String → String → List OrderLine → Prop) (l : Ledger) : Prop :=
  ∃ l₀, l₀.Initial ∧ l₀.book.levels = [] ∧ Relation.ReflTransGen (Step admits) l₀ l

end Orders

namespace Ledger

variable {l : Ledger}

theorem Accounts.initial (start : l.Initial) (empty : l.book.levels = []) : l.Accounts where
  inMemory := start.inMemory
  recounted := by simp [empty]
  filed := by simp [start.log]
  balanced := fun k => by simp [Book.figure, Book.find?, empty, start.log, total, sumOf]
  nonneg := fun o k => by simp [start.log, holding, sumOf]

/-- A synchronised change commits nothing, so it keeps the accounts. -/
theorem Accounts.post_applyChange (accounts : l.Accounts) (call : Call) (key : StockKey) (changeType : String)
    (quantity : Int64) (reference reason : String) :
    Post (Stock.applyChange call key changeType quantity reference reason) l
      (fun _ l' => l'.Accounts) (fun _ l' => l'.Accounts) := by
  rw [Post, Stock.applyChange_exec]
  by_cases negative : quantity < 0
  · rw [if_pos negative]
    exact accounts
  rw [if_neg negative]
  rcases SyncMode.ofName? changeType with _ | mode
  · exact accounts
  · exact accounts.post_write_quiet rfl

end Ledger

namespace Orders

/-- Every step of a covered run keeps the accounts, whichever way its operation ends. -/
theorem Step.accounts {l l' : Ledger} (step : Step coveredEvent l l') (accounts : l.Accounts) : l'.Accounts := by
  cases step with
  | event call change order location lines named products admitted =>
    exact (post_apply accounts named products admitted).final
  | stock call key move note quiet => exact (accounts.post_quiet quiet).final
  | sync call key changeType quantity reference reason =>
    exact (accounts.post_applyChange call key changeType quantity reference reason).final
  | outside clock trap locker =>
    exact ⟨accounts.inMemory, accounts.recounted, accounts.filed, accounts.balanced, accounts.nonneg⟩

theorem Reachable.accounts {l : Ledger} (reached : Reachable coveredEvent l) : l.Accounts := by
  obtain ⟨l₀, start, empty, run⟩ := reached
  induction run with
  | refl => exact Ledger.Accounts.initial start empty
  | tail _ step accounts => exact step.accounts accounts

end Orders

/-- Along a run whose fulfilments are covered, the committed figure of every key is the
wrapping sum over the orders of what each holds there, and no order holds less than
nothing. -/
theorem committed_eq_sum_held {l : Ledger} (reached : Orders.Reachable coveredEvent l) :
    (∀ k, l.book.figure k Level.committed = ((orderIds l.book.log).map fun o => holding l.book.log o k).sum) ∧
      ∀ o k, 0 ≤ holding l.book.log o k := by
  have accounts := reached.accounts
  exact ⟨fun k => (accounts.balanced k).trans (total_eq_sum_holding accounts.filed k), accounts.nonneg⟩

namespace Session

/-- The key of `p1` at the main warehouse. -/
def mainKey : StockKey := ⟨"p1", "", Location.mainId⟩

/-- Ten units of `p1` on hand; order `o1` reserves them in two lines of three and two, has
four shipped and its remaining line cancelled; order `o2` then reserves two. -/
def coveredRun : Ledger :=
  let stocked := ((Stock.run {} mainKey (.set 10) {}).exec fresh).2
  let reserved := ((apply {} .created "o1" "" [⟨"p1", "", 3⟩, ⟨"p1", "", 2⟩]).exec stocked).2
  let shipped := ((apply {} .fulfilled "o1" "" [⟨"p1", "", 4⟩]).exec reserved).2
  let cancelled := ((apply {} .cancelled "o1" "" [⟨"p1", "", 5⟩]).exec shipped).2
  ((apply {} .created "o2" "" [⟨"p1", "", 2⟩]).exec cancelled).2

theorem coveredRun_reachable : Orders.Reachable coveredEvent coveredRun := by
  refine ⟨fresh, fresh_initial, rfl, ?_⟩
  refine .tail (.tail (.tail (.tail (.single (.stock _ _ _ _ _ rfl)) (.event _ _ _ _ _ _ (by decide) (by decide) ?_))
    (.event _ _ _ _ _ _ (by decide) (by decide) ?_)) (.event _ _ _ _ _ _ (by decide) (by decide) ?_))
    (.event _ _ _ _ _ _ (by decide) (by decide) ?_)
  · intro fulfilled
    cases fulfilled
  · -- the one fulfilment is checked against the ledger it meets
    intro _
    decide +kernel
  · intro fulfilled
    cases fulfilled
  · intro fulfilled
    cases fulfilled

theorem coveredRun_accounts :
    Orders.Reachable coveredEvent coveredRun ∧
      (∀ k, coveredRun.book.figure k Level.committed =
        ((orderIds coveredRun.book.log).map fun o => holding coveredRun.book.log o k).sum) ∧
      ∀ o k, 0 ≤ holding coveredRun.book.log o k :=
  ⟨coveredRun_reachable, committed_eq_sum_held coveredRun_reachable⟩

/-- Order `o1` reserves five of ten units; on-hand stock is set to two and `o1` is
fulfilled; after ten units arrive, `o3` reserves four and `o1`'s fulfilment is delivered
again. -/
def fulfilledShort : Ledger :=
  let stocked := ((Stock.run {} mainKey (.set 10) {}).exec fresh).2
  let reserved := ((apply {} .created "o1" "" [⟨"p1", "", 5⟩]).exec stocked).2
  let counted := ((Stock.run {} mainKey (.set 2) {}).exec reserved).2
  let shipped := ((apply {} .fulfilled "o1" "" [⟨"p1", "", 5⟩]).exec counted).2
  let refused := ((apply {} .created "o2" "" [⟨"p1", "", 1⟩]).exec shipped).2
  let received := ((Stock.run {} mainKey (.receive 10) {}).exec refused).2
  let held := ((apply {} .created "o3" "" [⟨"p1", "", 4⟩]).exec received).2
  ((apply {} .fulfilled "o1" "" [⟨"p1", "", 5⟩]).exec held).2

theorem fulfilledShort_reachable : Orders.Reachable anyEvent fulfilledShort := by
  refine ⟨fresh, fresh_initial, rfl, ?_⟩
  exact .tail (.tail (.tail (.tail (.tail (.tail (.tail (.single (.stock _ _ _ _ _ rfl))
    (.event _ _ _ _ _ _ (by decide) (by decide) trivial)) (.stock _ _ _ _ _ rfl))
    (.event _ _ _ _ _ _ (by decide) (by decide) trivial)) (.event _ _ _ _ _ _ (by decide) (by decide) trivial))
    (.stock _ _ _ _ _ rfl)) (.event _ _ _ _ _ _ (by decide) (by decide) trivial))
    (.event _ _ _ _ _ _ (by decide) (by decide) trivial)

/-- On a run that fulfils an order while less is on hand than it holds, committed stock
ends at one unit while order `o3` alone holds four. -/
theorem fulfilledShort_accounts :
    Orders.Reachable anyEvent fulfilledShort ∧ fulfilledShort.book.figure mainKey Level.committed = 1 ∧
      ((orderIds fulfilledShort.book.log).map fun o => holding fulfilledShort.book.log o mainKey).sum = 4 ∧
      holding fulfilledShort.book.log "o3" mainKey = 4 :=
  ⟨fulfilledShort_reachable, by decide +kernel, by decide +kernel, by decide +kernel⟩

end Session

end StockLedger
