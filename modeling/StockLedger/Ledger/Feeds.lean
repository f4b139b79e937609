import StockLedger.Ledger.Stock
import StockLedger.Store.Sources
import StockLedger.Store.Products

/-!
Sync operations on the ledger. Registering a source fills its defaults and keeps the
last sync it already had when the new record carries none. Applying a batch runs each
change through the stock operations independently, counts what was updated and what
failed, records the sync and announces the result. Claiming due sources marks each as
syncing now and announces that it is due.
-/

namespace StockLedger

/-- A change of one product's stock reported by a source. -/
structure ReportedChange where
  product : String
  sku : String
  location : String
  quantity : Int64
  changeType : String

namespace Source

/-- A source as registration stores it: kind `manual` when it names none, and the default
interval when its own is not positive. -/
def withDefaults (s : Source) : Source :=
  { s with kind := if s.kind = "" then "manual" else s.kind,
           interval := if s.interval ≤ 0 then defaultInterval else s.interval }

@[simp] theorem withDefaults_id (s : Source) : s.withDefaults.id = s.id := rfl

@[simp] theorem withDefaults_lastSyncAt (s : Source) : s.withDefaults.lastSyncAt = s.lastSyncAt := rfl

theorem withDefaults_interval_pos (s : Source) : 0 < s.withDefaults.interval := by
  show 0 < if s.interval ≤ 0 then defaultInterval else s.interval
  split
  · decide
  · exact Int64.not_le.mp ‹_›

theorem withDefaults_interval_of_pos {s : Source} (spaced : 0 < s.interval) : s.withDefaults.interval = s.interval :=
  if_neg (Int64.not_le.mpr spaced)

end Source

namespace Feeds

open Run

/-- Registers a source with its defaults filled in and returns it. -/
def register (call : Call) (s : Source) : Run Source := do
  if s.id = "" then fail (.plain "source id is required")
  let s := s.withDefaults
  SourceStore.upsert call s
  return s

def find (call : Call) (id : String) : Run Source := SourceStore.find call id

def all (call : Call) : Run (List Source) := SourceStore.all call

/-- Applies one reported change: the product is found by its unit when only the unit is
given, the location mapped through the source, and on-hand stock changed as the change
type says. -/
def applyOne (call : Call) (src : Source) (c : ReportedChange) : Run Unit := do
  let checked ← ProductStore.checked
  let product ← if c.product = "" ∧ c.sku ≠ "" ∧ checked then ProductStore.findByUnit call c.sku
    else pure c.product
  if product = "" then fail (.plain "product id is required")
  if c.location = "" then fail (.plain "location id is required")
  if c.quantity < 0 then
    fail (.withDetail .changeInvalid ("negative quantity " ++ Quantity.text c.quantity))
  if checked then
    if !(← ProductStore.isActive call product) then fail (.withDetail .productNotFound product)
  let key : StockKey := ⟨product, "", src.mapLocation c.location⟩
  let _ ← Stock.applyChange call key c.changeType c.quantity src.id ("sync from " ++ src.id)

def batchStatus (updated failed : Nat) : String :=
  if failed = 0 then "success" else if updated > 0 then "partial" else "failed"

def tallyOne (call : Call) (src : Source) : Nat × List String → ReportedChange → Run (Nat × List String)
  | (updated, errors), c => do
    match ← attempt (applyOne call src c) with
    | .ok _ => return (updated + 1, errors)
    | .error e => return (updated, errors ++ ["Product " ++ c.product ++ ": " ++ e.message])

def applyBatch (call : Call) (sourceId : String) (changes : List ReportedChange) : Run SyncResult := do
  let src ← find call sourceId
  if !src.syncEnabled then fail (.withDetail .sourceDisabled sourceId)
  let (updated, errors) ← changes.foldlM (tallyOne call src) (0, [])
  let result : SyncResult :=
    { source := sourceId, status := batchStatus updated errors.length,
      processed := changes.length, updated, failed := errors.length, errors }
  let _ ← attempt (SourceStore.recordSync call sourceId (← Run.now) result.status)
  publish { kind := .completed, source := sourceId, result := some result, undelivered := false }
  return result

def claimOne (call : Call) (now : Instant) (acc : List Source) (s : Source) : Run (List Source) := do
  if !s.due now then return acc
  SourceStore.recordSync call s.id now "in_progress"
  publish { kind := .requested, source := s.id, result := none, undelivered := false }
  return acc ++ [{ s with lastSyncAt := some now, lastSyncStatus := some "in_progress" }]

/-- Claims every due source at an instant, by id: each is marked syncing at that
instant and announced as due. -/
def claimDue (call : Call) (now : Instant) : Run (List Source) := do
  let sources ← all call
  sources.foldlM (claimOne call now) []

end Feeds

end StockLedger
