import StockLedger.Ledger.Feeds
import StockLedger.Proofs.StockCalls
import StockLedger.Proofs.OrderAccounts
import StockLedger.Proofs.Saturating
import Mathlib.Data.List.Forall2

/-!
Batches of changes reported by a synchronised source. A change is accepted when its
product resolves (through the catalog's units when it names only a unit), it has a
location, its quantity is not negative, the catalog, when there is one, lists the product
as active, its change type names a mode and the lock of its key is granted. An accepted
change sets, increments or decrements the on-hand stock of its key, saturating at the top
of the 64-bit range and never taking a figure below zero to a lower one; a refused change
leaves the ledger as it was.

Applying a batch on a ledger kept in memory does what its result reports
(`Feeds.sync_batch_reports`): an unknown or disabled source refuses the whole batch and
leaves the ledger alone; otherwise every change is counted as updated or failed, the
status follows from the counts, the log grows by one entry per accepted change in batch
order, and each key's on-hand stock is the fold of its accepted changes over its figure
before the batch.
-/

namespace StockLedger

namespace SyncMode

/-- On-hand stock after a synchronised change, as integers: a set writes the quantity, an
increment adds it up to the top figure, and a decrement takes it away down to zero, leaving
a figure already below zero as it is. -/
def exact : SyncMode → Int → Int → Int
  | .set, _, q => q
  | .increment, x, q => min (x + q) Quantity.top.toInt
  | .decrement, x, q => if x < 0 then x else max (x - q) 0

end SyncMode

namespace Run

variable {ok : α → Ledger → Prop} {err : Failure → Ledger → Prop} {l : Ledger}

theorem post_ite (b : Prop) [Decidable b] (x y : Run α) :
    Post (if b then x else y) l ok err ↔ if b then Post x l ok err else Post y l ok err := by
  split <;> rfl

theorem post_publish (e : SyncEvent) : Post (publish e) l (fun _ l' => l'.book = l.book) err := by
  cases broadcast : l.broadcast <;> simp [publish, broadcast]

end Run

open Run

namespace ProductStore

/-- Whether a product passes the catalog a ledger keeps: any product does when there is no
catalog, and an active one does when there is. -/
def listed : Option Catalog → String → Bool
  | some cat, product => cat.active product
  | none, _ => true

variable {call : Call} {l : Ledger}

theorem listed_of_none {catalog : Option Catalog} (absent : catalog.isSome = false) (p : String) :
    listed catalog p = true := by
  cases catalog <;> simp_all [listed]

theorem post_checked {ok : Bool → Ledger → Prop} {err : Failure → Ledger → Prop} :
    Post checked l ok err ↔ ok (l.wiring.products || l.catalog.isSome) l := Iff.rfl

theorem post_isActive {ok : Bool → Ledger → Prop} {err : Failure → Ledger → Prop} (p : String)
    (catalogInMemory : l.wiring.products = false) :
    Post (isActive call p) l ok err ↔ ok (listed l.catalog p) l := by
  cases catalog : l.catalog <;> simp [isActive, catalogInMemory, catalog, listed]

end ProductStore

namespace SourceStore

theorem post_recordSync {call : Call} {l : Ledger} {id status : String} {stamp : Instant}
    (sourcesInMemory : l.wiring.sources = false) :
    Post (recordSync call id stamp status) l (fun _ l' => l'.book = l.book) (fun _ l' => l'.book = l.book) := by
  simp [recordSync, onDatabase, sourcesInMemory, post_ite]

end SourceStore

namespace Feeds

/-- The product a change names: its own id, or, when it gives only a unit and the ledger
keeps a catalog, the active product the catalog has for that unit. -/
def product? (catalog : Option Catalog) (c : ReportedChange) : Option String :=
  match catalog with
  | some cat => if c.product = "" ∧ c.sku ≠ "" then (cat.findByUnit c.sku).toOption else some c.product
  | none => some c.product

/-- The key, mode and quantity of a change the ledger accepts from source `src`, or none
when it refuses the change. -/
def accepted (l : Ledger) (call : Call) (src : Source) (c : ReportedChange) :
    Option (StockKey × SyncMode × Int64) :=
  (product? l.catalog c).bind fun product =>
    if product = "" ∨ c.location = "" ∨ c.quantity < 0 ∨ ProductStore.listed l.catalog product = false then none
    else (SyncMode.ofName? c.changeType).bind fun mode =>
      let key : StockKey := ⟨product, "", src.mapLocation c.location⟩
      if (l.locker.acquire call key.text).isOk then some (key, mode, c.quantity) else none

/-- The entry an accepted change files: of its key, an adjustment, citing its source as
reference and in its reason. -/
def Files (src : Source) (a : StockKey × SyncMode × Int64) (e : Adjustment) : Prop :=
  e.key = a.1 ∧ e.kind = .adjustment ∧ e.reference = some src.id ∧ e.reason = "sync from " ++ src.id

/-- On-hand stock of key `k`, from `x`, after the changes of `applied` that concern it, in
order. -/
def onHandAfter (applied : List (StockKey × SyncMode × Int64)) (k : StockKey) (x : Int) : Int :=
  (applied.filter (·.1 = k)).foldl (fun x a => a.2.1.exact x a.2.2.toInt) x

/-- What the accepted changes `applied` did to ledger `l`, leaving `l'`: the log has grown
by one entry per change, in order; each key's on-hand stock is the fold of its changes; and
a key that no change names keeps its level. -/
structure Synced (l : Ledger) (src : Source) (applied : List (StockKey × SyncMode × Int64)) (l' : Ledger) :
    Prop where
  logged : ∃ added, l'.book.log = l.book.log ++ added ∧ List.Forall₂ (Files src) applied added
  onHand : ∀ k, (l'.book.figure k Level.onHand).toInt = onHandAfter applied k (l.book.figure k Level.onHand).toInt
  untouched : ∀ k, (∀ a ∈ applied, a.1 ≠ k) → l'.book.find? k = l.book.find? k

/-- What a batch of `changes` from source `src` reports and leaves: every change is
counted once as updated or failed, the status follows from the counts, and exactly the
accepted changes are applied. -/
structure Applied (l : Ledger) (call : Call) (src : Source) (changes : List ReportedChange) (result : SyncResult)
    (l' : Ledger) : Prop where
  source : result.source = src.id
  processed : result.processed = changes.length
  counted : result.processed = result.updated + result.failed
  errors : result.errors.length = result.failed
  updated : result.updated = (changes.filterMap (accepted l call src)).length
  statusSuccess : result.status = "success" ↔ result.failed = 0
  statusPartial : result.status = "partial" ↔ 0 < result.failed ∧ 0 < result.updated
  statusFailed : result.status = "failed" ↔ 0 < result.failed ∧ result.updated = 0
  synced : Synced l src (changes.filterMap (accepted l call src)) l'

/-- A batch from `sourceId` that runs: its source is known and enabled and the batch is
applied as `Applied` says. -/
def Reported (l : Ledger) (call : Call) (sourceId : String) (changes : List ReportedChange) (result : SyncResult)
    (l' : Ledger) : Prop :=
  ∃ src, l.sources.find? (·.id == sourceId) = some src ∧ src.syncEnabled = true ∧
    Applied l call src changes result l'

/-- A batch refused as a whole, for an unknown or a disabled source, with the ledger as it
was. -/
def Refused (l : Ledger) (sourceId : String) (e : Failure) (l' : Ledger) : Prop :=
  l' = l ∧
    (l.sources.find? (·.id == sourceId) = none ∧ e = .withDetail .sourceNotFound sourceId ∨
      ∃ src, l.sources.find? (·.id == sourceId) = some src ∧ src.syncEnabled = false ∧
        e = .withDetail .sourceDisabled sourceId)

variable {call : Call} {src : Source} {c : ReportedChange} {l : Ledger}

section Accepted

theorem accepted_congr {l' : Ledger} (catalog : l'.catalog = l.catalog) (locker : l'.locker = l.locker) :
    accepted l' = accepted l := by
  unfold accepted
  rw [catalog, locker]

theorem accepted_written (key : StockKey) (w : Level) (ch : Option Change) :
    accepted (l.written key w ch) = accepted l :=
  accepted_congr (Ledger.written_catalog l key w ch) (Ledger.written_locker l key w ch)

theorem nonneg_of_accepted {a : StockKey × SyncMode × Int64} (acc : accepted l call src c = some a) :
    ¬c.quantity < 0 := by
  intro negative
  simp [accepted, negative] at acc

end Accepted

section Synced

theorem onHandAfter_append (xs ys : List (StockKey × SyncMode × Int64)) (k : StockKey) (x : Int) :
    onHandAfter (xs ++ ys) k x = onHandAfter ys k (onHandAfter xs k x) := by
  simp [onHandAfter, List.filter_append, List.foldl_append]

theorem synced_nil (l : Ledger) (src : Source) : Synced l src [] l :=
  ⟨⟨[], by simp, .nil⟩, fun _ => rfl, fun _ _ => rfl⟩

theorem Synced.append {l₁ l₂ : Ledger} {xs ys : List (StockKey × SyncMode × Int64)} (first : Synced l src xs l₁)
    (second : Synced l₁ src ys l₂) : Synced l src (xs ++ ys) l₂ where
  logged := by
    obtain ⟨added, log, files⟩ := first.logged
    obtain ⟨added', log', files'⟩ := second.logged
    exact ⟨added ++ added', by rw [log', log, List.append_assoc], List.rel_append files files'⟩
  onHand k := by rw [second.onHand, first.onHand, onHandAfter_append]
  untouched k other := by
    rw [second.untouched k (fun a member => other a (List.mem_append_right xs member)),
      first.untouched k (fun a member => other a (List.mem_append_left ys member))]

theorem Synced.of_book {l₁ l₂ : Ledger} {xs : List (StockKey × SyncMode × Int64)} (synced : Synced l src xs l₁)
    (book : l₂.book = l₁.book) : Synced l src xs l₂ := by
  obtain ⟨logged, onHand, untouched⟩ := synced
  rw [← book] at logged onHand untouched
  exact ⟨logged, onHand, untouched⟩

theorem sync_apply {mode : SyncMode} {q : Int64} {w w' : Level} {mv? : Option Movement} (nonneg : ¬q < 0)
    (applied : (Move.sync mode q).apply w = .ok (w', mv?)) :
    w'.onHand.toInt = mode.exact w.onHand.toInt q.toInt ∧ ∀ mv ∈ mv?, mv.kind = .adjustment := by
  have positive : 0 ≤ q := Int64.not_lt.mp nonneg
  simp only [Move.apply, Except.ok.injEq, Prod.mk.injEq] at applied
  obtain ⟨rfl, rfl⟩ := applied
  refine ⟨?_, by simp⟩
  cases mode <;> simp [Level.recount, SyncMode.exact, Quantity.toInt_capAdd positive, Quantity.toInt_floorSub positive]

theorem synced_written {key : StockKey} {mode : SyncMode} {q : Int64} {w w' : Level} {mv : Movement}
    (named : src.id ≠ "") (nonneg : ¬q < 0) (working : l.book.working key true = .ok w)
    (applied : (Move.sync mode q).apply w = .ok (w', some mv)) :
    Synced l src [(key, mode, q)] (l.written key w'
      (some (Stock.noted call (.sync mode q) { reference := src.id, reason := "sync from " ++ src.id } mv))) := by
  obtain ⟨figured, keyed⟩ := Book.figure_of_working working Level.onHand rfl
  obtain ⟨-, keyed'⟩ := Move.apply_recounts applied
  obtain ⟨onHand, kind⟩ := sync_apply nonneg applied
  have stored : w'.key = key := keyed'.trans keyed
  refine ⟨⟨_, Ledger.written_log .., .cons ?_ .nil⟩, fun k => ?_, fun k other => ?_⟩
  · simp [Files, kind mv rfl, Stock.optional_of_ne named]
  · rw [Ledger.written_figure l stored]
    by_cases here : key = k
    · subst here
      simp [onHandAfter, figured, onHand]
    · simp [onHandAfter, here]
  · have elsewhere : w'.key ≠ k := by
      rw [stored]
      exact other _ (List.mem_singleton_self _)
    rw [Ledger.written_find?, if_neg elsewhere]

end Synced

section Calls

/-- A synchronised change of a key in memory: with a quantity that is not negative it
fails, leaving the ledger alone, exactly when its type names no mode or its key's lock is
refused, and otherwise writes its key. -/
theorem post_syncChange {key : StockKey} {ty reference reason : String} {q : Int64}
    (inMemory : l.wiring.inventory = false) (nonneg : ¬q < 0) :
    Post (Stock.applyChange call key ty q reference reason) l
      (fun _ l' => ∃ mode w w' mv, SyncMode.ofName? ty = some mode ∧ (l.locker.acquire call key.text).isOk ∧
        l.book.working key true = .ok w ∧ (Move.sync mode q).apply w = .ok (w', some mv) ∧
        l' = l.written key w' (some (Stock.noted call (.sync mode q) { reference, reason } mv)))
      (fun _ l' => (∀ mode, SyncMode.ofName? ty = some mode → (l.locker.acquire call key.text).isOk = false) ∧
        l' = l) := by
  unfold Post
  rw [Stock.applyChange_exec, if_neg nonneg]
  rcases mode : SyncMode.ofName? ty with _ | mode
  · simp
  dsimp only
  rw [Stock.write_exec _ _ _ _ inMemory]
  rcases acquired : l.locker.acquire call key.text with e | ⟨⟩
  · simp [Except.isOk, Except.toBool]
  -- a synchronised change creates its level when there is none, and always applies
  have working : l.book.working key true = .ok ((l.book.find? key).getD (Level.fresh key)) := by
    unfold Book.working
    cases l.book.find? key <;> rfl
  simp [Move.creates, working, Move.apply, Except.isOk, Except.toBool]

theorem post_resolve {jp : String → Run Unit} {ok : Unit → Ledger → Prop} {err : Failure → Ledger → Prop}
    (catalogInMemory : l.wiring.products = false)
    (resolved : ∀ p, product? l.catalog c = some p → Post (jp p) l ok err)
    (unresolved : product? l.catalog c = none → ∀ e, err e l) :
    Post (if c.product = "" ∧ c.sku ≠ "" ∧ (l.wiring.products || l.catalog.isSome) = true then
        ProductStore.findByUnit call c.sku >>= jp else pure c.product >>= jp) l ok err := by
  rcases catalog : l.catalog with _ | cat
  · simpa [catalog, catalogInMemory] using resolved c.product (by simp [product?, catalog])
  by_cases byUnit : c.product = "" ∧ c.sku ≠ ""
  · rcases found : cat.findByUnit c.sku with e | p
    · simpa [byUnit, ProductStore.findByUnit, catalogInMemory, catalog, found] using
        unresolved (by simp [product?, catalog, byUnit, found, Except.toOption]) e
    · simpa [byUnit, ProductStore.findByUnit, catalogInMemory, catalog, found] using
        resolved p (by simp [product?, catalog, byUnit, found, Except.toOption])
  · simpa [byUnit] using resolved c.product (by simp [product?, catalog, byUnit])

/-- One reported change in memory: refused with the ledger unchanged exactly when it is not
accepted, and otherwise a write of its key. -/
theorem post_applyOne (inMemory : l.wiring.inventory = false) (catalogInMemory : l.wiring.products = false) :
    Post (applyOne call src c) l
      (fun _ l' => ∃ key mode w w' mv, accepted l call src c = some (key, mode, c.quantity) ∧
        l.book.working key true = .ok w ∧ (Move.sync mode c.quantity).apply w = .ok (w', some mv) ∧
        l' = l.written key w' (some (Stock.noted call (.sync mode c.quantity)
          { reference := src.id, reason := "sync from " ++ src.id } mv)))
      (fun _ l' => accepted l call src c = none ∧ l' = l) := by
  unfold applyOne
  rw [post_bind, ProductStore.post_checked]
  refine post_resolve catalogInMemory (fun p resolved => ?_) (fun unresolved e => by simp [accepted, unresolved])
  beta_reduce
  -- the checks on the resolved product, in the order the change is refused by them
  by_cases empty : p = ""
  · simp [empty, accepted, resolved]
  by_cases noLocation : c.location = ""
  · simp [empty, noLocation, accepted, resolved]
  by_cases negative : c.quantity < 0
  · simp [empty, noLocation, negative, accepted, resolved]
  by_cases unlisted : ProductStore.listed l.catalog p = false
  · have checked : l.catalog.isSome = true := by
      cases catalog : l.catalog.isSome
      · simp [ProductStore.listed_of_none catalog] at unlisted
      · rfl
    simp [empty, noLocation, negative, unlisted, checked, accepted, resolved, catalogInMemory,
      ProductStore.post_isActive, post_ite]
  have accept : accepted l call src c = (SyncMode.ofName? c.changeType).bind fun mode =>
      if (l.locker.acquire call (StockKey.mk p "" (src.mapLocation c.location)).text).isOk
      then some (StockKey.mk p "" (src.mapLocation c.location), mode, c.quantity) else none := by
    simp [accepted, resolved, empty, noLocation, negative, unlisted]
  simp only [empty, noLocation, negative, unlisted, catalogInMemory, ↓reduceIte, Bool.false_or,
    Bool.not_eq_eq_eq_not, Bool.not_true, bind_pure_comp, post_ite, post_bind, post_map, post_fail,
    Bool.ite_eq_false, ProductStore.post_isActive p catalogInMemory, ite_self]
  refine (post_syncChange inMemory negative).mono ?_ ?_
  · rintro _ l' ⟨mode, w, w', mv, named, acquired, working, applied, written⟩
    exact ⟨_, mode, w, w', mv, by simp [accept, named, acquired], working, applied, written⟩
  · rintro _ l' ⟨refused, same⟩
    refine ⟨?_, same⟩
    rw [accept]
    rcases named : SyncMode.ofName? c.changeType with _ | mode
    · rfl
    · simp [refused mode named]

/-- The loop over a batch never fails, counts each change once, as updated exactly when it
is accepted, and applies the accepted changes in order. -/
theorem post_tally (inMemory : l.wiring.inventory = false) (catalogInMemory : l.wiring.products = false)
    (named : src.id ≠ "") (changes : List ReportedChange) (u : Nat) (errs : List String) :
    Post (changes.foldlM (tallyOne call src) (u, errs)) l
      (fun r l' => r.1 = u + (changes.filterMap (accepted l call src)).length ∧
        r.1 + r.2.length = u + errs.length + changes.length ∧
        Synced l src (changes.filterMap (accepted l call src)) l' ∧ l'.wiring = l.wiring)
      (fun _ _ => False) := by
  -- on the changes left, from whatever ledger and counts the ones before them left
  induction changes generalizing u errs l with
  | nil => simpa using synced_nil l src
  | cons c rest ih =>
    rw [List.foldlM_cons, post_bind]
    unfold tallyOne
    rw [post_bind, post_attempt]
    refine (post_applyOne inMemory catalogInMemory).mono ?_ ?_
    · rintro - l₁ ⟨key, mode, w, w', mv, acc, working, applied, rfl⟩
      have negative := nonneg_of_accepted acc
      refine (ih (by simpa using inMemory) (by simpa using catalogInMemory) (u + 1) errs).mono ?_
        (fun _ _ h => h.elim)
      rintro r l' ⟨count, total, synced, wiring⟩
      rw [accepted_written] at count synced
      refine ⟨by simp [acc, count]; omega, by simp at total ⊢; omega,
        by simpa [acc] using (synced_written named negative working applied).append synced, by simpa using wiring⟩
    · rintro e l₁ ⟨refused, same⟩
      subst same
      refine (ih inMemory catalogInMemory u (errs ++ _)).mono ?_ (fun _ _ h => h.elim)
      rintro r l' ⟨count, total, synced, wiring⟩
      refine ⟨by simp [refused, count], by simp at total ⊢; omega, by simpa [refused] using synced, wiring⟩

theorem post_find {ok : Source → Ledger → Prop} {err : Failure → Ledger → Prop} (id : String)
    (sourcesInMemory : l.wiring.sources = false) :
    Post (find call id) l ok err ↔ match l.sources.find? (·.id == id) with
      | some s => ok s l
      | none => err (.withDetail .sourceNotFound id) l := by
  cases found : l.sources.find? (·.id == id) <;>
    simp [find, SourceStore.find, SourceStore.onDatabase, sourcesInMemory, found]

end Calls

theorem batchStatus_spec (updated failed : Nat) :
    (batchStatus updated failed = "success" ↔ failed = 0) ∧
      (batchStatus updated failed = "partial" ↔ 0 < failed ∧ 0 < updated) ∧
      (batchStatus updated failed = "failed" ↔ 0 < failed ∧ updated = 0) := by
  unfold batchStatus
  split_ifs <;> simp <;> omega

/-- A batch from a registered source on a ledger kept in memory does what its result
reports, or is refused as a whole with the ledger unchanged. -/
theorem sync_batch_reports (call : Call) (sourceId : String) (changes : List ReportedChange) {l : Ledger}
    (inMemory : l.wiring.inventory = false) (sourcesInMemory : l.wiring.sources = false)
    (catalogInMemory : l.wiring.products = false) (registered : ∀ s ∈ l.sources, s.id ≠ "") :
    Post (applyBatch call sourceId changes) l (Reported l call sourceId changes) (Refused l sourceId) := by
  unfold applyBatch
  rw [post_bind, post_find sourceId sourcesInMemory]
  rcases found : l.sources.find? (·.id == sourceId) with _ | src
  · simp [Refused, found]
  simp only [found]
  have named : src.id = sourceId := by simpa using List.find?_some found
  by_cases enabled : src.syncEnabled = false
  · simp [enabled, Refused, found]
  have member := List.mem_of_find?_eq_some found
  rw [if_neg (by simpa using enabled), post_bind]
  refine (post_tally inMemory catalogInMemory (registered src member) changes 0 []).mono ?_ (fun _ _ h => h.elim)
  rintro ⟨updated, errors⟩ l₁ ⟨count, total, synced, wiring⟩
  simp only [post_bind, post_now, post_attempt]
  -- recording the sync and announcing it leave the book as the batch left it, whether or not
  -- the record succeeds
  refine Post.mono (SourceStore.post_recordSync (by rw [wiring]; exact sourcesInMemory)) ?_ ?_
  all_goals
    intro _ l₂ book₂
    refine Post.mono (post_publish _) (fun _ l₃ book₃ => ?_) (fun _ _ h => h)
    obtain ⟨succeeds, partly, fails⟩ := batchStatus_spec updated errors.length
    simp only [List.length_nil, Nat.zero_add] at count total
    exact ⟨src, found, by simpa using enabled,
      { source := named.symm, processed := rfl, counted := total.symm, errors := rfl, updated := count,
        statusSuccess := succeeds, statusPartial := partly, statusFailed := fails,
        synced := synced.of_book (book₃.trans book₂) }⟩

end Feeds

namespace Session

/-- A source that maps its warehouse `WH1` to the main one. -/
def erpSource : Source :=
  { id := "erp", name := "ERP", kind := "erp", endpoint := "", syncEnabled := true,
    interval := Source.defaultInterval, locationMap := some [("WH1", Location.mainId)],
    lastSyncAt := none, lastSyncStatus := none }

/-- A fresh ledger with the source registered and a catalog where unit `U1` names `p1`. -/
def erpLedger : Ledger :=
  { fresh with sources := [erpSource], catalog := some (Catalog.empty.add "p1" "U1") }

/-- A batch mixing accepted changes with ones refused for an unknown product, a missing
location, a negative quantity and an unknown change type. -/
def erpBatch : List ReportedChange :=
  [⟨"", "U1", "WH1", 10, "set"⟩, ⟨"p1", "", "WH1", 3, "increment"⟩, ⟨"p2", "", "WH1", 1, "set"⟩,
    ⟨"p1", "", "", 1, "set"⟩, ⟨"p1", "", "WH1", -1, "set"⟩, ⟨"p1", "", "WH1", 2, "restock"⟩]

theorem erpBatch_reported :
    erpLedger.wiring.inventory = false ∧ erpLedger.wiring.sources = false ∧ erpLedger.wiring.products = false ∧
      (∀ s ∈ erpLedger.sources, s.id ≠ "") ∧
      Run.Post (Feeds.applyBatch {} "erp" erpBatch) erpLedger
        (Feeds.Reported erpLedger {} "erp" erpBatch) (Feeds.Refused erpLedger "erp") :=
  ⟨rfl, rfl, rfl, by simp [erpLedger, erpSource], Feeds.sync_batch_reports {} "erp" erpBatch rfl rfl rfl
    (by simp [erpLedger, erpSource])⟩

-- the change naming only its unit resolves to `p1`, and the mapped warehouse is the main one
example : erpBatch.filterMap (Feeds.accepted erpLedger {} erpSource) =
    [(⟨"p1", "", Location.mainId⟩, .set, 10), (⟨"p1", "", Location.mainId⟩, .increment, 3)] := by
  decide

end Session

end StockLedger
