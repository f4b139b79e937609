import StockLedger.Proofs.Tally
import StockLedger.Proofs.Saturating
import StockLedger.Ledger.Orders
import Mathlib.Data.List.Induction
import Mathlib.Data.List.Nodup

/-!
What orders hold. An order's holding on a key is the wrapping sum of the quantities of its
reserve, release and ship entries there: the figure the order listener reads back before
it reserves, releases or ships (`Orders.held_exec`). The book's committed figure of a key
is measured against the total of such entries at the key, whoever filed them; when every
one of them is filed under some order, that total is the sum over the orders of their
holdings (`Orders.total_eq_sum_holding`).
-/

namespace StockLedger

namespace AdjustmentKind

/-- The kinds an order's holding counts: reservations, releases and shipments. -/
def holds : AdjustmentKind → Bool
  | .reserved | .unreserved | .shipped => true
  | _ => false

end AdjustmentKind

namespace Book

/-- A figure of the level kept for a key, zero when the key has none. -/
def figure (b : Book) (key : StockKey) (f : Level → Int64) : Int64 := ((b.find? key).map f).getD 0

theorem find?_replace (levels : List Level) (w : Level) (k : StockKey) :
    (levels.map fun m => if m.key == w.key then w else m).find? (·.key == k) =
      if w.key = k then (if levels.any (·.key == w.key) then some w else none)
      else levels.find? (·.key == k) := by
  induction levels with
  | nil => simp
  | cons m rest ih =>
    rw [List.map_cons]
    by_cases mine : m.key = w.key
    · have replaced : (if m.key == w.key then w else m) = w := by simp [mine]
      rw [replaced]
      by_cases same : w.key = k
      · rw [List.find?_cons_of_pos (by simp [same]), if_pos same, if_pos (by simp [mine])]
      · rw [List.find?_cons_of_neg (by simp [same]), ih, if_neg same, if_neg same,
          List.find?_cons_of_neg (by simp [mine, same])]
    · have kept : (if m.key == w.key then w else m) = m := by simp [mine]
      rw [kept]
      by_cases here : m.key = k
      · have other : ¬ w.key = k := fun h => mine (here.trans h.symm)
        rw [List.find?_cons_of_pos (by simp [here]), if_neg other, List.find?_cons_of_pos (by simp [here])]
      · rw [List.find?_cons_of_neg (by simp [here]), ih, List.find?_cons_of_neg (by simp [here]),
          List.any_cons]
        simp [mine]

theorem find?_store (levels : List Level) (w : Level) (k : StockKey) :
    (store levels w).find? (·.key == k) = if w.key = k then some w else levels.find? (·.key == k) := by
  unfold store
  split
  · rename_i present
    rw [find?_replace]
    split <;> simp
  · rename_i absent
    rw [List.find?_append]
    by_cases same : w.key = k
    · subst same
      have none : levels.find? (·.key == w.key) = none := by
        rw [List.find?_eq_none]
        intro m member keyed
        exact absent (List.any_eq_true.mpr ⟨m, member, keyed⟩)
      simp [none]
    · simp [same]

/-- Writing a level changes the figures of its key only. -/
theorem figure_store {b b' : Book} {w : Level} (stored : b'.levels = store b.levels w) (k : StockKey)
    (f : Level → Int64) : b'.figure k f = if w.key = k then f w else b.figure k f := by
  unfold figure find?
  rw [stored, find?_store]
  split <;> rfl

theorem mem_store {levels : List Level} {w m : Level} (member : m ∈ store levels w) : m ∈ levels ∨ m = w := by
  unfold store at member
  split at member
  · obtain ⟨m', old, rfl⟩ := List.mem_map.mp member
    split
    · exact .inr rfl
    · exact .inl old
  · rcases List.mem_append.mp member with old | new
    · exact .inl old
    · exact .inr (List.mem_singleton.mp new)

/-- The level a write starts from carries the book's figures, provided a fresh level's
figure is zero. -/
theorem figure_of_working {b : Book} {key : StockKey} {creates : Bool} {w : Level}
    (working : b.working key creates = .ok w) (f : Level → Int64) (fresh : f (Level.fresh key) = 0) :
    b.figure key f = f w ∧ w.key = key := by
  unfold Book.working at working
  unfold figure
  split at working
  · rename_i m found
    cases working
    have keyed := List.find?_some found
    simp only [beq_iff_eq] at keyed
    exact ⟨by rw [found]; rfl, keyed⟩
  · rename_i absent
    split at working
    · cases working
      exact ⟨by rw [absent, fresh]; rfl, rfl⟩
    · cases working

end Book

namespace Move

/-- The moves that change committed stock. -/
def commits : Move → Bool
  | .reserve _ | .release _ | .ship _ => true
  | _ => false

variable {m : Move} {w w' : Level} {mv? : Option Movement}

theorem apply_recounts (applied : m.apply w = .ok (w', mv?)) : w'.available = w'.availableOf ∧ w'.key = w.key := by
  cases m <;> simp only [apply] at applied
  case reserve q =>
    split at applied
    · cases applied
    · cases applied
      exact ⟨rfl, rfl⟩
  case limits t =>
    split at applied
    · cases applied
    · cases applied
      exact ⟨rfl, rfl⟩
  all_goals
    cases applied
    exact ⟨rfl, rfl⟩

/-- A move that commits nothing keeps committed stock and files no entry an order holds. -/
theorem apply_quiet (quiet : m.commits = false) (applied : m.apply w = .ok (w', mv?)) :
    w'.committed = w.committed ∧ ∀ mv ∈ mv?, mv.kind.holds = false := by
  cases m <;> simp only [commits, Bool.true_eq_false] at quiet <;> simp only [apply] at applied
  case limits t =>
    split at applied
    · cases applied
    · cases applied
      exact ⟨rfl, by simp⟩
  all_goals
    cases applied
    exact ⟨rfl, by simp [AdjustmentKind.holds]⟩

theorem reserve_applied {q : Int64} (applied : (reserve q).apply w = .ok (w', mv?)) :
    q ≤ w.available ∧ w'.committed = w.committed + q ∧ w'.onHand = w.onHand ∧ w'.damaged = w.damaged ∧
      mv? = some ⟨.reserved, q, w.committed⟩ := by
  simp only [apply] at applied
  split at applied
  · cases applied
  · rename_i enough
    cases applied
    exact ⟨Int64.not_lt.mp enough, rfl, rfl, rfl, rfl⟩

theorem release_apply (q : Int64) :
    (release q).apply w = .ok ({ w with committed := Quantity.floorSub w.committed q }.recount,
      some ⟨.unreserved, Quantity.drawn w.committed q, w.committed⟩) := rfl

theorem ship_apply (q : Int64) :
    (ship q).apply w =
      .ok ({ w with onHand := Quantity.floorSub w.onHand q, committed := Quantity.floorSub w.committed q }.recount,
        some ⟨.shipped, Quantity.drawn w.onHand q, w.onHand⟩) := rfl

end Move

namespace Orders

/-- The quantities of the entries that pass a test, summed with wrapping. -/
def sumOf (p : Adjustment → Bool) (log : List Adjustment) : Int64 := ((log.filter p).map (·.quantity)).sum

/-- What an order holds on a key by the log. -/
def holding (log : List Adjustment) (order : String) (key : StockKey) : Int64 :=
  sumOf (fun e => e.reference == some order && e.key == key && e.kind.holds) log

/-- The reserve, release and ship entries of a key summed, whoever filed them. -/
def total (log : List Adjustment) (key : StockKey) : Int64 :=
  sumOf (fun e => e.key == key && e.kind.holds) log

/-- The orders with a reserve, release or ship entry in the log, each once. -/
def orderIds (log : List Adjustment) : List String :=
  log.foldl (fun os e => match e.reference with
    | some o => if e.kind.holds then os.insert o else os
    | none => os) []

section Sums

variable (p : Adjustment → Bool) (log : List Adjustment) (e : Adjustment)

theorem sumOf_append : sumOf p (log ++ [e]) = sumOf p log + if p e then e.quantity else 0 := by
  unfold sumOf
  by_cases passes : p e <;> simp [List.filter_append, passes]

theorem holding_append (o : String) (k : StockKey) :
    holding (log ++ [e]) o k =
      holding log o k + if e.reference = some o ∧ e.key = k ∧ e.kind.holds then e.quantity else 0 := by
  simp [holding, sumOf_append, and_assoc]

theorem total_append (k : StockKey) :
    total (log ++ [e]) k = total log k + if e.key = k ∧ e.kind.holds then e.quantity else 0 := by
  simp [total, sumOf_append]

theorem orderIds_append :
    orderIds (log ++ [e]) = match e.reference with
      | some o => if e.kind.holds then (orderIds log).insert o else orderIds log
      | none => orderIds log := by
  simp only [orderIds, List.foldl_append, List.foldl_cons, List.foldl_nil]

end Sums

theorem nodup_orderIds (log : List Adjustment) : (orderIds log).Nodup := by
  induction log using List.reverseRecOn with
  | nil => exact List.nodup_nil
  | append_singleton log e ih =>
    rw [orderIds_append]
    split
    · split
      · exact ih.insert
      · exact ih
    · exact ih

theorem mem_orderIds {log : List Adjustment} {o : String} :
    o ∈ orderIds log ↔ ∃ e ∈ log, e.reference = some o ∧ e.kind.holds := by
  induction log using List.reverseRecOn with
  | nil => simp [orderIds]
  | append_singleton log e ih =>
    rw [orderIds_append]
    split
    · rename_i o' filed
      split
      · rename_i holds
        rw [List.mem_insert_iff, ih]
        constructor
        · rintro (rfl | ⟨a, member, found⟩)
          · exact ⟨e, by simp, filed, holds⟩
          · exact ⟨a, by simp [member], found⟩
        · rintro ⟨a, member, filedA, holdsA⟩
          rcases List.mem_append.mp member with old | new
          · exact .inr ⟨a, old, filedA, holdsA⟩
          · rw [List.mem_singleton.mp new, filed] at filedA
            exact .inl (Option.some.inj filedA).symm
      · rename_i quiet
        rw [ih]
        constructor
        · rintro ⟨a, member, found⟩
          exact ⟨a, by simp [member], found⟩
        · rintro ⟨a, member, filedA, holdsA⟩
          rcases List.mem_append.mp member with old | new
          · exact ⟨a, old, filedA, holdsA⟩
          · rw [List.mem_singleton.mp new] at holdsA
            exact absurd holdsA quiet
    · rename_i unfiled
      rw [ih]
      constructor
      · rintro ⟨a, member, found⟩
        exact ⟨a, by simp [member], found⟩
      · rintro ⟨a, member, filedA, holdsA⟩
        rcases List.mem_append.mp member with old | new
        · exact ⟨a, old, filedA, holdsA⟩
        · rw [List.mem_singleton.mp new, unfiled] at filedA
          cases filedA

theorem holding_eq_zero {log : List Adjustment} {o : String} (absent : o ∉ orderIds log) (k : StockKey) :
    holding log o k = 0 := by
  unfold holding sumOf
  rw [List.filter_eq_nil_iff.mpr]
  · rfl
  · intro e member passes
    simp only [Bool.and_eq_true, beq_iff_eq] at passes
    exact absent (mem_orderIds.mpr ⟨e, member, passes.1.1, passes.2⟩)

theorem sum_map_bump {os : List String} (nodup : os.Nodup) (f : String → Int64) (o : String) (d : Int64) :
    (os.map fun x => f x + if x = o then d else 0).sum = (os.map f).sum + if o ∈ os then d else 0 := by
  induction os with
  | nil => simp
  | cons x rest ih =>
    obtain ⟨fresh, nodupRest⟩ := List.nodup_cons.mp nodup
    simp only [List.map_cons, List.sum_cons, ih nodupRest, List.mem_cons]
    by_cases here : x = o
    · subst here
      simp only [if_pos, true_or, if_neg fresh]
      grind
    · by_cases later : o ∈ rest
      · simp only [if_neg here, if_pos later]
        grind
      · have : ¬ (o = x ∨ o ∈ rest) := fun h => h.elim (fun h => here h.symm) later
        simp only [if_neg here, if_neg later, if_neg this]
        grind

/-- When every reserve, release and ship entry is filed under some order, their total at a
key is the sum over the orders of what each holds there. -/
theorem total_eq_sum_holding {log : List Adjustment} (filed : ∀ e ∈ log, e.kind.holds → e.reference ≠ none)
    (k : StockKey) : total log k = ((orderIds log).map fun o => holding log o k).sum := by
  -- the log grows at its end, so the induction takes the last entry off
  induction log using List.reverseRecOn with
  | nil => rfl
  | append_singleton log e ih =>
    have before := ih fun a member => filed a (by simp [member])
    rw [total_append, orderIds_append]
    simp only [holding_append]
    by_cases holds : e.kind.holds
    · obtain ⟨o, reference⟩ := Option.ne_none_iff_exists'.mp (filed e (by simp) holds)
      -- the new entry adds to its own order's term only
      have bumped : ∀ x, (if e.reference = some x ∧ e.key = k ∧ e.kind.holds then e.quantity else 0) =
          if x = o then (if e.key = k then e.quantity else 0) else 0 := by
        intro x
        by_cases same : x = o
        · simp [reference, same, holds]
        · have other : e.reference ≠ some x := by
            rw [reference]
            exact fun h => same (Option.some.inj h).symm
          simp [other, same]
      simp only [bumped]
      simp only [reference, holds, if_true, and_true]
      -- the entry's order was listed already, or is listed now holding nothing before it
      by_cases known : o ∈ orderIds log
      · rw [List.insert_of_mem known, sum_map_bump (nodup_orderIds log), if_pos known, before]
      · rw [List.insert_of_not_mem known, List.map_cons, List.sum_cons, if_pos rfl,
          holding_eq_zero known, sum_map_bump (nodup_orderIds log), if_neg known, before]
        grind
    · simp only [holds, Int64.add_zero, Bool.false_eq_true, and_false, if_false]
      rw [before]
      split <;> rfl

theorem sumOf_cons (p : Adjustment → Bool) (e : Adjustment) (log : List Adjustment) :
    sumOf p (e :: log) = (if p e then e.quantity else 0) + sumOf p log := by
  unfold sumOf
  by_cases passes : p e <;> simp [passes]

theorem sumOf_filter (p q : Adjustment → Bool) (log : List Adjustment) :
    sumOf p (log.filter q) = sumOf (fun e => p e && q e) log := by
  simp only [sumOf, List.filter_filter]

theorem sumOf_reverse (p : Adjustment → Bool) (log : List Adjustment) : sumOf p log.reverse = sumOf p log := by
  simp only [sumOf, List.filter_reverse, List.map_reverse, List.sum_reverse]

/-- A running count that adds the quantity of each entry passing a test sums them. -/
theorem foldl_eq_sumOf (f : Int64 → Adjustment → Int64) (p : Adjustment → Bool)
    (step : ∀ n e, f n e = n + if p e then e.quantity else 0) (entries : List Adjustment) (n : Int64) :
    entries.foldl f n = n + sumOf p entries := by
  induction entries generalizing n with
  | nil => simp [sumOf]
  | cons e rest ih => rw [List.foldl_cons, ih, sumOf_cons, step, Int64.add_assoc]

/-- In memory, the listener's reading of what an order holds on a key is the order's
holding by the log, when the order, product and location are named. -/
theorem held_exec (call : Call) (key : StockKey) (order : String) {l : Ledger}
    (inMemory : l.wiring.inventory = false) (product : key.product ≠ "") (placed : key.location ≠ "")
    (named : order ≠ "") : (held call key order).exec l = (.ok (holding l.book.log order key), l) := by
  simp only [held, Run.exec_bind, Stock.history_exec call _ inMemory, Run.exec_pure]
  rw [AdjustmentQuery.select_unlimited _ _ rfl,
    foldl_eq_sumOf _ (fun e => e.key.variant == key.variant && e.kind.holds), sumOf_filter, sumOf_reverse,
    Int64.zero_add]
  · unfold holding sumOf
    congr 4
    apply List.filter_congr
    intro e _
    have admitted := AdjustmentQuery.admits_keyed product placed named e
    rcases key with ⟨p, v, loc⟩
    rcases e with ⟨id, seq, ⟨p', v', loc'⟩⟩
    simp only at admitted
    rw [Bool.eq_iff_iff]
    simp only [Bool.and_eq_true, admitted, beq_iff_eq, StockKey.mk.injEq]
    tauto
  · -- the listener adds the quantity of its own variant's reserve, release and ship entries
    intro n e
    by_cases same : e.key.variant = key.variant
    · cases kind : e.kind <;> simp [same, AdjustmentKind.holds]
    · simp [same]

end Orders

end StockLedger
