import StockLedger.Proofs.Listings
import StockLedger.Proofs.StockTrail

/-!
Log queries kept in memory answer as the database's listing does. The log is numbered one
by one as it grows, so while its 64-bit numbers have not wrapped it is strictly ascending
by number (`Book.Numbered.ascending`), and walking it backwards lists it strictly newest
first. A query keeps the entries its filter admits and cuts them to a positive limit
(`AdjustmentQuery.select_eq_cut`), which is the one answer the database's
`… ORDER BY seq DESC LIMIT n` can give over the same rows (`history_answers_as_listed`).
-/

namespace StockLedger

namespace Book

/-- Numbered one by one from one, the log ascends by number while it holds fewer than
`2^63` entries. -/
theorem Numbered.ascending {b : Book} (numbered : b.Numbered) (unwrapped : b.log.length ≤ 9223372036854775807) :
    b.log.Pairwise (fun a c => a.seq < c.seq) := by
  obtain ⟨seqs, -⟩ := numbered
  have ranged : ((List.range b.log.length).map fun i => Int64.ofNat (i + 1)).Pairwise (· < ·) := by
    rw [List.pairwise_map]
    refine List.pairwise_lt_range.imp_of_mem fun {i j} below below' lt => ?_
    rw [List.mem_range] at below below'
    rw [Int64.lt_iff_toInt_lt, Int64.toInt_ofNat_of_lt (by omega), Int64.toInt_ofNat_of_lt (by omega)]
    omega
  rw [← seqs, List.pairwise_map] at ranged
  exact ranged

end Book

namespace AdjustmentQuery

/-- A query's answer is the log walked backwards, kept by the filter and cut to the
query's limit. -/
theorem select_eq_cut (q : AdjustmentQuery) (log : List Adjustment) :
    q.select log = Where.cut q.cutoff (log.reverse.filter q.admits) := by
  unfold select cutoff
  split <;> rfl

end AdjustmentQuery

theorem Quantity.eq_of_not_lt {a b : Int64} (below : ¬ a < b) (above : ¬ b < a) : a = b := by
  rw [Int64.lt_iff_toInt_lt] at below above
  exact Int64.toInt_inj.mp (by omega)

/-- Over a log ascending by number, newest first is the order of the database's
`ORDER BY seq DESC`, and the walk backwards through what a query admits is its one answer. -/
theorem AdjustmentQuery.selects_iff {log : List Adjustment} (ascending : log.Pairwise (fun a c => a.seq < c.seq))
    (q : AdjustmentQuery) (rows : List Adjustment) :
    Where.Selects q.admits (fun a c => c.seq < a.seq) q.cutoff log rows ↔ rows = q.select log := by
  have descending : (log.reverse.filter q.admits).Pairwise (fun a c => ¬ a.seq < c.seq) :=
    (List.pairwise_reverse.mpr ascending).filter q.admits |>.imp fun later => by
      rw [Int64.lt_iff_toInt_lt] at later ⊢
      omega
  have listed : Where.Selects q.admits (fun a c => c.seq < a.seq) q.cutoff log (q.select log) := by
    refine ⟨log.reverse.filter q.admits, ?_, descending, q.select_eq_cut log⟩
    rw [List.filter_reverse]
    exact List.reverse_perm _
  -- the numbers tie no two entries of the log, so the answer is unique
  have distinct : (log.map (·.seq)).Nodup :=
    (List.pairwise_map.mpr ascending).imp fun lt same => by
      rw [same, Int64.lt_iff_toInt_lt] at lt
      omega
  have untied : ∀ a ∈ log, ∀ b ∈ log, ¬ b.seq < a.seq → ¬ a.seq < b.seq → a = b :=
    fun a member b member' below above =>
      List.inj_on_of_nodup_map distinct member member' (Quantity.eq_of_not_lt above below)
  constructor
  · intro selects
    exact Where.Selects.unique untied selects listed
  · rintro rfl
    exact listed

/-- A log query of a stock run answers as the database's listing does. The database store
sends `SELECT * FROM inventory_adjustments` with the query's conjuncts, newest first and
cut to a positive limit; a row passes the conjuncts exactly when its entry matches the
query; and over the rows of the log the statement has one answer, the one the book gives,
strictly newest first. The log's numbers are 64-bit like the book's counter, which has not
wrapped while the log holds fewer than `2^63` entries. -/
theorem history_answers_as_listed {l : Ledger} (reached : Stock.Reachable Stock.everyOp l)
    (unwrapped : l.book.log.length ≤ 9223372036854775807) (call : Call) (q : AdjustmentQuery) :
    LevelStore.historyText q = "SELECT * FROM inventory_adjustments" ++ Where.clause q.conjuncts ++
        " ORDER BY seq DESC" ++ (if q.limit > 0 then " LIMIT " ++ toString q.limit else "") ∧
      (∀ a, Where.passes q.conjuncts (LevelStore.entryRow a) q.params = true ↔ q.Matches a) ∧
      ∃ answer, (Stock.history call q).exec l = (.ok answer, l) ∧
        answer.Pairwise (fun a c => c.seq < a.seq) ∧
        ∀ rows, Where.Selects (fun a => Where.passes q.conjuncts (LevelStore.entryRow a) q.params)
          (fun a c => c.seq < a.seq) q.cutoff l.book.log rows ↔ rows = answer := by
  have ascending := reached.numbered.ascending unwrapped
  have keep : (fun a => Where.passes q.conjuncts (LevelStore.entryRow a) q.params) = q.admits :=
    funext q.passes_conjuncts
  refine ⟨LevelStore.historyText_eq q, fun a => ?_, q.select l.book.log,
    Stock.history_exec call q reached.inMemory, ?_, ?_⟩
  · rw [q.passes_conjuncts a]
    exact q.admits_iff_matches a
  · rw [q.select_eq_cut]
    exact Where.pairwise_cut ((List.pairwise_reverse.mpr ascending).filter q.admits) q.cutoff
  · rw [keep]
    exact q.selects_iff ascending

namespace Session

/-- The run that receives, reserves, damages, scraps and counts `p1` answers the query for
its three newest entries of `p1` as the database would. -/
theorem countedRun_listed :
    Stock.Reachable Stock.everyOp countedRun ∧ countedRun.book.log.length ≤ 9223372036854775807 ∧
      let q : AdjustmentQuery := { product := "p1", limit := 3 }
      (LevelStore.historyText q = "SELECT * FROM inventory_adjustments" ++ Where.clause q.conjuncts ++
          " ORDER BY seq DESC" ++ (if q.limit > 0 then " LIMIT " ++ toString q.limit else "") ∧
        (∀ a, Where.passes q.conjuncts (LevelStore.entryRow a) q.params = true ↔ q.Matches a) ∧
        ∃ answer, (Stock.history {} q).exec countedRun = (.ok answer, countedRun) ∧
          answer.Pairwise (fun a c => c.seq < a.seq) ∧
          ∀ rows, Where.Selects (fun a => Where.passes q.conjuncts (LevelStore.entryRow a) q.params)
            (fun a c => c.seq < a.seq) q.cutoff countedRun.book.log rows ↔ rows = answer) :=
  ⟨countedRun_reachable, by decide +kernel,
    history_answers_as_listed countedRun_reachable (by decide +kernel) {} { product := "p1", limit := 3 }⟩

end Session

end StockLedger
