import StockLedger.Proofs.Listings
import StockLedger.Proofs.StockCalls

/-!
Level listings kept in memory. A listing keeps the stored levels its query admits, the
same ones the database's conjuncts keep, each once since a book holds one level per key
(`Stock.Reachable.keysDistinct`), and sorts them by the text of their keys,
`product|location` or `product:variant|location`, character by character.

The database sorts by product, then variant, then location (`StockKey.Precedes`). The two
orders differ: `|` sorts after every letter and digit, so `p10|…` comes before `p1|…` and
`p1:b|…` before `p1|…`, while the database puts `p1` first in both; and the text of a key
does not tell `a:b` without a variant from `a` with variant `b`. The memory listing is
always a rearrangement of the database's answer, and it is that answer exactly when the
listed keys' texts sort as the keys do (`levels_listed_by_key_text`).
-/

namespace StockLedger

namespace StockKey

/-- Whether a key comes before another in order of product, then variant, then location,
each compared by its characters: `ORDER BY product_id, variant_id, location_id`. -/
def Precedes (k k' : StockKey) : Prop :=
  k.product < k'.product ∨ k.product = k'.product ∧
    (k.variant < k'.variant ∨ k.variant = k'.variant ∧ k.location < k'.location)

instance : DecidableRel Precedes := fun _ _ => inferInstanceAs (Decidable (_ ∨ _))

theorem String.eq_of_not_lt {a b : String} (below : ¬ a < b) (above : ¬ b < a) : a = b :=
  String.le_antisymm (String.not_lt.mp above) (String.not_lt.mp below)

/-- Keys neither of which comes before the other are one key. -/
theorem eq_of_not_precedes {k k' : StockKey} (before : ¬ k.Precedes k') (after : ¬ k'.Precedes k) : k = k' := by
  rcases k with ⟨p, v, loc⟩
  rcases k' with ⟨p', v', loc'⟩
  simp only [Precedes, not_or, not_and] at before after
  have product := String.eq_of_not_lt before.1 after.1
  subst product
  have variant := String.eq_of_not_lt (before.2 rfl).1 (after.2 rfl).1
  subst variant
  rw [String.eq_of_not_lt ((before.2 rfl).2 rfl) ((after.2 rfl).2 rfl)]

end StockKey

namespace Book

theorem keys_replace (levels : List Level) (w : Level) :
    (levels.map fun m => if m.key == w.key then w else m).map (·.key) = levels.map (·.key) := by
  rw [List.map_map]
  refine List.map_congr_left fun m _ => ?_
  by_cases same : m.key = w.key <;> simp [same]

/-- Storing a level keeps one level per key. -/
theorem nodup_store {levels : List Level} (distinct : (levels.map (·.key)).Nodup) (w : Level) :
    ((store levels w).map (·.key)).Nodup := by
  unfold store
  split
  · rw [keys_replace]
    exact distinct
  · rename_i absent
    rw [List.map_append, List.map_cons, List.map_nil, List.nodup_append]
    refine ⟨distinct, List.nodup_singleton _, fun k stored k' added same => absent ?_⟩
    obtain ⟨m, member, rfl⟩ := List.mem_map.mp stored
    rw [List.mem_singleton.mp added] at same
    exact List.any_eq_true.mpr ⟨m, member, by simp [same]⟩

theorem list_perm (b : Book) (q : LevelQuery) : (b.list q).Perm (b.levels.filter q.admits) :=
  List.mergeSort_perm _ _

theorem list_sorted (b : Book) (q : LevelQuery) : (b.list q).Pairwise (fun x y => x.key.text ≤ y.key.text) := by
  have sorted : ((b.levels.filter q.admits).mergeSort fun x y => decide (x.key.text ≤ y.key.text)).Pairwise
      (fun x y => decide (x.key.text ≤ y.key.text) = true) := List.pairwise_mergeSort
    (fun _ _ _ first second => by
      simp only [decide_eq_true_eq] at *
      exact String.le_trans first second)
    (fun x y => by simpa using String.le_total x.key.text y.key.text) (b.levels.filter q.admits)
  simpa [list] using sorted

/-- When no two listed keys read alike, the listing takes the one order of their texts:
its order depends on the keys alone. -/
theorem list_keys_eq (b : Book) (q : LevelQuery) {keys : List StockKey}
    (ordered : keys.Pairwise (fun k k' => k.text < k'.text))
    (listed : keys.Perm ((b.levels.filter q.admits).map (·.key))) : (b.list q).map (·.key) = keys := by
  have perm : ((b.list q).map (·.key)).Perm keys := ((b.list_perm q).map _).trans listed.symm
  have distinct : (keys.map (·.text)).Nodup := (List.pairwise_map.mpr ordered).imp String.ne_of_lt
  refine perm.eq_of_pairwise (fun k k' member member' le le' => ?_) (List.pairwise_map.mpr (b.list_sorted q))
    (ordered.imp String.lt_asymm)
  exact List.inj_on_of_nodup_map distinct (perm.subset member) member' (String.le_antisymm le le')

end Book

namespace Stock

/-- A stock run keeps one level per key. -/
theorem Reachable.keysDistinct {admits : Ledger → Op → Prop} {l : Ledger} (reached : Reachable admits l) :
    (l.book.levels.map (·.key)).Nodup := by
  refine reached.induction (P := fun l => (l.book.levels.map (·.key)).Nodup)
    (fun _ _ empty => by simp [empty, Book.empty]) ?_ (fun _ _ book _ distinct => book ▸ distinct)
  intro l call op inMemory _ distinct
  rcases Op.exec_cases call op inMemory with ⟨e, failed⟩ | ⟨_, _, w', _, _, _, _, wrote⟩
  · rw [failed]
    exact distinct
  · rw [wrote, Ledger.written_levels]
    exact Book.nodup_store distinct w'

/-- In memory, a level listing reads the book and changes nothing. -/
theorem levels_exec (call : Call) (q : LevelQuery) {l : Ledger} (inMemory : l.wiring.inventory = false) :
    (levels call q).exec l = (.ok (l.book.list q), l) := by
  simp [levels, LevelStore.list, LevelStore.onDatabase, inMemory]

end Stock

/-- A level listing of a stock run keeps what the database's listing keeps and sorts it by
the text of the keys. The database store sends `SELECT * FROM inventory_levels` with the
query's conjuncts, by product, variant and location, and the conjuncts keep a level,
however its row was stamped, exactly when the in-memory filter does. The memory listing
holds each admitted level once, sorted by key text. Every answer the database may give
over the same levels is a rearrangement of it, and is it when the texts of the listed
keys sort as the keys do. -/
theorem levels_listed_by_key_text {l : Ledger} (reached : Stock.Reachable Stock.everyOp l) (call : Call)
    (q : LevelQuery) :
    LevelStore.listText q = "SELECT * FROM inventory_levels" ++ Where.clause q.conjuncts ++
        " ORDER BY product_id, variant_id, location_id" ∧
      (∀ lv now, Where.passes q.conjuncts (LevelStore.levelCells lv now) q.params = q.admits lv) ∧
      ∃ listed, (Stock.levels call q).exec l = (.ok listed, l) ∧
        listed.Perm (l.book.levels.filter q.admits) ∧ (listed.map (·.key)).Nodup ∧
        listed.Pairwise (fun x y => x.key.text ≤ y.key.text) ∧
        ∀ rows, Where.Selects (fun lv => Where.passes q.conjuncts (LevelStore.levelCells lv lv.updatedAt) q.params)
            (fun x y => x.key.Precedes y.key) none l.book.levels rows →
          rows.Perm listed ∧
            ((∀ x ∈ listed, ∀ y ∈ listed, x.key.text ≤ y.key.text → ¬ y.key.Precedes x.key) → rows = listed) := by
  have distinct := reached.keysDistinct
  have keep : (fun lv => Where.passes q.conjuncts (LevelStore.levelCells lv lv.updatedAt) q.params) = q.admits :=
    funext fun lv => q.passes_conjuncts lv lv.updatedAt
  have listedOnce : ((l.book.list q).map (·.key)).Nodup :=
    ((l.book.list_perm q).map _).nodup_iff.mpr (distinct.sublist (List.filter_sublist.map _))
  -- one level per key, and the key order ties no two keys: the database has one answer
  have untied : ∀ a ∈ l.book.levels, ∀ b ∈ l.book.levels, ¬ a.key.Precedes b.key → ¬ b.key.Precedes a.key → a = b :=
    fun a member b member' before after =>
      List.inj_on_of_nodup_map distinct member member' (StockKey.eq_of_not_precedes before after)
  refine ⟨LevelStore.listText_eq q, q.passes_conjuncts, l.book.list q, Stock.levels_exec call q reached.inMemory,
    l.book.list_perm q, listedOnce, l.book.list_sorted q, fun rows selects => ?_⟩
  rw [keep] at selects
  obtain ⟨arranged, perm, -, same⟩ := id selects
  refine ⟨same ▸ perm.trans (l.book.list_perm q).symm, fun agree => ?_⟩
  have inKeyOrder : Where.Selects q.admits (fun x y => x.key.Precedes y.key) none l.book.levels (l.book.list q) :=
    ⟨l.book.list q, l.book.list_perm q,
      (l.book.list_sorted q).imp_of_mem fun member member' le => agree _ member _ member' le, rfl⟩
  exact Where.Selects.unique untied selects inKeyOrder

namespace Session

/-- One unit of `p1`, two of `p10` and three of `p1` in variant `b`, each set at the main
warehouse. -/
def keyedRun : Ledger :=
  let plain := (((Stock.Op.run mainStock (.set 1) {}).exec {}).exec fresh).2
  let longer := (((Stock.Op.run ⟨"p10", "", Location.mainId⟩ (.set 2) {}).exec {}).exec plain).2
  (((Stock.Op.run ⟨"p1", "b", Location.mainId⟩ (.set 3) {}).exec {}).exec longer).2

theorem keyedRun_reachable : Stock.Reachable Stock.everyOp keyedRun :=
  ⟨fresh, rfl, rfl, .tail (.tail (.single (.call _ _ _ trivial)) (.call _ _ _ trivial)) (.call _ _ _ trivial)⟩

theorem keyedRun_listed :
    Stock.Reachable Stock.everyOp keyedRun ∧
      (LevelStore.listText {} = "SELECT * FROM inventory_levels" ++ Where.clause ({} : LevelQuery).conjuncts ++
          " ORDER BY product_id, variant_id, location_id" ∧
        (∀ lv now, Where.passes ({} : LevelQuery).conjuncts (LevelStore.levelCells lv now) ({} : LevelQuery).params =
          ({} : LevelQuery).admits lv) ∧
        ∃ listed, (Stock.levels {} {}).exec keyedRun = (.ok listed, keyedRun) ∧
          listed.Perm (keyedRun.book.levels.filter ({} : LevelQuery).admits) ∧ (listed.map (·.key)).Nodup ∧
          listed.Pairwise (fun x y => x.key.text ≤ y.key.text) ∧
          ∀ rows, Where.Selects (fun lv => Where.passes ({} : LevelQuery).conjuncts
                (LevelStore.levelCells lv lv.updatedAt) ({} : LevelQuery).params)
              (fun x y => x.key.Precedes y.key) none keyedRun.book.levels rows →
            rows.Perm listed ∧
              ((∀ x ∈ listed, ∀ y ∈ listed, x.key.text ≤ y.key.text → ¬ y.key.Precedes x.key) → rows = listed)) :=
  ⟨keyedRun_reachable, levels_listed_by_key_text keyedRun_reachable {} {}⟩

/-- The memory listing of every level of `keyedRun` is `p10`, then `p1` in variant `b`, then
`p1`, while the database's `ORDER BY product_id, variant_id, location_id` starts with `p1`:
the listing is not the database's. Nor does a key's text tell every two keys apart: `a:b`
without a variant and `a` in variant `b` read alike. -/
theorem keyedRun_out_of_key_order :
    Stock.Reachable Stock.everyOp keyedRun ∧
      (Stock.levels {} {}).exec keyedRun = (.ok (keyedRun.book.list {}), keyedRun) ∧
      (keyedRun.book.list {}).map (·.key) =
        [⟨"p10", "", Location.mainId⟩, ⟨"p1", "b", Location.mainId⟩, mainStock] ∧
      ¬ Where.Selects (fun lv => Where.passes ({} : LevelQuery).conjuncts (LevelStore.levelCells lv lv.updatedAt)
          ({} : LevelQuery).params) (fun x y => x.key.Precedes y.key) none keyedRun.book.levels
        (keyedRun.book.list {}) ∧
      StockKey.text ⟨"a:b", "", "w"⟩ = StockKey.text ⟨"a", "b", "w"⟩ := by
  have keys : (keyedRun.book.list {}).map (·.key) =
      [⟨"p10", "", Location.mainId⟩, ⟨"p1", "b", Location.mainId⟩, mainStock] :=
    keyedRun.book.list_keys_eq {} (by decide) (by decide +kernel)
  refine ⟨keyedRun_reachable, Stock.levels_exec {} {} rfl, keys, ?_, by decide⟩
  rintro ⟨arranged, -, sorted, same⟩
  have listed : (keyedRun.book.list {}).Pairwise (fun x y => ¬ y.key.Precedes x.key) := same ▸ sorted
  have inKeyOrder : ((keyedRun.book.list {}).map (·.key)).Pairwise (fun k k' => ¬ k'.Precedes k) :=
    List.pairwise_map.mpr listed
  rw [keys] at inKeyOrder
  exact absurd inKeyOrder (by decide)

end Session

end StockLedger
