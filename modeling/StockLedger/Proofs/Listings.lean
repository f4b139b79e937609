import StockLedger.Store.Levels

/-!
What a listing statement selects on the database. The stores list levels and log entries
with `SELECT * FROM t WHERE c₁ AND … AND cₙ ORDER BY … LIMIT n`, each conjunct comparing
a column with a named parameter, another column or zero. A conjunct holds of a row when
its comparison is true; a comparison with null is unknown, and an unknown conjunct drops
the row as a false one does. `Where.Selects` is what such a statement may answer over a
table: the rows that pass, each as often as it is stored, arranged so that none comes
after one the order puts behind it, and cut to the limit.

The statements the level store sends are of this form (`LevelStore.historyText_eq`,
`LevelStore.listText_eq`), and the conjuncts of each select exactly what the in-memory
filter of its query keeps (`AdjustmentQuery.passes_conjuncts`, `LevelQuery.passes_conjuncts`).
-/

namespace StockLedger

namespace Instant

@[simp] theorem lt_iff_ticks (a b : Instant) : a < b ↔ a.ticks < b.ticks := Iff.rfl

@[simp] theorem le_iff_ticks (a b : Instant) : a ≤ b ↔ a.ticks ≤ b.ticks := Iff.rfl

end Instant

namespace Where

/-- One side of a comparison: a column of the row, a named parameter, or zero. -/
inductive Operand where
  | column (name : String)
  | param (name : String)
  | zero

inductive Comparison where
  | eq
  | lt
  | le
  | gt
  | ge

structure Conjunct where
  left : Operand
  comparison : Comparison
  right : Operand

/-- The cell stored under a name, null when there is none: a row's column or a
parameter's value, as the statement is bound. -/
def lookup (cells : List (String × Cell)) (name : String) : Cell :=
  ((cells.find? (·.1 == name)).map (·.2)).getD .null

namespace Operand

def text : Operand → String
  | column c => c
  | param p => ":" ++ p
  | zero => "0"

def value (row params : List (String × Cell)) : Operand → Cell
  | column c => lookup row c
  | param p => lookup params p
  | zero => .int 0

end Operand

namespace Comparison

def text : Comparison → String
  | eq => "="
  | lt => "<"
  | le => "<="
  | gt => ">"
  | ge => ">="

/-- Whether the comparison holds between two values ordered by `<`. -/
def holds {α : Type} [LT α] [DecidableEq α] [DecidableRel (α := α) (· < ·)] (c : Comparison) (a b : α) : Bool :=
  match c with
  | eq => decide (a = b)
  | lt => decide (a < b)
  | le => decide (a < b ∨ a = b)
  | gt => decide (b < a)
  | ge => decide (b < a ∨ a = b)

/-- The truth of a comparison of two cells: text by its characters, integers and
instants by value, and unknown (none) when either is null or they are of two types. -/
def test (c : Comparison) : Cell → Cell → Option Bool
  | .text a, .text b => some (c.holds a b)
  | .int a, .int b => some (c.holds a.toInt b.toInt)
  | .time a, .time b => some (c.holds a.ticks b.ticks)
  | _, _ => none

end Comparison

namespace Conjunct

def text (c : Conjunct) : String := c.left.text ++ " " ++ c.comparison.text ++ " " ++ c.right.text

/-- Whether a row passes the conjunct under the statement's parameters: its comparison
is true, not false or unknown. -/
def passes (row params : List (String × Cell)) (c : Conjunct) : Bool :=
  c.comparison.test (c.left.value row params) (c.right.value row params) == some true

end Conjunct

/-- The WHERE clause of some conjuncts as it follows a table's name; nothing for none. -/
def clause (cs : List Conjunct) : String :=
  if cs.isEmpty then "" else " WHERE " ++ " AND ".intercalate (cs.map Conjunct.text)

/-- Whether a row passes every conjunct. -/
def passes (cs : List Conjunct) (row params : List (String × Cell)) : Bool :=
  cs.all (·.passes row params)

/-- The first `n` rows under `LIMIT n`, or all of them without a limit. -/
def cut {α : Type} : Option Nat → List α → List α
  | some n, rows => rows.take n
  | none, rows => rows

/-- What `SELECT * FROM t WHERE … ORDER BY … LIMIT n` may answer over table `t`: the rows
`keep` passes, each as often as it is stored, with none after a row that `before` puts
behind it, cut to the limit. Rows the order ties may come in either order. -/
def Selects {α : Type} (keep : α → Bool) (before : α → α → Prop) (limit : Option Nat)
    (table answer : List α) : Prop :=
  ∃ arranged, arranged.Perm (table.filter keep) ∧ arranged.Pairwise (fun a b => ¬ before b a) ∧
    answer = cut limit arranged

namespace Comparison

@[simp] theorem holds_eq {α : Type} [LT α] [DecidableEq α] [DecidableRel (α := α) (· < ·)] (a b : α) :
    eq.holds a b = decide (a = b) := rfl

@[simp] theorem holds_le_int (a b : Int) : le.holds a b = decide (a ≤ b) := by
  simp only [holds, decide_eq_decide]
  omega

@[simp] theorem holds_ge_int (a b : Int) : ge.holds a b = decide (b ≤ a) := by
  simp only [holds, decide_eq_decide]
  omega

@[simp] theorem holds_gt_int (a b : Int) : gt.holds a b = decide (b < a) := rfl

end Comparison

theorem passes_append (cs ds : List Conjunct) (row params : List (String × Cell)) :
    passes (cs ++ ds) row params = (passes cs row params && passes ds row params) :=
  List.all_append

@[simp] theorem passes_nil (row params : List (String × Cell)) : passes [] row params = true := rfl

@[simp] theorem passes_cons (c : Conjunct) (cs : List Conjunct) (row params : List (String × Cell)) :
    passes (c :: cs) row params = (c.passes row params && passes cs row params) := rfl

/-- A filter the query may leave unset adds its conjunct only when set. -/
theorem passes_unless (unset : Prop) [Decidable unset] (c : Conjunct) (row params : List (String × Cell)) :
    passes (if unset then [] else [c]) row params = (decide unset || c.passes row params) := by
  by_cases h : unset <;> simp [h]

theorem pairwise_cut {α : Type} {R : α → α → Prop} {rows : List α} (sorted : rows.Pairwise R)
    (limit : Option Nat) : (cut limit rows).Pairwise R := by
  cases limit with
  | some n => exact sorted.take
  | none => exact sorted

/-- A strict order that ties no two rows of a table leaves a statement one answer. -/
theorem Selects.unique {α : Type} {keep : α → Bool} {before : α → α → Prop} {limit : Option Nat}
    {table answer answer' : List α}
    (strict : ∀ a ∈ table, ∀ b ∈ table, ¬ before a b → ¬ before b a → a = b)
    (selects : Selects keep before limit table answer) (selects' : Selects keep before limit table answer') :
    answer = answer' := by
  obtain ⟨arranged, perm, sorted, rfl⟩ := selects
  obtain ⟨arranged', perm', sorted', rfl⟩ := selects'
  have same : arranged = arranged' := by
    refine (perm.trans perm'.symm).eq_of_pairwise (fun a b member member' ab ba => ?_) sorted sorted'
    exact strict a (List.mem_filter.mp (perm.subset member)).1 b
      (List.mem_filter.mp (perm'.subset member')).1 ba ab
  rw [same]

end Where

namespace AdjustmentQuery

/-- The conjuncts of a log query's listing statement, one for each filter it sets. -/
def conjuncts (q : AdjustmentQuery) : List Where.Conjunct :=
  (if q.product = "" then [] else [⟨.column "product_id", .eq, .param "product_id"⟩]) ++
  (if q.location = "" then [] else [⟨.column "location_id", .eq, .param "location_id"⟩]) ++
  (if q.kind = "" then [] else [⟨.column "adjustment_type", .eq, .param "adjustment_type"⟩]) ++
  (if q.reference = "" then [] else [⟨.column "reference", .eq, .param "reference"⟩]) ++
  (if q.start.isNone then [] else [⟨.column "created_at", .ge, .param "start_date"⟩]) ++
  (if q.stop.isNone then [] else [⟨.column "created_at", .le, .param "end_date"⟩])

/-- The parameters a log query's listing statement is sent with. -/
def params (q : AdjustmentQuery) : List (String × Cell) :=
  [("product_id", .text q.product), ("location_id", .text q.location),
   ("adjustment_type", .text q.kind), ("reference", .text q.reference),
   ("start_date", .ofTime q.start), ("end_date", .ofTime q.stop)]

/-- The cut a log query asks for: its limit when it is positive. -/
def cutoff (q : AdjustmentQuery) : Option Nat := if q.limit > 0 then some q.limit.toNat else none

/-- An entry answers a query when it has every property the query sets: its product,
location and kind, its reference (an entry without one answers no query that names
one), and a time inside the window, both ends included. -/
structure Matches (q : AdjustmentQuery) (a : Adjustment) : Prop where
  product : q.product = "" ∨ a.key.product = q.product
  location : q.location = "" ∨ a.key.location = q.location
  kind : q.kind = "" ∨ a.kind.name = q.kind
  reference : q.reference = "" ∨ a.reference = some q.reference
  start : ∀ s ∈ q.start, s ≤ a.createdAt
  stop : ∀ e ∈ q.stop, a.createdAt ≤ e

theorem admits_iff_matches (q : AdjustmentQuery) (a : Adjustment) : q.admits a = true ↔ q.Matches a := by
  have spelled : q.admits a = true ↔ (q.product = "" ∨ a.key.product = q.product) ∧
      (q.location = "" ∨ a.key.location = q.location) ∧ (q.kind = "" ∨ a.kind.name = q.kind) ∧
      (q.reference = "" ∨ a.reference = some q.reference) ∧ (∀ s ∈ q.start, s ≤ a.createdAt) ∧
      ∀ e ∈ q.stop, a.createdAt ≤ e := by
    rcases q with ⟨product, location, kind, reference, start, stop, limit⟩
    cases start <;> cases stop <;> simp [admits, and_assoc]
  rw [spelled]
  constructor
  · rintro ⟨p, l, k, r, s, e⟩
    exact ⟨p, l, k, r, s, e⟩
  · rintro ⟨p, l, k, r, s, e⟩
    exact ⟨p, l, k, r, s, e⟩

end AdjustmentQuery

namespace LevelQuery

/-- The conjuncts of a level query's listing statement, one for each filter it sets; a
low-stock filter sets two. -/
def conjuncts (q : LevelQuery) : List Where.Conjunct :=
  (if q.product = "" then [] else [⟨.column "product_id", .eq, .param "product_id"⟩]) ++
  (if q.location = "" then [] else [⟨.column "location_id", .eq, .param "location_id"⟩]) ++
  (if q.low then [⟨.column "available", .gt, .zero⟩, ⟨.column "available", .le, .column "low_stock_threshold"⟩]
   else []) ++
  (if q.out then [⟨.column "available", .le, .zero⟩] else []) ++
  (if q.reorder then [⟨.column "available", .le, .column "reorder_point"⟩] else [])

/-- The parameters a level query's listing statement is sent with. -/
def params (q : LevelQuery) : List (String × Cell) :=
  [("product_id", .text q.product), ("location_id", .text q.location)]

end LevelQuery

namespace LevelStore

/-- A stored log entry as a row: its number and the columns it was written with. -/
def entryRow (a : Adjustment) : List (String × Cell) := ("seq", .int a.seq) :: entryCells a

/-- The log listing is `SELECT * FROM inventory_adjustments`, the query's conjuncts,
newest first and the limit when it is positive. -/
theorem historyText_eq (q : AdjustmentQuery) :
    historyText q = "SELECT * FROM inventory_adjustments" ++ Where.clause q.conjuncts ++
      " ORDER BY seq DESC" ++ (if q.limit > 0 then " LIMIT " ++ toString q.limit else "") := by
  have texts : q.conjuncts.map Where.Conjunct.text =
      (if q.product = "" then [] else ["product_id = :product_id"]) ++
      (if q.location = "" then [] else ["location_id = :location_id"]) ++
      (if q.kind = "" then [] else ["adjustment_type = :adjustment_type"]) ++
      (if q.reference = "" then [] else ["reference = :reference"]) ++
      (if q.start.isNone then [] else ["created_at >= :start_date"]) ++
      (if q.stop.isNone then [] else ["created_at <= :end_date"]) := by
    simp only [AdjustmentQuery.conjuncts, List.map_append, apply_ite (List.map Where.Conjunct.text),
      List.map_nil, List.map_cons, Where.Conjunct.text, Where.Operand.text, Where.Comparison.text,
      String.reduceAppend]
  unfold historyText Where.clause
  rw [← texts]
  simp only [List.isEmpty_map]

/-- The level listing is `SELECT * FROM inventory_levels` and the query's conjuncts, by
product, variant and location. -/
theorem listText_eq (q : LevelQuery) :
    listText q = "SELECT * FROM inventory_levels" ++ Where.clause q.conjuncts ++
      " ORDER BY product_id, variant_id, location_id" := by
  unfold listText Where.clause LevelQuery.conjuncts
  -- the low-stock condition is written as one text and is two conjuncts
  by_cases p : q.product = "" <;> by_cases loc : q.location = "" <;> cases q.low <;> cases q.out <;>
    cases q.reorder <;> simp only [p, loc, if_true, if_false, Bool.false_eq_true] <;> rfl

end LevelStore

namespace AdjustmentQuery

/-- The listing statement's conjuncts keep exactly the entries the in-memory filter keeps. -/
theorem passes_conjuncts (q : AdjustmentQuery) (a : Adjustment) :
    Where.passes q.conjuncts (LevelStore.entryRow a) q.params = q.admits a := by
  rcases q with ⟨product, location, kind, reference, start, stop, limit⟩
  simp only [conjuncts, Where.passes_append, Where.passes_unless, admits]
  cases start <;> cases stop <;> cases hr : a.reference <;>
    simp [Where.Conjunct.passes, Where.Operand.value, Where.lookup, LevelStore.entryRow, LevelStore.entryCells,
      params, Where.Comparison.test, Cell.ofOption, Cell.ofTime, hr, Bool.beq_eq_decide_eq, ← decide_not]

end AdjustmentQuery

namespace LevelQuery

/-- The listing statement's conjuncts keep exactly the levels the in-memory filter keeps,
whatever instant the row was stamped with. -/
theorem passes_conjuncts (q : LevelQuery) (lv : Level) (now : Instant) :
    Where.passes q.conjuncts (LevelStore.levelCells lv now) q.params = q.admits lv := by
  rcases q with ⟨product, location, low, out, reorder⟩
  simp only [conjuncts, Where.passes_append, Where.passes_unless, admits]
  cases low <;> cases out <;> cases reorder <;>
    simp [Where.Conjunct.passes, Where.Operand.value, Where.lookup, LevelStore.levelCells, params,
      Where.Comparison.test, Bool.beq_eq_decide_eq, Level.isLow, Level.isOut, Level.needsReorder,
      Int64.lt_iff_toInt_lt, Int64.le_iff_toInt_le]

end LevelQuery

end StockLedger
