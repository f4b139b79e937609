import StockLedger.Failure
import StockLedger.Stock.Adjustment

/-!
The stock book kept in memory: one level per key and the adjustment log. A write
replaces the level of its key and, when it reports a change, appends that change to
the log under the next sequence number. Listings are ordered by the text of the key.
-/

namespace StockLedger

/-- Which levels a listing asks for. Empty texts and unset flags select everything. -/
structure LevelQuery where
  product : String := ""
  location : String := ""
  low : Bool := false
  out : Bool := false
  reorder : Bool := false

namespace LevelQuery

/-- Whether a level passes every filter the query sets. -/
def admits (q : LevelQuery) (l : Level) : Bool :=
  (q.product == "" || l.key.product == q.product) &&
  (q.location == "" || l.key.location == q.location) &&
  (!q.low || l.isLow) && (!q.out || l.isOut) && (!q.reorder || l.needsReorder)

end LevelQuery

/-- A change of one figure, before the log numbers and dates it. -/
structure Change where
  kind : AdjustmentKind
  delta : Int64
  previous : Int64
  reference : Option String
  reason : String
  createdBy : Option String
deriving DecidableEq

namespace Change

/-- The log entry of a change: its number, key, identity and time added. -/
def entry (c : Change) (id : String) (seq : Int64) (key : StockKey) (time : Instant) : Adjustment where
  id := id
  seq := seq
  key := key
  kind := c.kind
  quantity := c.delta
  previous := c.previous
  next := c.previous + c.delta
  reference := c.reference
  reason := c.reason
  createdBy := c.createdBy
  createdAt := time

end Change

/-- Levels, one per key in the order keys first appeared, and the log, oldest first.
`seq` is the number of the last entry appended. -/
structure Book where
  levels : List Level
  log : List Adjustment
  seq : Int64

namespace Book

/-- The empty book. -/
def empty : Book := ⟨[], [], 0⟩

/-- The level kept for a key. -/
def find? (b : Book) (key : StockKey) : Option Level :=
  b.levels.find? (·.key == key)

/-- Levels with the level of `l.key` replaced by `l`, or `l` added last. -/
def store (levels : List Level) (l : Level) : List Level :=
  if levels.any (·.key == l.key) then levels.map (fun m => if m.key == l.key then l else m)
  else levels ++ [l]

/-- The level of a key, or the reason there is none. -/
def level (b : Book) (key : StockKey) : Except Failure Level :=
  match b.find? key with
  | some l => .ok l
  | none => .error (.withDetail .levelNotFound key.text)

/-- The level a write starts from: the stored one, a fresh one when the write may
create it, or a failure. -/
def working (b : Book) (key : StockKey) (create : Bool) : Except Failure Level :=
  match b.find? key with
  | some l => .ok l
  | none => if create then .ok (Level.fresh key) else .error (.withDetail .levelNotFound key.text)

/-- Stores a written level and appends the entry of its change, if any, numbered next. -/
def commit (b : Book) (l : Level) (entry : Option (Int64 → Adjustment)) :
    Book × Option Adjustment :=
  match entry with
  | none => ({ b with levels := store b.levels l }, none)
  | some numbered =>
    let a := numbered (b.seq + 1)
    ({ levels := store b.levels l, log := b.log ++ [a], seq := b.seq + 1 }, some a)

/-- Levels passing a query, ordered by the text of their keys. -/
def list (b : Book) (q : LevelQuery) : List Level :=
  (b.levels.filter q.admits).mergeSort (fun x y => x.key.text ≤ y.key.text)

/-- Log entries answering a query, newest first. -/
def history (b : Book) (q : AdjustmentQuery) : List Adjustment := q.select b.log

end Book

end StockLedger
