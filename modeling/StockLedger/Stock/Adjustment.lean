import StockLedger.Stock.Level

/-!
The adjustment log. Every change of stock appends one adjustment: which figure moved,
by how much, from what to what, why, and on whose behalf. Entries are numbered in the
order they are appended and never change afterwards. A query selects entries by key
fields, kind, reference and a closed time window, newest first, optionally capped.
-/

namespace StockLedger

/-- What an adjustment records. `other` keeps a kind this ledger does not write. -/
inductive AdjustmentKind where
  | received
  | shipped
  | returned
  | adjustment
  | transfer
  | reserved
  | unreserved
  | damaged
  | scrapped
  | cycleCount
  | other (name : String)
deriving DecidableEq, Repr

namespace AdjustmentKind

/-- The stored name of a kind. -/
def name : AdjustmentKind → String
  | .received => "received"
  | .shipped => "shipped"
  | .returned => "returned"
  | .adjustment => "adjustment"
  | .transfer => "transfer"
  | .reserved => "reserved"
  | .unreserved => "unreserved"
  | .damaged => "damaged"
  | .scrapped => "scrapped"
  | .cycleCount => "cycle_count"
  | .other n => n

/-- The kind a stored name stands for. -/
def ofName (n : String) : AdjustmentKind :=
  match n with
  | "received" => .received
  | "shipped" => .shipped
  | "returned" => .returned
  | "adjustment" => .adjustment
  | "transfer" => .transfer
  | "reserved" => .reserved
  | "unreserved" => .unreserved
  | "damaged" => .damaged
  | "scrapped" => .scrapped
  | "cycle_count" => .cycleCount
  | unknown => .other unknown

end AdjustmentKind

/-- One entry of the log. `next` is `previous + quantity` of the figure the kind tracks. -/
structure Adjustment where
  id : String
  seq : Int64
  key : StockKey
  kind : AdjustmentKind
  quantity : Int64
  previous : Int64
  next : Int64
  reference : Option String
  reason : String
  createdBy : Option String
  createdAt : Instant
deriving DecidableEq

/-- Which log entries a query asks for. Empty texts and absent bounds select everything;
a limit of zero or less keeps all matches. -/
structure AdjustmentQuery where
  product : String := ""
  location : String := ""
  kind : String := ""
  reference : String := ""
  start : Option Instant := none
  stop : Option Instant := none
  limit : Int := 0

namespace AdjustmentQuery

/-- Whether an entry passes every filter the query sets. An entry without a reference
never passes a reference filter. -/
def admits (q : AdjustmentQuery) (a : Adjustment) : Bool :=
  (q.product == "" || a.key.product == q.product) &&
  (q.location == "" || a.key.location == q.location) &&
  (q.kind == "" || a.kind.name == q.kind) &&
  (q.reference == "" || a.reference == some q.reference) &&
  (match q.start with | some s => !(a.createdAt < s) | none => true) &&
  (match q.stop with | some e => !(e < a.createdAt) | none => true)

/-- The answer to a query over a log kept oldest first: matching entries newest first,
the first `limit` of them when the limit is positive. -/
def select (q : AdjustmentQuery) (log : List Adjustment) : List Adjustment :=
  let hits := log.reverse.filter q.admits
  if q.limit > 0 then hits.take q.limit.toNat else hits

end AdjustmentQuery

end StockLedger
