import StockLedger.Failure
import StockLedger.Time.Instant

/-!
Transfers move stock between two locations. A transfer has one line per product
variant; each line records whether its units are reserved at the source and how many
have shipped and arrived. A transfer is pending, then in progress once every line is
reserved, and ends completed or cancelled. Lines are merged on entry, so each line
stands for the sum of the quantities submitted for its product variant.
-/

namespace StockLedger

/-- Where a transfer stands. `other` keeps a status this ledger does not write. -/
inductive TransferStatus where
  | pending
  | inProgress
  | completed
  | cancelled
  | other (name : String)
deriving DecidableEq, Repr

namespace TransferStatus

/-- The stored name of a status. -/
def name : TransferStatus → String
  | .pending => "pending"
  | .inProgress => "in_progress"
  | .completed => "completed"
  | .cancelled => "cancelled"
  | .other n => n

/-- The status a stored name stands for. -/
def ofName (n : String) : TransferStatus :=
  match n with
  | "pending" => .pending
  | "in_progress" => .inProgress
  | "completed" => .completed
  | "cancelled" => .cancelled
  | unknown => .other unknown

/-- Whether a transfer can still be started, completed or cancelled. -/
def isOpen : TransferStatus → Bool
  | .pending | .inProgress => true
  | _ => false

end TransferStatus

/-- One line of a transfer and its progress. -/
structure TransferLine where
  product : String
  variant : String
  quantity : Int64
  reserved : Bool
  shipped : Int64
  received : Int64
deriving DecidableEq, Repr

/-- A request to move units of one product variant. -/
structure LineRequest where
  product : String
  variant : String
  quantity : Int64
deriving DecidableEq, Repr

namespace LineRequest

/-- A line request needs a product and a positive quantity. -/
def check (r : LineRequest) : Except Failure Unit :=
  if r.product = "" then .error (.withDetail .transferInvalid "product id is required")
  else if r.quantity ≤ 0 then .error (.withDetail .nonPositive (Quantity.text r.quantity))
  else .ok ()

end LineRequest

namespace TransferLine

/-- Adds a request to the line of its product variant, or opens a new line last. -/
def merge : List TransferLine → LineRequest → List TransferLine
  | [], r => [⟨r.product, r.variant, r.quantity, false, 0, 0⟩]
  | l :: rest, r =>
    if l.product = r.product ∧ l.variant = r.variant then
      { l with quantity := l.quantity + r.quantity } :: rest
    else l :: merge rest r

end TransferLine

/-- A stock transfer between two locations. -/
structure Transfer where
  id : String
  source : String
  destination : String
  status : TransferStatus
  lines : List TransferLine
  expectedArrival : Option Instant
  arrivedAt : Option Instant
  notes : Option String
  createdAt : Instant
  /-- When the record was last written, as a stored row gives it; a record kept in
  memory keeps the unset instant, since this time is never shown. -/
  updatedAt : Instant := Instant.zero
  /-- Whether the record carries no line list at all rather than a list, empty or not;
  a stored record without lines is read back so. -/
  linesAbsent : Bool := false
deriving DecidableEq

namespace Transfer

/-- The reference every stock operation of a transfer records. -/
def reference (id : String) : String := "transfer " ++ id

/-- The lock key that serialises changes of a transfer. -/
def lockKey (id : String) : String := "transfer:" ++ id

end Transfer

/-- Which transfers a listing asks for; empty texts select everything. The location
matches either end. -/
structure TransferQuery where
  status : String := ""
  location : String := ""

namespace TransferQuery

/-- Whether a transfer passes the query. -/
def admits (q : TransferQuery) (t : Transfer) : Bool :=
  (q.status == "" || t.status.name == q.status) &&
  (q.location == "" || t.source == q.location || t.destination == q.location)

end TransferQuery

end StockLedger
