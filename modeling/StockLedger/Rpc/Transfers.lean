import StockLedger.Rpc.Method
import StockLedger.Ledger.Transfers

/-!
The transfer service: creating a transfer between two locations, adding lines to it,
and moving it through its life (start, complete, cancel). Each answers with the transfer
under `transfer`; a transfer read back from the store with no lines shows them as
`null`.
-/

namespace StockLedger

namespace TransferService

open Method

/-- The full name of the service. -/
def name : String := "omnipos.inventory.v1.TransferService"

/-- The fields of a requested line. -/
def lineFields : List (String × Shape) :=
  [textField "product_id", textField "variant_id", intField "quantity"]

/-- The shape of a requested line. -/
def lineShape : Shape := .record "itemRequest" "handler.itemRequest" lineFields

/-- A requested line from its held form, its fields starting at `first`. -/
def lineOf (h : Held) (first : Nat) : LineRequest :=
  ⟨(h.field first).asText, (h.field (first + 1)).asText, (h.field (first + 2)).asInt⟩

/-- The answer holding one transfer. -/
def transferReply (t : Transfer) : Run Json := do
  writable (Render.transferTimes t)
  return .object [("transfer", Render.transfer (← Run.now) t)]

/-- Creates a transfer. -/
def createTransfer : Method := fun call doc => do
  let h ← decode (.record "" "struct"
    [textField "from_location_id", textField "to_location_id", textField "notes",
     timeOptField "expected_arrival", ("items", .list lineShape "[]handler.itemRequest")]) doc
  let req : TransferRequest :=
    { source := (h.field 0).asText, destination := (h.field 1).asText, notes := (h.field 2).asText,
      expectedArrival := (h.field 3).asInstant?, lines := (h.field 4).asList.map (lineOf · 0) }
  return do transferReply (← Transfers.create call req)

/-- Adds a line to a transfer. -/
def addItem : Method := fun call doc => do
  let h ← decode (.record "" "struct" ([textField "id"] ++ lineFields)) doc
  let id := (h.field 0).asText
  require "id" id
  return do transferReply (← Transfers.addLine call id (lineOf h 1))

/-- A method acting on the transfer a request names by `id`. -/
def byId (act : Call → String → Run Transfer) : Method := fun call doc => do
  let h ← decode (.record "" "struct" [textField "id"]) doc
  let id := (h.field 0).asText
  require "id" id
  return do transferReply (← act call id)

/-- Lists the transfers in a status and touching a location. -/
def listTransfers : Method := fun call doc => do
  let h ← decode (.record "" "struct" [textField "status", textField "location_id"]) doc
  let q : TransferQuery := { status := (h.field 0).asText, location := (h.field 1).asText }
  return do
    let ts ← TransferStore.all call q
    writable (ts.flatMap Render.transferTimes)
    let clock ← Run.now
    return .object [("transfers", .array (ts.map (Render.transfer clock)))]

/-- The methods of the service. -/
def methods : List (String × Method) :=
  [("CreateTransfer", createTransfer), ("AddItem", addItem),
   ("GetTransfer", byId TransferStore.find), ("ListTransfers", listTransfers),
   ("StartTransfer", byId Transfers.startTransfer), ("CompleteTransfer", byId Transfers.complete),
   ("CancelTransfer", byId Transfers.cancel)]

end TransferService

end StockLedger
