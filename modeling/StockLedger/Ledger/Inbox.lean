import StockLedger.Ledger.Orders
import StockLedger.Ledger.Feeds
import StockLedger.Json.Read
import StockLedger.Json.Bind

/-!
Messages from the broker. An order message carries an event type, a payload with the
order id, an optional location and the order lines, and a timestamp; a sync message
carries a source id and its changes. A message that is not JSON, does not fit its
shape, names an unknown order event or (for sync) no source is dropped without effect;
failures of the operations a message starts are dropped too.
-/

namespace StockLedger

namespace Inbox

/-- The shape of an order line. -/
def orderLine : Shape :=
  .record "OrderItemPayload" "listener.OrderItemPayload"
    [("product_id", .text), ("variant_id", .text), ("quantity", .integer "int64")]

/-- The shape of an order message. -/
def orderMessage : Shape :=
  .record "OrderEvent" "listener.OrderEvent"
    [("event_id", .text), ("event_type", .text),
     ("payload", .record "OrderPayload" "listener.OrderPayload"
        [("id", .text), ("location_id", .text), ("items", .list orderLine "[]listener.OrderItemPayload")]),
     ("timestamp", .instant)]

/-- The shape of a reported change. -/
def change : Shape :=
  .record "InventoryChange" "model.InventoryChange"
    [("product_id", .text), ("sku", .text), ("location_id", .text), ("quantity", .integer "int64"),
     ("change_type", .text), ("source_timestamp", .optional .instant)]

/-- The shape of a sync message. -/
def syncMessage : Shape :=
  .record "SyncBatch" "dto.SyncBatch"
    [("source_id", .text), ("changes", .list change "[]model.InventoryChange")]

/-- A reported change read from its held form. -/
def changeOf (h : Held) : ReportedChange where
  product := (h.field 0).asText
  sku := (h.field 1).asText
  location := (h.field 2).asText
  quantity := (h.field 3).asInt
  changeType := (h.field 4).asText

/-- Reads a message body against a shape. -/
def decode (s : Shape) (body : String) : Option Held :=
  match Json.parse body with
  | .error _ => none
  | .ok j =>
    match s.bind j with
    | .ok h => some h
    | .error _ => none

/-- Handles one order message. -/
def order (call : Call) (body : String) : Run Unit := do
  match decode orderMessage body with
  | none => pure ()
  | some h =>
    match OrderChange.ofName? (h.field 1).asText with
    | none => pure ()
    | some change =>
      let payload := h.field 2
      let lines := (payload.field 2).asList.map fun l =>
        ({ product := (l.field 0).asText, variant := (l.field 1).asText, quantity := (l.field 2).asInt } : OrderLine)
      Orders.apply call change (payload.field 0).asText (payload.field 1).asText lines

/-- Handles one sync message. -/
def sync (call : Call) (body : String) : Run Unit := do
  match decode syncMessage body with
  | none => pure ()
  | some h =>
    let source := (h.field 0).asText
    if source = "" then pure ()
    else
      let _ ← Run.attempt (Feeds.applyBatch call source ((h.field 1).asList.map changeOf))

end Inbox

end StockLedger
