import StockLedger.Rpc.Status
import StockLedger.Rpc.Render
import StockLedger.Json.Bind
import StockLedger.Ledger.State

/-!
Methods of the call services. A method gets the caller's call and the request as the
JSON document of its payload (none when the payload holds a value that cannot be
written, such as a number that is not finite). It reads the document into its request
record, refusing the call with `InvalidArgument` when that fails or a required field is
empty, and otherwise gives the ledger work whose result is the response.
-/

namespace StockLedger

/-- A method of a call service. -/
abbrev Method := Call → Option Json → Except Status (Run Json)

namespace Method

/-- Reads a request document into a record shape. -/
def decode (shape : Shape) : Option Json → Except Status Held
  | none => .error (.unreadable "proto: invalid value in request")
  | some j =>
    match shape.bind j with
    | .ok h => .ok h
    | .error m => .error (.unreadable m)

/-- Refuses a call whose required field is empty. -/
def require (field value : String) : Except Status Unit :=
  if value = "" then .error (Status.required field) else .ok ()

/-- A text field of a request record. -/
def textField (name : String) : String × Shape := (name, .text)

/-- A 64-bit integer field of a request record. -/
def intField (name : String) : String × Shape := (name, .integer "int64")

/-- A platform-sized integer field of a request record. -/
def natField (name : String) : String × Shape := (name, .integer "int")

/-- An optional 64-bit integer field of a request record. -/
def intOptField (name : String) : String × Shape := (name, .optional (.integer "int64"))

/-- An optional instant field of a request record. -/
def timeOptField (name : String) : String × Shape := (name, .optional .instant)

/-- Refuses to write a response carrying a time that is not a strict RFC 3339
timestamp; the work done before stays done. -/
def writable (ts : List Instant) : Run Unit :=
  match ts.findSome? Rfc3339.strictFault? with
  | some why =>
    Run.fail (.plain ("json: error calling MarshalJSON for type time.Time: Time.MarshalJSON: " ++ why))
  | none => pure ()

/-- The integer of an optional field, if given. -/
def intOpt (h : Held) : Option Int64 := h.asPresent?.map Held.asInt

end Method

end StockLedger
