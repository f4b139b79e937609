import StockLedger.Rpc.Service
import StockLedger.Wire.Protobuf
import StockLedger.Console.Request

/-!
Console operations that call the services. `rpc` calls a method directly, with the
request's `user` as the caller unless a non-empty `md_user` header names one. `grpc`
calls it as a remote caller would: only the header crosses, and it must be printable
ASCII; a cancelled or expired call ends before it is sent; the path `/service/method` is
split at its last slash, and an unknown service or method is `Unimplemented`; and the
request may be given as raw message bytes in hexadecimal, which must read as a payload.

A request payload is the `request` object (`{}` when absent), with the field
`nan_field` names, unless that name is empty, set to a number that is not finite; for
a direct call with `request_nil` set to `true` it is `{}` alone.
-/

namespace StockLedger

namespace Calls

/-- The payload a request object describes; `nil` reads it as empty. -/
def payloadOf (op : Json) (nil : Bool) : Except String Payload := do
  let given ← match Request.get? op "request" with
    | none => pure (Payload.struct [])
    | some (.object ms) => pure (Payload.ofJson (.object ms))
    | some _ => throw "request must be a JSON object"
  match Request.get? op "nan_field" with
  | none => return if nil then Payload.struct [] else given
  | some (.string f) =>
    if nil then return Payload.struct []
    if f = "" then return given
    match given with
    | .struct fs => return .struct (Payload.setField fs f .notFinite)
    | other => return other
  | some _ => throw "field nan_field must be a string"

/-- The header user of a request, if one is sent. -/
def headerOf (op : Json) : Option String :=
  match Request.get? op "md_user" with
  | some (.string u) => some u
  | _ => none

/-- A direct call: the method a request names, run in the request's call. -/
def direct (op : Json) : Except String (Run (Except Status Json)) := do
  let service ← Request.text op "service"
  let methodName ← Request.text op "method"
  let methods ← match Services.methodsOf? service with
    | some ms => pure ms
    | none => throw ("unknown service " ++ Text.quote service)
  let m ← match Services.method? methods methodName with
    | some m => pure m
    | none => throw ("unknown method " ++ Text.quote methodName)
  let payload ← payloadOf op (Request.switch op "request_nil")
  let header := headerOf op
  let user := match header with
    | some u => if u = "" then none else some u
    | none => none
  let given := match Request.get? op "user" with
    | some (.string u) => if u = "" then none else some u
    | _ => none
  let call : Call :=
    { user := user.or given, headerUser := header, cancelled := Request.switch op "cancelled",
      expired := Request.switch op "deadline_passed" }
  return Services.perform m call payload.toJson

/-- Whether a header value can be sent: every byte is printable ASCII. -/
def sendable (value : String) : Bool :=
  value.toUTF8.toList.all fun b => 0x20 ≤ b && b ≤ 0x7E

/-- A remote call: the method a request names, reached the way a remote caller reaches
it. -/
def remote (op : Json) : Except String (Run (Except Status Json)) := do
  let _ ← Request.flag op "plain"
  let service ← Request.text op "service"
  let methodName ← Request.text op "method"
  let payload ← payloadOf op false
  let raw ← match op.field? "raw_hex" with
    | none => pure none
    | some given =>
      let h := match given with
        | .string h => h
        | _ => ""
      match Protobuf.hexBytes h with
      | some bs => pure (some bs)
      | none => throw "raw_hex must be hex"
  let ended (s : Status) : Run (Except Status Json) := pure (.error s)
  if !((headerOf op).all sendable) then
    return ended ⟨.internal, "header key \"x-user-id\" contains value with non-printable ASCII characters"⟩
  if Request.switch op "cancelled" then return ended ⟨.canceled, "context canceled"⟩
  if Request.switch op "deadline_passed" then return ended ⟨.deadlineExceeded, "context deadline exceeded"⟩
  let path := Services.fullName service ++ "/" ++ methodName
  let (target, name) := Services.splitPath path
  match Services.methodsOf? target with
  | none => return ended ⟨.unimplemented, "unknown service " ++ target⟩
  | some methods =>
    match Services.method? methods name with
    | none => return ended ⟨.unimplemented, "unknown method " ++ name ++ " for service " ++ target⟩
    | some m =>
      let sent : Option Payload := match raw with
        | some bs => Protobuf.payload bs
        | none => some payload
      match sent with
      | none => return ended ⟨.internal, "grpc: error unmarshalling request"⟩
      | some p => return Services.perform m { headerUser := headerOf op } p.toJson

end Calls

end StockLedger
