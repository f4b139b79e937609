import StockLedger.Ledger.Stock
import StockLedger.Ledger.Places
import StockLedger.Store.Transfers

/-!
The two-phase transfer engine. Starting reserves every line at the source and is all
or nothing: a reservation that fails releases the ones made before it. Finishing ships
each line from the source and receives it at the destination. Cancelling returns what
left the source without arriving and releases what is still reserved.

Every step saves the transfer's journal after its stock operation. A save can be lost;
the engine then learns from the log which sides already happened, counting the entries
under the transfer's reference for the line's product variant at the location: an
entry of the side counts one, an entry undoing it (a release after a reservation)
counts minus one, and the side happened when the count is positive.
-/

namespace StockLedger

/-- What creating a transfer asks for. -/
structure TransferRequest where
  source : String
  destination : String
  notes : String
  expectedArrival : Option Instant
  lines : List LineRequest

namespace Transfer

/-- The transfer with the line at an index replaced. -/
def setLine (t : Transfer) (i : Nat) (line : TransferLine) : Transfer :=
  { t with lines := t.lines.set i line }

end Transfer

namespace Transfers

open Run

/-- Saves a transfer's journal. On a ledger whose journal can be made to fail, a set
journal trap that the write springs makes it fail once instead, leaving the stored
record as it was. -/
def save (call : Call) (t : Transfer) : Run Unit := do
  let l ← get
  match l.trap with
  | some j =>
    if l.trappable && j.springs t then
      set { l with trap := none }
      fail (.cause .journalWrite none)
  | none => pure ()
  TransferStore.update call t

/-- The undoing kind of a side nothing undoes: the empty kind, which no entry the
ledger writes has, though an entry read back without a kind does. -/
def noUndo : AdjustmentKind := .other ""

/-- Whether the log holds one side of a line at a location: entries of kind `side`
count one, entries of kind `undo` minus one. -/
def applied (call : Call) (t : Transfer) (line : TransferLine) (location : String) (side : AdjustmentKind)
    (undo : AdjustmentKind) : Run Bool := do
  let entries ← Stock.history call { product := line.product, location, reference := Transfer.reference t.id }
  let n := entries.foldl (fun (n : Int) e =>
    if e.key.variant != line.variant then n
    else if e.kind == side then n + 1
    else if e.kind == undo then n - 1
    else n) 0
  return n > 0

/-- A stock operation of a transfer line at a location. -/
def lineMove (call : Call) (t : Transfer) (line : TransferLine) (location : String)
    (move : Int64 → Move) (reason : String) : Run Level :=
  Stock.run call ⟨line.product, line.variant, location⟩ (move line.quantity)
    { reference := Transfer.reference t.id, reason }

/-- Releases the reservation of one line if the log still holds it, collecting a
failure instead of stopping. -/
def releaseLine (call : Call) : Transfer × List Failure → Nat → Run (Transfer × List Failure)
  | (t, errs), i => do
    match t.lines[i]? with
    | none => return (t, errs)
    | some line =>
      match ← attempt (applied call t line t.source .shipped noUndo) with
      | .error e => return (t, errs ++ [e])
      | .ok true => return (t.setLine i { line with reserved := false }, errs)
      | .ok false =>
        match ← attempt (applied call t line t.source .reserved .unreserved) with
        | .error e => return (t, errs ++ [e])
        | .ok held =>
          if held then
            match ← attempt (lineMove call t line t.source .release "Transfer reservation released") with
            | .error e => return (t, errs ++ [e])
            | .ok _ => return (t.setLine i { line with reserved := false }, errs)
          else return (t.setLine i { line with reserved := false }, errs)

/-- Releases every reservation of the transfer the log still holds; shipped lines hold
none. Failures are collected and the remaining lines still handled. -/
def releaseAll (call : Call) (t : Transfer) : Run (Transfer × List Failure) :=
  (List.range t.lines.length).foldlM (releaseLine call) (t, [])

/-- Reserves one line at the source unless it is reserved already; a failed reservation
releases the others, saves the journal and fails. -/
def startLine (call : Call) (t : Transfer) (i : Nat) : Run Transfer := do
  match t.lines[i]? with
  | none => return t
  | some line =>
    if line.reserved then return t
    let done ← applied call t line t.source .reserved .unreserved
    if !done then
      match ← attempt (lineMove call t line t.source .reserve "Reserved for transfer") with
      | .ok _ => pure ()
      | .error e =>
        let (t', _) ← releaseAll call t
        let _ ← attempt (save call t')
        fail e
    let t := t.setLine i { line with reserved := true }
    save call t
    return t

/-- Reserves every line and marks the transfer in progress. -/
def start (call : Call) (t : Transfer) : Run Transfer := do
  let t ← (List.range t.lines.length).foldlM (startLine call) t
  let t := { t with status := .inProgress }
  save call t
  return t

/-- One side of moving a line: unless the journal shows it done (the line's `progress`
has reached its quantity) or the log does, makes the line's stock move at the side's
location; then journals the side as done. -/
def sideLine (call : Call) (progress : TransferLine → Int64) (finished : TransferLine → TransferLine)
    (location : String) (side : AdjustmentKind) (move : Int64 → Move) (reason : String)
    (t : Transfer) (i : Nat) : Run Transfer := do
  match t.lines[i]? with
  | none => return t
  | some line =>
    if progress line < line.quantity then
      let done ← applied call t line location side noUndo
      if !done then
        let _ ← lineMove call t line location move reason
      let t := t.setLine i (finished line)
      save call t
      return t
    else return t

/-- Ships one line from the source and receives it at the destination, each side
unless the journal or the log shows it done. -/
def finishLine (call : Call) (t : Transfer) (i : Nat) : Run Transfer := do
  let t ← sideLine call (·.shipped) (fun line => { line with shipped := line.quantity }) t.source .shipped .ship
    "Shipped for transfer" t i
  sideLine call (·.received) (fun line => { line with received := line.quantity }) t.destination .received
    .receive "Received from transfer" t i

/-- Ships and receives every line and marks the transfer completed. -/
def finish (call : Call) (t : Transfer) : Run Transfer := do
  let t ← (List.range t.lines.length).foldlM (finishLine call) t
  let t := { t with status := .completed, arrivedAt := some (← Run.now) }
  save call t
  return t

/-- Returns one line's units to the source when they left it without arriving. -/
def unwindLine (call : Call) (t : Transfer) (i : Nat) : Run Transfer := do
  match t.lines[i]? with
  | none => return t
  | some line =>
    if !(← applied call t line t.source .shipped noUndo) then return t
    if ← applied call t line t.destination .received noUndo then return t
    if !(← applied call t line t.source .returned noUndo) then
      let _ ← lineMove call t line t.source .restock "Transfer cancelled"
    let t := t.setLine i { line with shipped := 0 }
    save call t
    return t

/-- Undoes whatever part of the transfer took effect. -/
def unwind (call : Call) (t : Transfer) : Run Transfer := do
  let t ← (List.range t.lines.length).foldlM (unwindLine call) t
  let (t, errs) ← releaseAll call t
  if errs.isEmpty then return t else fail (.joined errs)

/-- Runs a change of one transfer under its lock, on the stored record. -/
def withTransfer (call : Call) (id : String) (body : Transfer → Run Transfer) : Run Transfer := do
  lock call (Transfer.lockKey id)
  body (← TransferStore.find call id)

/-- The failure of a status that does not allow an action. -/
def refuse (action : String) (s : TransferStatus) : Failure :=
  .withDetail .transferStatus ("cannot " ++ action ++ " a " ++ s.name ++ " transfer")

/-- Creates a pending transfer between two registered locations, merging its lines. -/
def create (call : Call) (req : TransferRequest) : Run Transfer := do
  if req.source = "" ∨ req.destination = "" then
    fail (.withDetail .transferInvalid "source and destination are required")
  if req.source = req.destination then
    fail (.withDetail .transferInvalid ("source and destination are both " ++ req.source))
  let _ ← Places.find call req.source
  let _ ← Places.find call req.destination
  let id ← freshId
  let now ← Run.now
  let lines ← req.lines.foldlM (fun acc r => do check r.check; return TransferLine.merge acc r) []
  let t : Transfer :=
    { id, source := req.source, destination := req.destination, status := .pending, lines,
      expectedArrival := req.expectedArrival, arrivedAt := none,
      notes := if req.notes = "" then none else some req.notes, createdAt := now }
  TransferStore.create call t
  return t

/-- Adds a line to a pending transfer, merging it with the line of its product variant. -/
def addLine (call : Call) (id : String) (r : LineRequest) : Run Transfer := do
  check r.check
  withTransfer call id fun t => do
    if t.status != .pending then fail (refuse "add items to" t.status)
    let t := { t with lines := TransferLine.merge t.lines r }
    save call t
    return t

/-- Reserves the lines of a pending transfer. -/
def startTransfer (call : Call) (id : String) : Run Transfer :=
  withTransfer call id fun t => do
    if t.status != .pending then fail (refuse "start" t.status)
    start call t

/-- Completes an open transfer, starting it first when it is pending. -/
def complete (call : Call) (id : String) : Run Transfer :=
  withTransfer call id fun t => do
    if !t.status.isOpen then fail (refuse "complete" t.status)
    let t ← if t.status == .pending then start call t else pure t
    finish call t

/-- Cancels an open transfer, undoing what it did. -/
def cancel (call : Call) (id : String) : Run Transfer :=
  withTransfer call id fun t => do
    if !t.status.isOpen then fail (refuse "cancel" t.status)
    let t ← unwind call t
    let t := { t with status := .cancelled }
    save call t
    return t

/-- Finishes one transfer found in progress unless it no longer is, counting it or
collecting its failure labelled with the transfer. -/
def resumeOne (call : Call) : Nat × List Failure → Transfer → Run (Nat × List Failure)
  | (n, errs), p => do
    let r ← attempt (withTransfer call p.id fun t => do
      if t.status != .inProgress then return t
      finish call t)
    match r with
    | .ok _ => return (n + 1, errs)
    | .error e => return (n, errs ++ [.context ("transfer " ++ p.id) e])

/-- Finishes every transfer stored as in progress, in creation order. Returns how many
finished and the failures of the others, each labelled with its transfer. -/
def resume (call : Call) : Run (Nat × List Failure) := do
  let open_ ← TransferStore.all call { status := "in_progress" }
  open_.foldlM (resumeOne call) (0, [])

end Transfers

end StockLedger
