import StockLedger.Store.Levels
import StockLedger.Stock.Move
import StockLedger.Text.Quoted

/-!
Stock operations on the ledger. Each takes the lock of its key, applies its move to
the stored level (or to a fresh one when the move creates it) and, in the same step,
appends the log entry of the figure it moved. A failed check leaves levels and log as
they were.
-/

namespace StockLedger

/-- The record a stock operation leaves in the log besides the figures. -/
structure Note where
  reference : String := ""
  reason : String := ""
  user : String := ""

namespace Stock

open Run

/-- The entry text of an optional field: none when empty. -/
def optional (s : String) : Option String := if s = "" then none else some s

/-- Applies a move to the level of a key under its lock, logging the movement. -/
def write (call : Call) (key : StockKey) (move : Move) (note : Note) : Run Level := do
  lock call key.text
  let (level, _) ← LevelStore.mutate call key move.creates fun w => do
    let (w', mv?) ← check (move.apply w)
    match mv? with
    | none => return (w', none)
    | some mv =>
      let id ← freshId
      let now ← Run.now
      let user := if note.user = "" then call.actor else note.user
      let change : Change :=
        { kind := mv.kind, delta := mv.delta, previous := mv.previous,
          reference := optional note.reference,
          reason := if note.reason = "" then move.defaultReason else note.reason,
          createdBy := optional user }
      return (w', some (change.entry id 0 key now))
  return level

/-- Checks a move, then applies it. -/
def run (call : Call) (key : StockKey) (move : Move) (note : Note) : Run Level := do
  check move.precheck
  write call key move note

/-- A change reported by a synchronised system: a set, increment or decrement of on-hand
stock by a non-negative quantity. -/
def applyChange (call : Call) (key : StockKey) (changeType : String) (quantity : Int64)
    (reference reason : String) : Run Level := do
  if quantity < 0 then
    fail (.withDetail .changeInvalid ("negative quantity " ++ Quantity.text quantity))
  match SyncMode.ofName? changeType with
  | none => fail (.withDetail .changeInvalid ("unknown change type " ++ Text.quote changeType))
  | some mode => write call key (.sync mode quantity) { reference, reason }

/-- The level of a key. -/
def level (call : Call) (key : StockKey) : Run Level := LevelStore.find call key

/-- Levels answering a query. -/
def levels (call : Call) (q : LevelQuery) : Run (List Level) := LevelStore.list call q

/-- Available stock of a product summed over its levels, wrapping. -/
def totalAvailable (call : Call) (product : String) : Run Int64 := do
  let ls ← levels call { product }
  return ls.foldl (fun acc l => acc + l.available) 0

/-- Log entries answering a query, newest first. -/
def history (call : Call) (q : AdjustmentQuery) : Run (List Adjustment) := LevelStore.history call q

end Stock

end StockLedger
