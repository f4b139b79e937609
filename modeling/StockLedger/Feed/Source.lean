import StockLedger.Time.Instant

/-!
External sources of stock figures: systems of record whose changes the ledger applies.
A source maps its own location ids to the ledger's (ids it does not map are kept), is
synced when enabled and its interval has passed since the last sync, and reports each
applied batch as a sync result.
-/

namespace StockLedger

/-- A registered system of record. -/
structure Source where
  id : String
  name : String
  kind : String
  endpoint : String
  syncEnabled : Bool
  /-- Nanoseconds between syncs. -/
  interval : Int64
  /-- Its location ids and the ledger's, or none when it keeps the ledger's ids. -/
  locationMap : Option (List (String × String))
  lastSyncAt : Option Instant
  lastSyncStatus : Option String
deriving DecidableEq

namespace Source

/-- The ledger location for one of the source's location ids. -/
def mapLocation (s : Source) (external : String) : String :=
  match s.locationMap with
  | some m => (m.find? (·.1 == external)).map (·.2) |>.getD external
  | none => external

/-- A source is due when it is enabled and it has never synced, or its interval has
passed since it last did. -/
def due (s : Source) (now : Instant) : Bool :=
  s.syncEnabled &&
    match s.lastSyncAt with
    | none => true
    | some last => !(now < last.addDuration s.interval)

/-- One hour, the interval of a source registered without a positive one. -/
def defaultInterval : Int64 := 3600000000000

end Source

/-- The outcome of applying one batch of changes from a source. -/
structure SyncResult where
  source : String
  status : String
  processed : Nat
  updated : Nat
  failed : Nat
  errors : List String
deriving DecidableEq

/-- What a sync event announces. -/
inductive SyncEventKind where
  | requested
  | completed
deriving DecidableEq

/-- A message published about syncing: a source fell due, or a batch was applied.
`undelivered` marks a message the broker refused. -/
structure SyncEvent where
  kind : SyncEventKind
  source : String
  result : Option SyncResult
  undelivered : Bool
deriving DecidableEq

namespace SyncEventKind

/-- The event type as published. -/
def name : SyncEventKind → String
  | .requested => "SyncRequested"
  | .completed => "SyncCompleted"

end SyncEventKind

end StockLedger
