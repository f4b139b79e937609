import StockLedger.Stock.Book
import StockLedger.Location
import StockLedger.Transfer.Basic
import StockLedger.Feed.Source
import StockLedger.Catalog
import StockLedger.Database.Script

/-!
The state of a running ledger and the monad its operations run in. Operations read the
clock, draw fresh identifiers, take key locks, write the stores and publish sync
events. A failed operation keeps every write it made before failing: the stores are
separate, so a transfer that fails halfway leaves the log entries it already wrote.
Each store keeps its records in memory or on the ledger's database, as the wiring says.
-/

namespace StockLedger

/-- Who a call is made for and whether its caller has already given up on it. The
actor set on the call wins over the one named in request metadata. -/
structure Call where
  user : Option String := none
  headerUser : Option String := none
  cancelled : Bool := false
  expired : Bool := false

namespace Call

/-- The actor recorded on log entries, or empty for system calls. -/
def actor (c : Call) : String :=
  match c.user with
  | some u => u
  | none => c.headerUser.getD ""

/-- The reason a call stopped early, if it did. -/
def halted? (c : Call) : Option Cause :=
  if c.cancelled then some .cancelled else if c.expired then some .deadlineExceeded else none

end Call

/-- A key-value server shared by several ledgers for their locks. Each entry is a key,
its holder's token and the nanoseconds it has left to live, if it expires. While
`outage` is set every command fails with that text. -/
structure LockServer where
  entries : List (String × String × Option Int)
  outage : Option String
  attempts : Nat

/-- How key locks are taken: inside the process, where they always succeed, or on a
shared server, where a key held by someone else refuses them. `refused` lists keys
whose lock is refused whatever the backend. -/
structure Locker where
  server : Option LockServer
  refused : List String

namespace LockServer

/-- The server key that holds the lock of a ledger key. -/
def slot (key : String) : String := "lock:inventory:" ++ key

/-- A count of milliseconds as a 64-bit nanosecond span, wrapping when it does not fit. -/
def span (ms : Int64) : Int := (Int64.ofInt (ms.toInt * 1000000)).toInt

/-- The time to live a holder asks for in milliseconds, in nanoseconds: the span, when
it is positive; a span that is not positive leaves the key without expiry. -/
def lifetime (ms : Int64) : Option Int :=
  let d := span ms
  if d > 0 then some d else none

/-- Stores a holder's token under a key, with nanoseconds to live when given. -/
def hold (s : LockServer) (key token : String) (ttl : Option Int) : LockServer :=
  { s with entries := (s.entries.filter (·.1 != key)) ++ [(key, token, ttl)] }

/-- Deletes a key. -/
def release (s : LockServer) (key : String) : LockServer :=
  { s with entries := s.entries.filter (·.1 != key) }

/-- Lets a span of nanoseconds pass, or go back when it is negative: each time to live
shrinks by it, wrapping in 64 bits, and keys left with none are deleted. -/
def advance (s : LockServer) (d : Int) : LockServer :=
  { s with entries := s.entries.filterMap fun (k, v, ttl) =>
      match ttl with
      | some t =>
        let left := (Int64.ofInt (t - d)).toInt
        if left ≤ 0 then none else some (k, v, some left)
      | none => some (k, v, none) }

/-- Keys and tokens, ordered by key. -/
def listing (s : LockServer) : List (String × String) :=
  (s.entries.map fun (k, v, _) => (k, v)).mergeSort (fun a b => a.1 ≤ b.1)

end LockServer

namespace Locker

/-- The failure of a refused lock. -/
def busy (key : String) : Failure := .withDetail .lock key

/-- Takes the lock of a key for the length of one operation. A shared server refuses a
key that is held, every attempt fails during an outage or once the call is given up,
and a call given up between attempts reports why. The locker and the call change only
between operations, so within one operation every acquisition of a key has the same
outcome: a holder that takes a key, or a deadline that passes, in the middle of an
operation is outside this model. -/
def acquire (l : Locker) (call : Call) (key : String) : Except Failure Unit :=
  if l.refused.contains key then .error (busy key)
  else match l.server with
    | none => .ok ()
    | some s =>
      let blocked := s.outage.isSome || call.halted?.isSome || s.entries.any (·.1 == LockServer.slot key)
      if !blocked then .ok ()
      else match call.halted? with
        | some c => if s.attempts > 1 then .error (.withDetail .lock (key ++ ": " ++ c.text)) else .error (busy key)
        | none => .error (busy key)

end Locker

/-- Whether sync events are published, and whether the broker accepts them. -/
inductive Broadcast where
  | off
  | on
  | refusing
deriving DecidableEq

/-- When the next transfer journal write fails, once. -/
inductive JournalTrap where
  /-- A write where the line at the index is reserved. -/
  | reserved (line : Int)
  /-- A write where the line at the index has shipped units. -/
  | shipped (line : Int)
  /-- A write where the line at the index has received units. -/
  | received (line : Int)
  /-- A write where the line at the index has no shipped units. -/
  | unshipped (line : Int)
  /-- A write of a transfer with the given status. -/
  | status (name : String)
  /-- The next write. -/
  | any
deriving DecidableEq

namespace JournalTrap

/-- The line of a transfer at an index; a negative index names none. -/
def lineAt? (t : Transfer) (i : Int) : Option TransferLine :=
  if i < 0 then none else t.lines[i.toNat]?

/-- Whether a write of the transfer springs the trap. -/
def springs (j : JournalTrap) (t : Transfer) : Bool :=
  match j with
  | .reserved i => (lineAt? t i).any (·.reserved)
  | .shipped i => (lineAt? t i).any (·.shipped > 0)
  | .received i => (lineAt? t i).any (·.received > 0)
  | .unshipped i => (lineAt? t i).any (·.shipped == 0)
  | .status n => t.status.name == n
  | .any => true

end JournalTrap

/-- Which stores keep their records on the ledger's database rather than in memory. -/
structure Wiring where
  locations : Bool := false
  inventory : Bool := false
  transfers : Bool := false
  sources : Bool := false
  /-- Whether products are checked against the database's catalog. -/
  products : Bool := false

/-- Everything a running ledger holds. -/
structure Ledger where
  clock : Instant
  book : Book
  registry : Registry
  transfers : List Transfer
  sources : List Source
  catalog : Option Catalog
  broadcast : Broadcast
  published : List SyncEvent
  locker : Locker
  trap : Option JournalTrap
  /-- Whether journal writes can be made to fail on purpose; only a ledger kept wholly
  in memory has a journal that can. -/
  trappable : Bool := false
  nextId : Nat
  database : Database
  wiring : Wiring

/-- A ledger operation: it reads and writes the ledger and may fail, keeping what it
wrote before failing. -/
abbrev Run := ExceptT Failure (StateM Ledger)

namespace Run

/-- Fails with a failure. -/
def fail (e : Failure) : Run α := throw e

/-- Runs a check that may fail. -/
def check (r : Except Failure α) : Run α :=
  match r with
  | .ok a => pure a
  | .error e => throw e

/-- Runs an operation and returns its outcome instead of failing; its writes stay. -/
def attempt (m : Run α) : Run (Except Failure α) :=
  ExceptT.lift m.run

/-- The ledger's clock. -/
def now : Run Instant := do return (← get).clock

/-- Lower-case hexadecimal digits of `n`, left-padded with zeros to `width`. -/
def hex (width : Nat) (n : Nat) : String :=
  let ds := Nat.toDigits 16 n
  String.ofList (List.replicate (width - ds.length) '0' ++ ds)

/-- A fresh identifier in the form of a version-4 UUID, drawn from a counter. -/
def freshId : Run String := do
  let l ← get
  set { l with nextId := l.nextId + 1 }
  return "00000000-0000-4000-8000-" ++ hex 12 (l.nextId + 1)

/-- Takes the lock of a key for the current operation. -/
def lock (call : Call) (key : String) : Run Unit := do
  check ((← get).locker.acquire call key)

/-- Publishes a sync event when publishing is on. A refusing broker still sees it. -/
def publish (e : SyncEvent) : Run Unit := do
  let l ← get
  match l.broadcast with
  | .off => pure ()
  | .on => set { l with published := l.published ++ [e] }
  | .refusing => set { l with published := l.published ++ [{ e with undelivered := true }] }

end Run

end StockLedger
