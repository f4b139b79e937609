import StockLedger.Console.Session

/-!
The ledger console: each line holds one request object, which sets up a fresh ledger
and lists the operations to run on it; the answer holds one step per operation. The
ledger keeps its records in memory, on an unreachable database, or on a scripted
database, whose setup statements the answer shows. A request to serve the ledger over
the network is checked but cannot be carried out. A line the console cannot read is
refused with `bad_input` and a message saying what is wrong.
-/

namespace StockLedger

namespace Console

/-- A ledger with empty stores kept as the wiring says, on a database. -/
def emptyLedger (clock : Instant) (broadcast : Broadcast) (catalog : Option Catalog) (locker : Locker)
    (database : Database) (wiring : Wiring) : Ledger :=
  { clock, book := Book.empty, registry := Registry.empty, transfers := [], sources := [],
    catalog, broadcast, published := [], locker, trap := none, nextId := 0, database, wiring }

/-- The ledger a session starts from: empty stores, all in memory, whose journal can be
made to fail, and the main warehouse. -/
def freshLedger (clock : Instant) (broadcast : Broadcast) (catalog : Option Catalog) (locker : Locker) : Ledger :=
  let l := { emptyLedger clock broadcast catalog locker (Database.ofRules []) {} with trappable := true }
  ((Places.ensureMain {}).run.run l).2

/-- The message of a line that is not a request object. -/
def notObject : String := "input is not a JSON object"

/-- The refusal of a whole request line. -/
def refuse (m : String) : Json := .object [("error", .string "bad_input"), ("message", .string m)]

/-- Reads the publishing mode of a request line: `true` publishes, the text `"fail"`
publishes refusing each event, other text is refused, and anything else is off. -/
def broadcastOf (line : Json) : Except String Broadcast :=
  match line.field? "publisher" with
  | some (.bool true) => .ok .on
  | some (.string "fail") => .ok .refusing
  | some (.string _) => .error "publisher must be a boolean or \"fail\""
  | _ => .ok .off

/-- Adds one product of a request line's catalog. Its id and code are read leniently,
and only an explicit `false` leaves it inactive. -/
def catalogEntry (c : Catalog) (e : Json) : Except String Catalog := do
  match e with
  | .object _ => pure ()
  | _ => throw "catalog entries must be objects"
  let id := Request.lenientText e "id"
  let c := c.add id (Request.lenientText e "sku")
  return match e.field? "active" with
    | some (.bool false) => c.deactivate id
    | _ => c

/-- Reads the catalog of a request line, when the line has one: a list of products kept
by the ledger, or the database's catalog when the store is a database. -/
def catalogOf (line : Json) (onDatabase : Bool) : Except String (Option Catalog × Bool) := do
  match Request.get? line "catalog" with
  | none => return (none, false)
  | some (.array entries) =>
    let c ← entries.foldlM catalogEntry Catalog.empty
    return (some c, false)
  | some (.string "postgres") =>
    if onDatabase then return (none, true) else throw "catalog \"postgres\" needs store postgres_down"
  | some _ => throw "catalog must be a list"

/-- Marks one named store as kept on the database; a name that is not text reads as the
empty name. -/
def wireStore (w : Wiring) (j : Json) : Except String Wiring :=
  let name := match j with
    | .string s => s
    | _ => ""
  match name with
  | "locations" => .ok { w with locations := true }
  | "inventory" => .ok { w with inventory := true }
  | "transfers" => .ok { w with transfers := true }
  | "sources" => .ok { w with sources := true }
  | other => .error ("unknown pg repo " ++ Text.quote other)

/-- Reads which stores a request line keeps on the database, if it names them. -/
def wiringOf (line : Json) : Except String (Option Wiring) :=
  match line.field? "pg_repos" with
  | none => .ok none
  | some (.array names) => (names.foldlM wireStore {}).map some
  | some _ => .error "pg_repos must be a list"

/-- Every store on the database. -/
def allOnDatabase : Wiring := { locations := true, inventory := true, transfers := true, sources := true }

/-- Reads the locker of a request line, when the line has one: an object naming its
kind, with a lock server's time to live, attempts and delay between them. -/
def lockerOf (line : Json) : Except String Locker := do
  match Request.get? line "locker" with
  | none => return { server := none, refused := [] }
  | some (.object ms) =>
    let spec := Json.object ms
    match ← Request.text spec "kind" with
    | "" | "local" => return { server := none, refused := [] }
    | "redis" =>
      let _ ← Request.int spec "ttl_ms"
      let _ ← Request.int spec "retry_delay_ms"
      let attempts ← Request.int spec "attempts"
      let attempts := if attempts ≤ 0 then 3 else attempts.toInt.toNat
      return { server := some { entries := [], outage := none, attempts }, refused := [] }
    | other => throw ("unknown locker kind " ++ Text.quote other)
  | some _ => throw "locker must be an object"

/-- The steps of a session over request objects, as an answer member. -/
def stepsMember (s : Session) (ops : List Json) : String × Json := ("steps", .array (steps s ops))

/-- Answers the operations of a request line on a ledger whose stores sit on a
scripted database. The ledger is built first, its statements and failure reported as
the setup: without a list of stores every store is on the database and the main
warehouse is ensured, and after a failure ensured once more; with a list only those
stores are, and the main warehouse is ensured once. -/
def scriptedAnswer (base : Ledger) (named : Option Wiring) (ops : List Json) : Json :=
  let (wiring, again) := match named with
    | some w => (w, false)
    | none => (allOnDatabase, true)
  let l := { base with wiring := { wiring with products := base.wiring.products } }
  let (r, l) := (Places.ensureMain {}).run.run l
  let l := match r, again with
    | .error _, true => ((Places.ensureMain {}).run.run l).2
    | _, _ => l
  let sql := ("sql", Json.array (l.database.sent.map (Show.statement l.clock)))
  let setup := match r with
    | .ok _ => Json.object [sql]
    | .error e => .object [sql, ("error", .object [("error", .string (kindOf e)), ("message", .string e.message)])]
  .object [("setup", setup), stepsMember ⟨{ l with database := { l.database with sent := [] } }, [], true⟩ ops]

/-- Checks the settings of a request to serve the ledger over the network, as the
request names them: only the memory store (named `memory`, or not named) can be served,
and locks kept on a lock server need that server started beside the ledger. -/
def serveSettings (spec : Json) : Except String Unit := do
  match spec with
  | .object _ => pure ()
  | _ => throw "serve must be an object"
  let env ← envGiven spec
  -- only `true` starts the lock server
  let lockServer := Request.switch spec "redis"
  let store := (env.lookup "LEDGER_STORE").getD ""
  if store != "" && store != "memory" then throw "only the memory store can be served"
  if env.lookup "LOCK_BACKEND" == some "redis" && !lockServer then throw "LOCK_BACKEND=redis needs redis: true"

/-- Answers a request to serve the ledger over the network. No listener can be opened
here, so a request whose settings pass is refused because the server did not start. -/
def serveAnswer (spec : Json) : Json :=
  match serveSettings spec with
  | .error m => refuse m
  | .ok _ => refuse "server did not start"

/-- Answers one request line: an object, or `null`, read as the empty object. -/
def answerJson (clock : Instant) (line : Json) : Json :=
  let line := match line with
    | .null => Json.object []
    | other => other
  match line with
  | .object _ =>
    match Request.get? line "ops" with
    | some (.array ops) =>
      if !ops.all (fun | .object _ => true | _ => false) then refuse "ops must be a list of objects"
      else
        match line.field? "serve" with
        | some spec => serveAnswer spec
        | none =>
        let setup : Except String Json := do
          let locker ← lockerOf line
          let b ← broadcastOf line
          let store := Request.lenientText line "store"
          let onDatabase := store == "postgres_down" || store == "scripted_pg"
          let (c, products) ← catalogOf line onDatabase
          match store with
          | "" | "memory" | "postgres_down" | "scripted_pg" => pure ()
          | _ => throw "store must be memory or postgres_down"
          let rules ← if store == "scripted_pg" then
              match Request.get? line "db" with
              | none => pure []
              | some j => Rules.listOf j
            else pure []
          let named ← if onDatabase then wiringOf line else pure none
          let base := fun database wiring => emptyLedger clock b c locker database { wiring with products }
          match store with
          | "postgres_down" =>
            let wiring := named.getD allOnDatabase
            let l := base ⟨.unreachable, []⟩ wiring
            let l := if wiring.locations then l else ((Places.ensureMain {}).run.run l).2
            return .object [stepsMember ⟨l, [], false⟩ ops]
          | "scripted_pg" => return scriptedAnswer (base (Database.ofRules rules) {}) named ops
          | _ => return .object [stepsMember ⟨freshLedger clock b c locker, [], false⟩ ops]
        match setup with
        | .error m => refuse m
        | .ok j => j
    | _ => refuse "ops must be a list of objects"
  | _ => refuse notObject

/-- Answers one line of text; text that is not a JSON document is refused as not an
object. -/
def answer (clock : Instant) (text : String) : String :=
  match Json.parse text with
  | .error _ => (refuse notObject).render
  | .ok line => (answerJson clock line).render

end Console

end StockLedger
