import StockLedger.Console.Ops
import StockLedger.Console.Alias
import StockLedger.Console.Rules

/-!
A console session runs request objects in turn against one ledger and answers each
with a step: the operation's result or failure, the log entries it appended and the
sync events it published, and, when the session shows them, the statements it sent to
the database. Generated identifiers are written by their short names throughout.
-/

namespace StockLedger

/-- A console session: the ledger, the identifiers numbered so far, and whether each
step shows the statements sent to the database. -/
structure Session where
  ledger : Ledger
  known : List String
  showsStatements : Bool := false

namespace Console

/-- The fields of a failed step: kind, message and, for a shortfall, its figures. -/
def failureFields (e : Failure) : List (String × Json) :=
  let base := [("error", Json.string (kindOf e)), ("message", .string e.message)]
  match e.shortfall? with
  | some (p, a, r) => base ++ [("product_id", .string p), ("available", .ofInt64 a), ("requested", .ofInt64 r)]
  | none => base

/-- The ledger with the database rules an operation carries put first, or why they
cannot be read. Rules are read only when steps show statements. -/
def withRules (s : Session) (op : Json) : Except String Ledger := do
  if !s.showsStatements then return s.ledger
  match Request.get? op "db" with
  | none => return s.ledger
  | some j =>
    let rules ← Rules.listOf j
    return { s.ledger with database := s.ledger.database.prepend rules }

/-- Runs one request object and writes its step. -/
def step (s : Session) (op : Json) : Session × Json :=
  let op := Alias.request s.known op
  let (reply, before, after) := match withRules s op with
    | .error m => (Sum.inl m, s.ledger, s.ledger)
    | .ok before =>
      match plan before op with
      | .error m => (Sum.inl m, before, before)
      | .ok action =>
        match (action.run).run before with
        | (.ok r, l) => (Sum.inr r, before, l)
        | (.error e, l) => (Sum.inr (.failed e []), before, l)
  let log := if s.showsStatements then []
    else (after.book.log.drop before.book.log.length).map Show.adjustment
  let events := (after.published.drop before.published.length).map Show.event
  let sent := (after.database.sent.drop before.database.sent.length).map (Show.statement after.clock)
  let tail := [("log", Json.array log), ("events", .array events)] ++
    (if s.showsStatements then [("sql", Json.array sent)] else [])
  let unreadable (m : String) : Json :=
    .object ([("error", .string "bad_input"), ("message", .string m), ("log", .array []),
      ("events", .array [])] ++ (if s.showsStatements then [("sql", Json.array [])] else []))
  let json : Json := match reply with
    | .inl m => unreadable m
    | .inr (.unread m) => unreadable m
    | .inr (.value j) => .object ([("result", j)] ++ tail)
    | .inr (.failed e extra) => .object (failureFields e ++ extra ++ tail)
    | .inr (.refused st) =>
      .object ([("error", .string st.code.name), ("message", .string (statusMessage st))] ++ tail)
  let (known, json) := Alias.answer s.known (Alias.canonical json)
  ({ s with ledger := after, known }, json)

/-- Runs request objects in turn. -/
def steps (s : Session) : List Json → List Json
  | [] => []
  | op :: rest =>
    let (s', j) := step s op
    j :: steps s' rest

end Console

end StockLedger
