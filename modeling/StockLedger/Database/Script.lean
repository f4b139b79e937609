import StockLedger.Database.Cell

/-!
A scripted database. It keeps no data: a script of rules decides what each statement
returns. A rule applies to statements whose text contains its pattern (the empty
pattern matches all), for a number of uses or without limit, either when a statement is
prepared or when it runs. When it runs a statement, a rule can make it fail, return
rows (and fail after them), or report how many rows it changed (or fail to say). A
statement takes the first rule that matches and has a use left, and spends one use of
it; with no rule, a change touches one row and a query returns nothing.

Every statement run is recorded with its arguments; preparing is not recorded. The
transaction steps `BEGIN`, `COMMIT` and `ROLLBACK` are recorded too, without arguments,
and are matched against the rules by their names.

A database can also be unreachable: every call to it fails and nothing is recorded.
-/

namespace StockLedger

/-- One rule of a script. -/
structure Rule where
  pattern : String
  /-- Uses left, or none for no limit. -/
  uses : Option Nat
  /-- Whether the rule applies when a statement is prepared rather than run. -/
  atPrepare : Bool
  error : Option String
  /-- The rows a query returns, each a list of named cells. -/
  rows : List (List (String × Cell))
  rowError : Option String
  affected : Int64
  affectedError : Option String
deriving Inhabited

/-- A statement as sent: its text and arguments, or no arguments for a transaction step. -/
structure Statement where
  text : String
  args : Option (List Cell)

/-- How a database answers. -/
inductive Backend where
  /-- Answers from a script of rules. -/
  | scripted (rules : List Rule)
  /-- Answers nothing: every call fails. -/
  | unreachable

/-- A database and the statements sent to it so far. -/
structure Database where
  backend : Backend
  sent : List Statement

namespace Text

/-- Whether `pattern` occurs in `text`. -/
def contains (text pattern : String) : Bool :=
  let p := pattern.toList
  let rec scan : List Char → Bool
    | [] => p.isEmpty
    | c :: rest => p.isPrefixOf (c :: rest) || scan rest
  scan text.toList

end Text

namespace Rule

/-- Whether the rule applies to a statement text in a phase and has a use left. -/
def fits (r : Rule) (preparing : Bool) (text : String) : Bool :=
  r.atPrepare == preparing && r.uses != some 0 && Text.contains text r.pattern

/-- The rule with one use spent. -/
def spend (r : Rule) : Rule := { r with uses := r.uses.map (· - 1) }

/-- The column names of a rule's rows: the first row's names, sorted. -/
def columns (r : Rule) : List String :=
  match r.rows with
  | [] => []
  | first :: _ => (first.map (·.1)).mergeSort (fun a b => a ≤ b)

/-- A rule's rows as cells in column order; a missing cell is null. -/
def table (r : Rule) : List (List Cell) :=
  let cols := r.columns
  r.rows.map fun row => cols.map fun c => ((row.find? (·.1 == c)).map (·.2)).getD .null

end Rule

namespace Database

/-- A database answering from a script. -/
def ofRules (rules : List Rule) : Database := ⟨.scripted rules, []⟩

/-- Finds the rule for a statement in a phase and spends one of its uses. -/
def pick (d : Database) (preparing : Bool) (text : String) : Database × Option Rule :=
  match d.backend with
  | .unreachable => (d, none)
  | .scripted rules =>
    match rules.findIdx? (·.fits preparing text) with
    | none => (d, none)
    | some i =>
      match rules[i]? with
      | none => (d, none)
      | some r => ({ d with backend := .scripted (rules.set i r.spend) }, some r)

/-- Puts rules before the ones in force. -/
def prepend (d : Database) (rules : List Rule) : Database :=
  match d.backend with
  | .unreachable => d
  | .scripted old => { d with backend := .scripted (rules ++ old) }

/-- Records a statement sent. -/
def record (d : Database) (s : Statement) : Database := { d with sent := d.sent ++ [s] }

end Database

end StockLedger
