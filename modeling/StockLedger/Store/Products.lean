import StockLedger.Ledger.Sql

/-!
The product catalog synced changes are checked against: the ledger's own catalog, or
the database's `products` table when the wiring says so. Without either, products are
not checked at all. A product passes when it is known and active; a unit names the
active product it was added with.
-/

namespace StockLedger

namespace ProductStore

open Run

/-- Whether products are checked at all. -/
def checked : Run Bool := do
  let l ← get
  return l.wiring.products || l.catalog.isSome

/-- Whether a product is known and active. -/
def isActive (call : Call) (product : String) : Run Bool := do
  let l ← get
  if l.wiring.products then
    match ← attempt (Sql.getValue call "SELECT EXISTS (SELECT 1 FROM products WHERE id = $1 AND is_active = TRUE)"
        [.text product] .flag "bool") with
    | .ok (some s) => return s.asFlag
    | .ok none => fail (.context "failed to check product" (.plain "sql: no rows in result set"))
    | .error e => fail (.context "failed to check product" e)
  else return (l.catalog.map (·.active product)).getD true

/-- The active product a unit names. -/
def findByUnit (call : Call) (sku : String) : Run String := do
  let l ← get
  if l.wiring.products then
    match ← Sql.getValue call "SELECT id FROM products WHERE sku = $1 AND is_active = TRUE LIMIT 1"
        [.text sku] .text "string" with
    | some s => return s.asText
    | none => fail (.withDetail .productNotFound ("sku " ++ sku))
  else
    match l.catalog with
    | some c => check (c.findByUnit sku)
    | none => fail (.withDetail .productNotFound ("sku " ++ sku))

end ProductStore

end StockLedger
