import StockLedger.Failure

/-!
The product catalog the ledger checks synced changes against. A product is known once
added and stays known; it may be deactivated. A stock-keeping unit names the product
it was last added with, and only an active product is found by its unit.
-/

namespace StockLedger

/-- Known products with their active flags, and units with the products they name. -/
structure Catalog where
  products : List (String × Bool)
  units : List (String × String)

namespace Catalog

/-- The empty catalog. -/
def empty : Catalog := ⟨[], []⟩

/-- Adds or re-activates a product and, when a unit is given, points it at the product. -/
def add (c : Catalog) (id sku : String) : Catalog :=
  let products := if c.products.any (·.1 == id) then
      c.products.map (fun p => if p.1 == id then (id, true) else p)
    else c.products ++ [(id, true)]
  let units := if sku == "" then c.units
    else if c.units.any (·.1 == sku) then c.units.map (fun u => if u.1 == sku then (sku, id) else u)
    else c.units ++ [(sku, id)]
  ⟨products, units⟩

/-- Deactivates a known product; an unknown one is left unknown. -/
def deactivate (c : Catalog) (id : String) : Catalog :=
  { c with products := c.products.map (fun p => if p.1 == id then (id, false) else p) }

/-- Whether a product is known and active. -/
def active (c : Catalog) (id : String) : Bool :=
  (c.products.find? (·.1 == id)).any (·.2)

/-- The active product a unit names. -/
def findByUnit (c : Catalog) (sku : String) : Except Failure String :=
  match c.units.find? (·.1 == sku) with
  | some (_, id) => if c.active id then .ok id else .error (.withDetail .productNotFound ("sku " ++ sku))
  | none => .error (.withDetail .productNotFound ("sku " ++ sku))

end Catalog

end StockLedger
