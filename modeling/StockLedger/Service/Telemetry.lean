/-!
Trace export setup. Without an endpoint nothing is exported and setup succeeds. With
one, setup first merges the service's resource description into the exporter's
default one; the two declare different telemetry schema versions, so the merge, and
with it setup, fails. Shutting down afterwards has nothing to stop.
-/

namespace StockLedger

namespace Telemetry

/-- The schema version the service describes itself with. -/
def serviceSchema : String := "1.26.0"

/-- The schema version of the exporter's default resource. -/
def exporterSchema : String := "1.37.0"

/-- The identifier of a schema version: an address on the telemetry project's site. -/
def schemaAddress (version : String) : String :=
  "https" ++ ":" ++ "//opentelemetry.io/schemas/" ++ version

/-- The failure of setting up export, if it fails. -/
def setupError (endpoint : String) : Option String :=
  if endpoint = "" then none
  else some ("failed to create resource: conflicting Schema URL: " ++ schemaAddress exporterSchema ++
    " and " ++ schemaAddress serviceSchema)

end Telemetry

end StockLedger
