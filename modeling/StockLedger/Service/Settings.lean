import StockLedger.Time.Duration
import StockLedger.Json.Value

/-!
Service settings read from environment variables. Each setting has a variable and a
default; a variable that is set wins even when empty, except that a number, flag or
duration that does not read keeps the default. Durations read as duration text, or as
a whole number of seconds; flags read `1`, `t`, `T`, `TRUE`, `true`, `True` and the
matching false spellings; lists are split at commas.
-/

namespace StockLedger

/-- Environment variables as name and value pairs. -/
abbrev Env := List (String × String)

namespace Env

/-- The value of a variable, if set. -/
def lookup (env : Env) (name : String) : Option String :=
  (env.reverse.find? (·.1 == name)).map (·.2)

/-- Reads a decimal integer with an optional sign that fits in 64 bits. -/
def integer? (s : String) : Option Int64 :=
  let cs := s.toList
  let (neg, ds) := match cs with
    | '-' :: r => (true, r)
    | '+' :: r => (false, r)
    | _ => (false, cs)
  if ds.isEmpty || !ds.all Char.isDigit then none
  else
    let n : Int := (ds.foldl (fun acc c => acc * 10 + (c.toNat - '0'.toNat)) 0 : Nat)
    let v := if neg then -n else n
    if v < -9223372036854775808 ∨ v > 9223372036854775807 then none else some (Int64.ofInt v)

/-- Reads a flag. -/
def flag? : String → Option Bool
  | "1" | "t" | "T" | "TRUE" | "true" | "True" => some true
  | "0" | "f" | "F" | "FALSE" | "false" | "False" => some false
  | _ => none

/-- A text setting. -/
def text (env : Env) (name fallback : String) : String := (env.lookup name).getD fallback

/-- An integer setting. -/
def int (env : Env) (name : String) (fallback : Int64) : Int64 :=
  ((env.lookup name).bind integer?).getD fallback

/-- A flag setting. -/
def bool (env : Env) (name : String) (fallback : Bool) : Bool :=
  ((env.lookup name).bind flag?).getD fallback

/-- A list setting, split at commas. -/
def list (env : Env) (name : String) (fallback : List String) : List String :=
  match env.lookup name with
  | some v => v.splitOn ","
  | none => fallback

/-- A duration setting: duration text, or whole seconds multiplied out in wrapping
arithmetic. -/
def duration (env : Env) (name : String) (fallback : Int64) : Int64 :=
  match env.lookup name with
  | none => fallback
  | some v =>
    match Duration.parse v with
    | some d => d
    | none =>
      match integer? v with
      | some s => s * 1000000000
      | none => fallback

end Env

/-- Where the service listens and how long it waits to stop. -/
structure ServerSettings where
  appEnv : String
  grpcPort : String
  shutdownTimeout : Int64

/-- How the service logs. -/
structure LoggerSettings where
  level : String
  encoding : String
  disableCaller : Bool
  disableStacktrace : Bool

/-- Where the ledger keeps its data and how it locks keys. -/
structure LedgerSettings where
  store : String
  lockBackend : String
  lockTtl : Int64
  lockAttempts : Int64
  lockRetryDelay : Int64
  catalogValidation : Bool
  syncCheckInterval : Int64

/-- The database connection. -/
structure DatabaseSettings where
  host : String
  port : String
  user : String
  password : String
  name : String
  sslMode : String
  maxOpenConns : Int64
  maxIdleConns : Int64
  connMaxLifetime : Int64
  connMaxIdleTime : Int64

/-- The lock server connection. -/
structure LockServerSettings where
  address : String
  password : String
  db : Int64

/-- The message broker. -/
structure BrokerSettings where
  enabled : Bool
  brokers : List String
  ordersTopic : String
  syncTopic : String
  syncResultsTopic : String
  groupId : String

/-- Trace export. -/
structure TelemetrySettings where
  serviceName : String
  serviceVersion : String
  endpoint : String
  urlPath : String
  insecure : Bool
  exportTimeout : Int64

/-- Every setting of the service. -/
structure Settings where
  server : ServerSettings
  logger : LoggerSettings
  ledger : LedgerSettings
  database : DatabaseSettings
  lockServer : LockServerSettings
  broker : BrokerSettings
  telemetry : TelemetrySettings

namespace Settings

/-- One second in nanoseconds. -/
def second : Int64 := 1000000000

/-- Reads every setting from the environment. -/
def load (env : Env) : Settings where
  server :=
    { appEnv := env.text "APP_ENV" "dev", grpcPort := env.text "GRPC_PORT" ":8083",
      shutdownTimeout := env.duration "SHUTDOWN_TIMEOUT" (10 * second) }
  logger :=
    { level := env.text "LOGGER_LEVEL" "debug", encoding := env.text "LOGGER_ENCODING" "console",
      disableCaller := env.bool "LOGGER_DISABLE_CALLER" false,
      disableStacktrace := env.bool "LOGGER_DISABLE_STACKTRACE" true }
  ledger :=
    { store := env.text "LEDGER_STORE" "memory", lockBackend := env.text "LOCK_BACKEND" "local",
      lockTtl := env.duration "LOCK_TTL" (5 * second), lockAttempts := env.int "LOCK_ATTEMPTS" 3,
      lockRetryDelay := env.duration "LOCK_RETRY_DELAY" 100000000,
      catalogValidation := env.bool "CATALOG_VALIDATION" false,
      syncCheckInterval := env.duration "SYNC_CHECK_INTERVAL" (60 * second) }
  database :=
    { host := env.text "POSTGRES_HOST" "localhost", port := env.text "POSTGRES_PORT" "5433",
      user := env.text "POSTGRES_USER" "omnipos", password := env.text "POSTGRES_PASSWORD" "omnipos",
      name := env.text "POSTGRES_DB" "omnipos_inventory", sslMode := env.text "POSTGRES_SSLMODE" "disable",
      maxOpenConns := env.int "POSTGRES_MAX_OPEN_CONNS" 10, maxIdleConns := env.int "POSTGRES_MAX_IDLE_CONNS" 5,
      connMaxLifetime := env.int "POSTGRES_CONN_MAX_LIFETIME" 300,
      connMaxIdleTime := env.int "POSTGRES_CONN_MAX_IDLE_TIME" 60 }
  lockServer :=
    { address := env.text "REDIS_ADDR" "localhost:6379", password := env.text "REDIS_PASSWORD" "",
      db := env.int "REDIS_DB" 0 }
  broker :=
    { enabled := env.bool "KAFKA_ENABLED" false, brokers := env.list "KAFKA_BROKERS" ["localhost:9092"],
      ordersTopic := env.text "KAFKA_TOPIC_ORDERS" "orders.events",
      syncTopic := env.text "KAFKA_TOPIC_SYNC" "inventory.sync",
      syncResultsTopic := env.text "KAFKA_TOPIC_SYNC_RESULTS" "inventory.sync.results",
      groupId := env.text "KAFKA_GROUP_INVENTORY" "inventory" }
  telemetry :=
    { serviceName := env.text "OTEL_SERVICE_NAME" "omnipos-inventory-service",
      serviceVersion := env.text "OTEL_SERVICE_VERSION" "dev",
      endpoint := env.text "OTEL_EXPORTER_ENDPOINT" "", urlPath := env.text "OTEL_EXPORTER_URL_PATH" "/v1/traces",
      insecure := env.bool "OTEL_EXPORTER_INSECURE" true,
      exportTimeout := env.duration "OTEL_EXPORT_TIMEOUT" (10 * second) }

/-- The settings as a JSON document, sections and fields under their setting names. -/
def toJson (s : Settings) : Json :=
  .object [
    ("Server", .object [("AppEnv", .string s.server.appEnv), ("GRPCPort", .string s.server.grpcPort),
      ("ShutdownTimeout", .ofInt64 s.server.shutdownTimeout)]),
    ("Logger", .object [("Level", .string s.logger.level), ("Encoding", .string s.logger.encoding),
      ("DisableCaller", .bool s.logger.disableCaller), ("DisableStacktrace", .bool s.logger.disableStacktrace)]),
    ("Ledger", .object [("Store", .string s.ledger.store), ("LockBackend", .string s.ledger.lockBackend),
      ("LockTTL", .ofInt64 s.ledger.lockTtl), ("LockAttempts", .ofInt64 s.ledger.lockAttempts),
      ("LockRetryDelay", .ofInt64 s.ledger.lockRetryDelay),
      ("CatalogValidation", .bool s.ledger.catalogValidation),
      ("SyncCheckInterval", .ofInt64 s.ledger.syncCheckInterval)]),
    ("Postgres", .object [("Host", .string s.database.host), ("Port", .string s.database.port),
      ("User", .string s.database.user), ("Password", .string s.database.password),
      ("DBName", .string s.database.name), ("SSLMode", .string s.database.sslMode),
      ("MaxOpenConns", .ofInt64 s.database.maxOpenConns), ("MaxIdleConns", .ofInt64 s.database.maxIdleConns),
      ("ConnMaxLifetime", .ofInt64 s.database.connMaxLifetime),
      ("ConnMaxIdleTime", .ofInt64 s.database.connMaxIdleTime)]),
    ("Redis", .object [("Addr", .string s.lockServer.address), ("Password", .string s.lockServer.password),
      ("DB", .ofInt64 s.lockServer.db)]),
    ("Kafka", .object [("Enabled", .bool s.broker.enabled), ("Brokers", .array (s.broker.brokers.map .string)),
      ("OrdersTopic", .string s.broker.ordersTopic), ("SyncTopic", .string s.broker.syncTopic),
      ("SyncResultsTopic", .string s.broker.syncResultsTopic), ("GroupID", .string s.broker.groupId)]),
    ("Otel", .object [("ServiceName", .string s.telemetry.serviceName),
      ("ServiceVersion", .string s.telemetry.serviceVersion), ("Endpoint", .string s.telemetry.endpoint),
      ("URLPath", .string s.telemetry.urlPath), ("Insecure", .bool s.telemetry.insecure),
      ("ExportTimeout", .ofInt64 s.telemetry.exportTimeout)])]

end Settings

end StockLedger
