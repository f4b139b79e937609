import StockLedger.Catalog
import StockLedger.Console.Alias
import StockLedger.Console.Answer
import StockLedger.Console.Calls
import StockLedger.Console.Fields
import StockLedger.Console.Ops
import StockLedger.Console.Request
import StockLedger.Console.Rules
import StockLedger.Console.Session
import StockLedger.Console.Show
import StockLedger.Database.Cell
import StockLedger.Database.Scan
import StockLedger.Database.Script
import StockLedger.Failure
import StockLedger.Feed.Source
import StockLedger.Json.Bind
import StockLedger.Json.Read
import StockLedger.Json.Value
import StockLedger.Ledger.Feeds
import StockLedger.Ledger.Inbox
import StockLedger.Ledger.Orders
import StockLedger.Ledger.Places
import StockLedger.Ledger.Sql
import StockLedger.Ledger.State
import StockLedger.Ledger.Stock
import StockLedger.Ledger.Transfers
import StockLedger.Location
import StockLedger.Numeric.Binary64
import StockLedger.Numeric.Shortest
import StockLedger.Quantity
import StockLedger.Rpc.Inventory
import StockLedger.Rpc.Locations
import StockLedger.Rpc.Method
import StockLedger.Rpc.Render
import StockLedger.Rpc.Service
import StockLedger.Rpc.Status
import StockLedger.Rpc.Sync
import StockLedger.Rpc.Transfers
import StockLedger.Service.Settings
import StockLedger.Service.Telemetry
import StockLedger.Stock.Adjustment
import StockLedger.Stock.Book
import StockLedger.Stock.Level
import StockLedger.Stock.Move
import StockLedger.Store.Levels
import StockLedger.Store.Locations
import StockLedger.Store.Products
import StockLedger.Store.Sources
import StockLedger.Store.Transfers
import StockLedger.Text.Printable
import StockLedger.Text.Quoted
import StockLedger.Time.Duration
import StockLedger.Time.Instant
import StockLedger.Time.Rfc3339
import StockLedger.Transfer.Basic
import StockLedger.Wire.Payload
import StockLedger.Wire.Protobuf
import StockLedger.Proofs.Outcome
import StockLedger.Proofs.StockWrites
import StockLedger.Proofs.Tally
import StockLedger.Proofs.TransferInvariant
import StockLedger.Proofs.TransferEngine
import StockLedger.Proofs.TransferRuns
import StockLedger.Proofs.TransferReservations
import StockLedger.Proofs.ReservedShipments
import StockLedger.Proofs.TransferSides
import StockLedger.Proofs.LedgerSound
import StockLedger.Proofs.Saturating
import StockLedger.Proofs.OrderHoldings
import StockLedger.Proofs.OrderAccounts
import StockLedger.Proofs.OrderListener
import StockLedger.Proofs.OrderRuns
import StockLedger.Proofs.StockCalls
import StockLedger.Proofs.StockTrail
import StockLedger.Proofs.LevelBounds
import StockLedger.Proofs.SyncBatches
import StockLedger.Proofs.TransferLifecycle
import StockLedger.Proofs.CancelSettles
import StockLedger.Proofs.StartRollback
import StockLedger.Proofs.OrderCreated
import StockLedger.Proofs.ExactFigures
import StockLedger.Proofs.LineMerging
import StockLedger.Proofs.Resumption
import StockLedger.Proofs.DueClaims
import StockLedger.Proofs.Listings
import StockLedger.Proofs.HistoryQuery
import StockLedger.Proofs.LevelListing
import StockLedger.Proofs.SourceInterval
import StockLedger.Proofs.LevelTransaction
import StockLedger.Proofs.LocationRegistry
