import TradingConfig.Main
import TradingConfig.Store.Memory
import TradingConfig.Store.Scripted
import TradingConfig.Repository.Service
import TradingConfig.Shipped.Strategies
import TradingConfig.Shipped.Markets
import TradingConfig.Shipped.Exchange
import TradingConfig.Proofs.Record.Codec
import TradingConfig.Proofs.File.Replace
import TradingConfig.Proofs.Store.SaveLoad
import TradingConfig.Proofs.Repository.Catalog
import TradingConfig.Proofs.Repository.Twin
import TradingConfig.Proofs.Repository.Linearizability
import TradingConfig.Proofs.Datastore.Independence
import TradingConfig.Proofs.Datastore.Stock
import TradingConfig.Proofs.Watcher.Convergence
import TradingConfig.Snapshot.Interleaving
import TradingConfig.Proofs.Snapshot.Consistency
import TradingConfig.Proofs.Schema.Compile
import TradingConfig.Proofs.Shipped.ExchangeSchema
import TradingConfig.Proofs.Codec.Reading
import TradingConfig.Proofs.Schema.Check
import TradingConfig.Proofs.Shipped.Credentials
import TradingConfig.Proofs.File.Alike
import TradingConfig.Proofs.Repository.Credentials
import TradingConfig.Proofs.Repository.ExchangeFiles
import TradingConfig.Proofs.Repository.Lockstep
import TradingConfig.Repository.Operation
import TradingConfig.Repository.Replay
import TradingConfig.Watcher.Vigil
import TradingConfig.Proofs.Repository.Upkeep
import TradingConfig.Proofs.Datastore.Upkeep
import TradingConfig.Proofs.Watcher.Exactness
import TradingConfig.Proofs.Repository.Poison
import TradingConfig.Proofs.Shipped.MarketsSchema
import TradingConfig.Proofs.Repository.Removal
import TradingConfig.Proofs.Repository.Service
import TradingConfig.Proofs.Repository.Exclusion
import TradingConfig.Proofs.Shipped.StrategiesSchema
import TradingConfig.Proofs.Schema.Agreement
import TradingConfig.Proofs.Shipped.Shapes
import TradingConfig.Proofs.Repository.Rewrite
import TradingConfig.Proofs.Shipped.ExchangeShape
import TradingConfig.Store.Saving
import TradingConfig.Proofs.Store.Saving
import TradingConfig.Repository.Transcript
import TradingConfig.Proofs.Repository.Transcript
import TradingConfig.Proofs.Repository.Neighbours
import TradingConfig.Proofs.Schema.Demand
import TradingConfig.Proofs.Shipped.ExchangeDemands
import TradingConfig.Proofs.Repository.Acceptance
import TradingConfig.Proofs.Text.ByteOrder
import TradingConfig.Proofs.Record.NormalForm
import TradingConfig.Proofs.Record.Builder
import TradingConfig.Proofs.Repository.Lookup
import TradingConfig.Proofs.Repository.Commutation
import TradingConfig.Proofs.Repository.Cancellation
import TradingConfig.File.Absolute
import TradingConfig.Proofs.File.Absolute
import TradingConfig.Repository.Registry
import TradingConfig.Proofs.Repository.Registry
import TradingConfig.Proofs.Entity.Codec
import TradingConfig.Snapshot.Memories
import TradingConfig.Proofs.Snapshot.Dangling
import TradingConfig.Proofs.File.Again
import TradingConfig.Proofs.Shipped.StoredExchange
import TradingConfig.Proofs.Shipped.Tidied
import TradingConfig.Proofs.Repository.WriteBack
