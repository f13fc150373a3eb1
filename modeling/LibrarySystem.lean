import LibrarySystem.Foundation.Machine
import LibrarySystem.Foundation.Result
import LibrarySystem.Python.Text
import LibrarySystem.Python.Time
import LibrarySystem.Python.Iso
import LibrarySystem.Python.Bytes
import LibrarySystem.Python.Json
import LibrarySystem.Python.JsonParse
import LibrarySystem.Python.Runtime
import LibrarySystem.Domain.SharedKernel
import LibrarySystem.Domain.Events
import LibrarySystem.Domain.Lending
import LibrarySystem.Domain.Catalog
import LibrarySystem.Domain.Patron
import LibrarySystem.Foundation.Method
import LibrarySystem.Domain.Methods
import LibrarySystem.Domain.BookHistory
import LibrarySystem.Domain.LoanHistory
import LibrarySystem.Events.Registry
import LibrarySystem.Events.Construction
import LibrarySystem.Events.RoundTrip
import LibrarySystem.Events.Publication
import LibrarySystem.Events.AggregateCalls
import LibrarySystem.Events.Consumer
import LibrarySystem.Events.Parking
import LibrarySystem.Messaging.DeadLetter
import LibrarySystem.Messaging.KafkaClient
import LibrarySystem.Messaging.Consumption
import LibrarySystem.Resilience.CircuitBreaker
import LibrarySystem.Resilience.BreakerRules
import LibrarySystem.Resilience.BreakerCalls
import LibrarySystem.Delivery.Inbox
import LibrarySystem.Delivery.InboxExclusion
import LibrarySystem.Delivery.NotificationRetries
import LibrarySystem.Projection.SearchIndex
import LibrarySystem.Projection.ElasticsearchSync
import LibrarySystem.Projection.Reindex
import LibrarySystem.Projection.RowProgress
import LibrarySystem.Projection.RowSteps
import LibrarySystem.Projection.ZeroLoss
import LibrarySystem.Foundation.Run
import LibrarySystem.Foundation.Interleaving
import LibrarySystem.Domain.BookTransitions
import LibrarySystem.Persistence.Columns
import LibrarySystem.Persistence.Rows
import LibrarySystem.Persistence.Database
import LibrarySystem.Application.Exceptions
import LibrarySystem.Persistence.UnitOfWork
import LibrarySystem.Persistence.SessionRules
import LibrarySystem.Persistence.Effects
import LibrarySystem.Application.Idempotency
import LibrarySystem.Application.CatalogCommands
import LibrarySystem.Application.LendingCommands
import LibrarySystem.Application.PatronCommands
import LibrarySystem.Application.CatalogEffects
import LibrarySystem.Application.LendingEffects
import LibrarySystem.Application.PatronEffects
import LibrarySystem.Application.OutboxExactness
import LibrarySystem.Delivery.EventDispatcher
import LibrarySystem.Foundation.Sql
import LibrarySystem.Persistence.Constructors
import LibrarySystem.Persistence.Models
import LibrarySystem.Persistence.Rehydration
import LibrarySystem.Foundation.Keyset
import LibrarySystem.Python.UrlsafeBase64
import LibrarySystem.Persistence.Alone
import LibrarySystem.Application.OperationKeys
import LibrarySystem.Application.Respelling
import LibrarySystem.Query.ReadModels
import LibrarySystem.Foundation.Like
import LibrarySystem.Query.Pagination
import LibrarySystem.Query.Listings
import LibrarySystem.Projection.Freshness
import LibrarySystem.Messaging.Replay
import LibrarySystem.Messaging.PollBudget
import LibrarySystem.Composition.RuntimeConfig
import LibrarySystem.Foundation.Separated
import LibrarySystem.Composition.EtcdConfig
import LibrarySystem.Composition.ConfigTree
import LibrarySystem.Composition.ConfigStorage
import LibrarySystem.Composition.ConfigSurvival
import LibrarySystem.Foundation.RowLocks
import LibrarySystem.Persistence.Transactions
import LibrarySystem.Persistence.TransactionRules
import LibrarySystem.Persistence.LostUpdates
import LibrarySystem.Application.Reservations
import LibrarySystem.Application.ExpirySweep
import LibrarySystem.Query.KeysetWalks
import LibrarySystem.Query.FindPage
import LibrarySystem.Query.Cursors
import LibrarySystem.Query.ReadPaths
import LibrarySystem.Foundation.Coroutine
import LibrarySystem.Foundation.Processes
import LibrarySystem.Caching.CacheAdapter
import LibrarySystem.Caching.CacheFence
import LibrarySystem.Application.Requests
import LibrarySystem.Application.Lineage
import LibrarySystem.Application.OperationMirror
import LibrarySystem.Application.OperationRecords
import LibrarySystem.Application.StoredResponses
import LibrarySystem.Application.KeyedRequests
import LibrarySystem.Application.KeyedRuns
import LibrarySystem.Application.CommandFacts
import LibrarySystem.Application.LoanAdmission
import LibrarySystem.Foundation.Lasting
import LibrarySystem.Foundation.SemanticLock
import LibrarySystem.Application.WorkflowHandlers
import LibrarySystem.Application.BorrowSaga
import LibrarySystem.Application.SagaSafety
import LibrarySystem.Foundation.LockAgreement
import LibrarySystem.Application.SagaQuiescence
import LibrarySystem.Foundation.Verdicts
import LibrarySystem.Application.ReplaySafety
