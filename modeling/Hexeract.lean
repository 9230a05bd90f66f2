import Hexeract.LibraryFramedBytes
import Hexeract.LibraryDecimalText
import Hexeract.LibraryCalendar
import Hexeract.LibraryCollections
import Hexeract.LibraryMachines
import Hexeract.LibraryInterleavings
import Hexeract.LibraryCodes
import Hexeract.LibrarySplitting
import Hexeract.LibraryTables
import Hexeract.LibrarySqlText
import Hexeract.LibrarySql
import Hexeract.LibrarySqlSemantics
import Hexeract.LibraryPrograms
import Hexeract.StdTime
import Hexeract.BusErrors
import Hexeract.BusEnvelope
import Hexeract.BusDeadline
import Hexeract.BusEnvelopeCanonical
import Hexeract.BusEnvelopeSecurity
import Hexeract.BusKeyRefresh
import Hexeract.RabbitmqMetadata
import Hexeract.RabbitmqDelivery
import Hexeract.RabbitmqEnvelopeRoundTrip
import Hexeract.RabbitmqMetadataBounds
import Hexeract.RabbitmqWorker
import Hexeract.RabbitmqWorkerRun
import Hexeract.RabbitmqVerification
import Hexeract.RabbitmqWorkerRetry
import Hexeract.RabbitmqRetryBudget
import Hexeract.RabbitmqRetrySignature
import Hexeract.RabbitmqRetryIdentity
import Hexeract.BusReplyAcceptance
import Hexeract.BusRequestRegistry
import Hexeract.BusRegistryEffects
import Hexeract.BusReplyDelivery
import Hexeract.BusReplyGuards
import Hexeract.BusRegistryAccounting
import Hexeract.BusRetiredWindow
import Hexeract.BusRegistryBounds
import Hexeract.BusRequestClient
import Hexeract.BusClientMoves
import Hexeract.BusClientGuards
import Hexeract.BusClientGauge
import Hexeract.BusClientOutcomes
import Hexeract.BusClientReconnect
import Hexeract.BusClientPublications
import Hexeract.BusClientShutdown
import Hexeract.BusResponder
import Hexeract.BusReplyExchange
import Hexeract.BusClientDeadline
import Hexeract.RabbitmqSettlement
import Hexeract.RabbitmqRedaction
import Hexeract.RabbitmqPool
import Hexeract.MediatorPublish
import Hexeract.CliTerminal
import Hexeract.SchedulerStatements
import Hexeract.SchedulerMessages
import Hexeract.SchedulerTrigger
import Hexeract.SchedulerLeases
import Hexeract.SchedulerLifecycle
import Hexeract.SchedulerBackends
import Hexeract.SchedulerWorker
import Hexeract.SchedulerSweep
import Hexeract.SchedulerMemory
import Hexeract.SchedulerMemorySteps
import Hexeract.SchedulerRefinement
import Hexeract.SchedulerFencing
import Hexeract.SchedulerOccurrences
import Hexeract.SchedulerSqliteTime
import Hexeract.SchedulerSqliteOccurrences
import Hexeract.SchedulerWorkers
import Hexeract.SchedulerBudget
import Hexeract.SchedulerDispatches
import Hexeract.OutboxStatements
import Hexeract.OutboxWorkers
import Hexeract.OutboxStranding
import Hexeract.OutboxPolling
import Hexeract.OutboxDeadLetters
import Hexeract.OutboxLeases
import Hexeract.SqlDialect
import Hexeract.OutboxSql
import Hexeract.OutboxSqlExecution
import Hexeract.OutboxSqlStore
import Hexeract.OutboxSqlWorkers
import Hexeract.SchedulerSql
import Hexeract.SchedulerSqlExecution
import Hexeract.SchedulerSqlStore
import Hexeract.SchedulerSqlClients
