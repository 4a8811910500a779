import ConnectionTopology.Library.Machine
import ConnectionTopology.Library.Permits
import ConnectionTopology.Library.RowLocks
import ConnectionTopology.Library.Dict
import ConnectionTopology.Library.Text
import ConnectionTopology.Library.Results
import ConnectionTopology.Models
import ConnectionTopology.Services.ServiceObservations
import ConnectionTopology.Services.Scans
import ConnectionTopology.Services.TaskLeases
import ConnectionTopology.Services.ScanQueue
import ConnectionTopology.ScanQueue.Frames
import ConnectionTopology.ScanQueue.Bookkeeping
import ConnectionTopology.ScanQueue.BatchInvariant
import ConnectionTopology.ScanQueue.Fencing
import ConnectionTopology.ScanQueue.Interleaving
import ConnectionTopology.ScanQueue.ItemRace
import ConnectionTopology.ScanQueue.SlotDeadlock
import ConnectionTopology.Services.ImportTests
import ConnectionTopology.Imports.BatchView
import ConnectionTopology.Services.Imports
import ConnectionTopology.Imports.ImportRace
import ConnectionTopology.Imports.TestThreads
import ConnectionTopology.Imports.ImportScan
import ConnectionTopology.Imports.FirstScan
import ConnectionTopology.Library.IpAddress
import ConnectionTopology.Collectors.Base
import ConnectionTopology.Services.TopologyHistory
import ConnectionTopology.Services.Topology
import ConnectionTopology.Topology.ClusterGraph
import ConnectionTopology.Topology.Encodings
import ConnectionTopology.Topology.Narrowing
import ConnectionTopology.Topology.OneHop
import ConnectionTopology.Topology.EdgeDrawer
import ConnectionTopology.Services.TopologyCache
import ConnectionTopology.Topology.CacheClear
import ConnectionTopology.Services.PostgresNotifications
import ConnectionTopology.Topology.ChangeNotifications
import ConnectionTopology.Services.Clusters
import ConnectionTopology.Routes.Clusters
import ConnectionTopology.Clusters.ScanPolicy
import ConnectionTopology.Services.Scheduler
import ConnectionTopology.Scheduler.WantedJobs
import ConnectionTopology.Scheduler.LeaderSchedule
import ConnectionTopology.ScanQueue.ClaimInterleaving
import ConnectionTopology.ScanQueue.GlobalLimit
import ConnectionTopology.ScanQueue.CancelRace
import ConnectionTopology.Imports.TestStatements
import ConnectionTopology.Imports.RowOwner
import ConnectionTopology.ScanQueue.Executions
import ConnectionTopology.ScanQueue.Reclaim
import ConnectionTopology.ScanQueue.EnqueueCalls
import ConnectionTopology.ScanQueue.EnqueueProgress
import ConnectionTopology.ScanQueue.JoinedCalls
import ConnectionTopology.Services.DeviceTopology
import ConnectionTopology.Routes.Scans
import ConnectionTopology.Services.Purge
import ConnectionTopology.Topology.SyncedObservations
import ConnectionTopology.Topology.RawPurge
import ConnectionTopology.Library.Latest
import ConnectionTopology.Topology.Digests
import ConnectionTopology.Topology.ObservationDigests
import ConnectionTopology.Topology.PreAggregation
import ConnectionTopology.Topology.Backfill
import ConnectionTopology.Library.Chunks
import ConnectionTopology.Scheduler.ChunkedPurges
import ConnectionTopology.Services.PostgresLeader
import ConnectionTopology.Scheduler.LeaderHandover
import ConnectionTopology.ScanQueue.ClaimEffect
import ConnectionTopology.ScanQueue.BatchAdmission
import ConnectionTopology.Library.Fields
import ConnectionTopology.Collectors.Linux
import ConnectionTopology.Collectors.SsTokens
import ConnectionTopology.Collectors.SsLines
import ConnectionTopology.Collectors.SsOutput
import ConnectionTopology.Collectors.SsEndpoints
import ConnectionTopology.Collectors.ScopedSockets
import ConnectionTopology.Imports.RowAccounting
import ConnectionTopology.Scheduler.RefusedWrites
import ConnectionTopology.Collectors.Execute
import ConnectionTopology.Topology.ServiceKeys
import ConnectionTopology.Topology.StateFilter
import ConnectionTopology.ScanQueue.Heartbeat
import ConnectionTopology.Services.ObjectCache
import ConnectionTopology.Topology.SingleFlight
import ConnectionTopology.Topology.PrivateCopies
import ConnectionTopology.Services.DatabaseTransactions
import ConnectionTopology.ScanQueue.TransactionRetries
import ConnectionTopology.Topology.EdgePages
import ConnectionTopology.ScanQueue.DeviceDeletion
import ConnectionTopology.Clusters.InternalNetworks
import ConnectionTopology.Library.Sessions
import ConnectionTopology.Routes.RemoteCalls
import ConnectionTopology.Routes.NetworkWaits
import ConnectionTopology.Collectors.Addresses
import ConnectionTopology.Collectors.Windows
import ConnectionTopology.Collectors.NormalForms
import ConnectionTopology.Services.TransactionSlots
import ConnectionTopology.ScanQueue.AdmissionDepth
import ConnectionTopology.ScanQueue.SlotConservation
import ConnectionTopology.Library.WorkerPool
import ConnectionTopology.Library.PoolLifecycle
import ConnectionTopology.ScanQueue.DispatchLoop
import ConnectionTopology.Imports.TestDispatch
import ConnectionTopology.Imports.WatchedRows
import ConnectionTopology.Library.ForeignKeys
import ConnectionTopology.Database.Tables
import ConnectionTopology.Database.Inserts
import ConnectionTopology.Database.Links
import ConnectionTopology.Database.Application
import ConnectionTopology.Database.Inventory
import ConnectionTopology.Database.Frames
import ConnectionTopology.Database.Collected
import ConnectionTopology.Database.Jobs
import ConnectionTopology.Database.Leases
import ConnectionTopology.Database.Tests
import ConnectionTopology.Database.ScanRequests
import ConnectionTopology.Database.Listings
import ConnectionTopology.Library.LikePattern
import ConnectionTopology.Services.DeviceListing
import ConnectionTopology.Services.ScanBatchFailures
import ConnectionTopology.Routes.ScanBatches
