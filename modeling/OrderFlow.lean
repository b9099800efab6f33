import OrderFlow.Core.TransitionSystem
import OrderFlow.Core.LockTable
import OrderFlow.Core.GroupedSum
import OrderFlow.Core.Grpc
import OrderFlow.Core.Regroup
import OrderFlow.Inventory.Feasibility
import OrderFlow.Inventory.Simulation
import OrderFlow.Inventory.Conservation
import OrderFlow.Inventory.Atomic
import OrderFlow.Inventory.IdempotencyKey
import OrderFlow.Inventory.Replay
import OrderFlow.Inventory.LockOrder
import OrderFlow.Inventory.ReplayedAnswer
import OrderFlow.Inventory.ReleaseInverse
import OrderFlow.Inventory.Twins
import OrderFlow.Inventory.BulkRuns
import OrderFlow.Inventory.Columns
import OrderFlow.Inventory.ColumnReserve
import OrderFlow.Inventory.ColumnRelease
import OrderFlow.Inventory.BestEffort
import OrderFlow.Inventory.StreamAgreement
import OrderFlow.Inventory.Servicer
import OrderFlow.Inventory.NoLostUpdate
import OrderFlow.Inventory.SnapshotFirst
import OrderFlow.Orders.Models
import OrderFlow.Orders.Service
import OrderFlow.Orders.CreateOrder
import OrderFlow.Orders.Compensation
import OrderFlow.Orders.Retries
import OrderFlow.Orders.Concurrent
import OrderFlow.Orders.BackedOrders
import OrderFlow.Orders.RetryPolicy
import OrderFlow.Orders.RetryStages
import OrderFlow.Orders.LateCopies
import OrderFlow.Orders.BulkAgreement
import OrderFlow.Orders.BulkStranding
import OrderFlow.Inventory.Rejection
import OrderFlow.Core.GrpcServer
import OrderFlow.Inventory.Interceptors
import OrderFlow.Inventory.Unsubscribed
import OrderFlow.Inventory.WatchHistory
import OrderFlow.Orders.AuthGate
import OrderFlow.Orders.Ranges
import OrderFlow.Core.Binary64
import OrderFlow.Core.Json
import OrderFlow.Core.JsonRecord
import OrderFlow.Core.PyInt
import OrderFlow.Inventory.Notifications
import OrderFlow.Inventory.ListenerSurvival
import OrderFlow.Core.Lines
import OrderFlow.Core.ServerStream
import OrderFlow.Inventory.LowStock
import OrderFlow.Orders.LowStock
import OrderFlow.Orders.StockWatch
import OrderFlow.Orders.StockWatchBridge
import OrderFlow.Core.WriteOnce
import OrderFlow.Core.ChangeFeed
import OrderFlow.Orders.Router
import OrderFlow.Orders.BulkSession
import OrderFlow.Orders.Edge
import OrderFlow.Orders.EdgeHistory
import OrderFlow.Orders.EdgeStock
import OrderFlow.Orders.EdgeProgress
import OrderFlow.Inventory.StockTrigger
import OrderFlow.Inventory.LiveWatch
import OrderFlow.Inventory.LiveRefinement
import OrderFlow.Inventory.WatchTraffic
import OrderFlow.Inventory.WatchTeardown
import OrderFlow.Orders.BrowserWatch
import OrderFlow.Orders.BrowserHistory
import OrderFlow.Orders.BrowserTeardown
import OrderFlow.Core.Unwinding
import OrderFlow.Core.GrpcRuns
import OrderFlow.Inventory.Migrations
import OrderFlow.Orders.Site
import OrderFlow.Orders.SiteHistory
import OrderFlow.Orders.GatedRuns
import OrderFlow.Orders.RpcStack
import OrderFlow.Orders.EdgeOutage
import OrderFlow.Core.Custody
import OrderFlow.Orders.Standing
import OrderFlow.Orders.EdgeAgreement
