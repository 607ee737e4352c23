import Astronomer.Agent.AssignmentCache
import Astronomer.Agent.Coalesce
import Astronomer.Agent.DeletionEnds
import Astronomer.Auth.Exact
import Astronomer.CacheInvalidate.Revocation
import Astronomer.Charlie.Dispatch
import Astronomer.Charlie.WriteFence
import Astronomer.Delivery.ApprovalGate
import Astronomer.Delivery.Completion
import Astronomer.Delivery.Concealment
import Astronomer.Delivery.ReachableRuntime
import Astronomer.Delivery.SnapshotHeader
import Astronomer.Delivery.SystemRollout.CohortBarrier
import Astronomer.Delivery.SystemRollout.RollbackSound
import Astronomer.Delivery.SystemRollout.ServedGeneration
import Astronomer.Delivery.SystemRollout.Settled
import Astronomer.Delivery.Waves
import Astronomer.DeliveryProvider.Numbering
import Astronomer.Lifecycle.KeyedLock
import Astronomer.Maintenance.Dispatch
import Astronomer.Rbac.NativeScope
import Astronomer.Server.ProxyGate
import Astronomer.Tunnel.ConnectionRow
import Astronomer.Tunnel.Directory
import Astronomer.Tunnel.RoundTrip
import Astronomer.Tunnel.WatchLines
