import Bbp.Simulator.EpochStop
import Bbp.Simulator.PropagationAccounting
import Bbp.Simulator.SharedAccounting
import Bbp.ChainView
import Bbp.BlockScheduler
import Bbp.Simulator.TransactionSchedule
import Bbp.Simulator.PauseProgress
import Bbp.Simulator.WorkloadCompletion
import Bbp.Simulator.ObservationStoreInvariant
import Bbp.PeerRegistry
import Bbp.Simulator.LiveInstrumentation
import Bbp.Simulator.CommandReports
import Bbp.Mcp.SseResume
import Bbp.Mcp.SseDelivery
import Bbp.Mcp.SessionRemoval
import Bbp.Mcp.OperationRuns
import Bbp.CgroupRestoration
import Bbp.CgroupStateFile
import Bbp.RuntimeNodeInventory
import Bbp.RuntimeWalletRegistry
import Bbp.NodeLogCollector
import Bbp.RunReportInput
import Bbp.CivilDate
import Bbp.PartitionKeys
import Bbp.Simulator.BoundedSampling
import Bbp.Simulator.RuleHandle
