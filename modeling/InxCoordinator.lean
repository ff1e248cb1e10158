import InxCoordinator.Basic
import InxCoordinator.Quorum.Round
import InxCoordinator.Quorum.Group
import InxCoordinator.Quorum.Invariant
import InxCoordinator.Quorum.Progress
import InxCoordinator.Quorum.Verdict
import InxCoordinator.Quorum.Stragglers
import InxCoordinator.Quorum.Channels
import InxCoordinator.Quorum.Sync
import InxCoordinator.Quorum.Stats
import InxCoordinator.Coordinator.Model
import InxCoordinator.Coordinator.Trace
import InxCoordinator.Coordinator.Milestone
import InxCoordinator.Coordinator.Checkpoint
import InxCoordinator.Coordinator.Chain
import InxCoordinator.Coordinator.CrashSafety
import InxCoordinator.Coordinator.Persistence
import InxCoordinator.Coordinator.Operations
import InxCoordinator.Coordinator.Options
