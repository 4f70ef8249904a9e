import Steward.Desired.Json
import Steward.Lab.Json
import Steward.Main
import Steward.Proofs.Completeness
import Steward.Proofs.Convergence
import Steward.Proofs.FirstPass
import Steward.Proofs.Gating
import Steward.Proofs.Inheritance
import Steward.Proofs.PowerHistory
import Steward.Reconcile.Json
import Steward.Proofs.StoppedWindow
import Steward.Proofs.FirstBootRules
import Steward.Proofs.DrivePlacement
import Steward.Proofs.FixedReplies
import Steward.Proofs.Twins
import Steward.Proofs.TwinRuns
import Steward.Proofs.Secrecy
import Steward.Proofs.Provisioning
import Steward.Proofs.OneByOne
import Steward.Proofs.WebRequests
import Steward.Proofs.ReadBack
import Steward.Proofs.DiskPolicy
import Steward.Proofs.RetunedDrive
import Steward.Proofs.Rewriting
import Steward.Proofs.Ownership
import Steward.Proofs.NetworkSlots
import Steward.Proofs.RestartFlag
import Steward.Proofs.Readings
import Steward.Proofs.Reordering
import Steward.Proofs.SlotScan
import Steward.Proofs.PowerSession
import Steward.Proofs.PollTiming
import Steward.Proofs.TaskOutcome
import Steward.Proofs.GracefulShutdown
import Steward.Proofs.Backoff
import Steward.Proofs.Endpoints
import Steward.Proofs.Reencoding
import Steward.Proofs.KeyTransport
import Steward.Proofs.Resizing
import Steward.Proofs.Aggregation
