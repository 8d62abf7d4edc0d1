import Macr.Accounting.Replay
import Macr.Accounting.Status
import Macr.Approvals.Safety
import Macr.Capability.Governance
import Macr.Cell.Unbricked
import Macr.Coordinator.Containment
import Macr.DispatchSafety
import Macr.Observatory.Soundness
import Macr.Planning.FallbackChain
import Macr.Planning.VerifierGraphs
import Macr.ProviderAdmission.AuthorityCurrent
import Macr.ProviderAdmission.Conservation
import Macr.ProviderAdmission.Fairness
import Macr.ProviderAdmission.Isolation
import Macr.ProviderAdmission.OpenEpisodes
import Macr.Providers.GlmApproval
import Macr.Providers.GrokTruth
import Macr.Queue.Ownership
import Macr.Queue.Pages
import Macr.Runtime.Captures
import Macr.Runtime.Events
import Macr.Runtime.Terminal
import Macr.ScopeRoundTrip
import Macr.Semantic.Delta
import Macr.Semantic.Inspection
import Macr.Semantic.Projection
import Macr.TargetLeaseExclusivity
import Macr.TimestampOrder
