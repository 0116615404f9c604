import AgentSecurityPlatform.Authority.SingleUse
import AgentSecurityPlatform.Lifecycle.AgentLifecycle
import AgentSecurityPlatform.Evidence.RiskAggregate
import AgentSecurityPlatform.Session.Service
import AgentSecurityPlatform.Detection.ExcessiveDenials
import AgentSecurityPlatform.Authorization.Service
import AgentSecurityPlatform.Runtime.World
import AgentSecurityPlatform.Evidence.Sequences
import AgentSecurityPlatform.Evidence.Projection
import AgentSecurityPlatform.Posture.Steps
import AgentSecurityPlatform.Posture.Invariants
import AgentSecurityPlatform.Posture.Equivalence
import AgentSecurityPlatform.Posture.Laundering
import AgentSecurityPlatform.Posture.Repair
import AgentSecurityPlatform.Posture.PartialWrite
import AgentSecurityPlatform.Evidence.Density
import AgentSecurityPlatform.Containment.Finality
import AgentSecurityPlatform.Containment.Recovery
import AgentSecurityPlatform.Crossings.Identity
import AgentSecurityPlatform.Execution.ReconcilerSoundness
import AgentSecurityPlatform.Lifecycle.Alternation
import AgentSecurityPlatform.Executor.EvidenceProtocol
import AgentSecurityPlatform.Executor.GrantSpending
import AgentSecurityPlatform.Executor.Executability
import AgentSecurityPlatform.Executor.Canonical
import AgentSecurityPlatform.Persistence.EnforcementAdapters
import AgentSecurityPlatform.Persistence.AdministrativeAdapters
import AgentSecurityPlatform.Lifecycle.AdministrativeChain
import AgentSecurityPlatform.Session.IdleExpiry
import AgentSecurityPlatform.Session.Agreement
import AgentSecurityPlatform.Session.Horizon
import AgentSecurityPlatform.Approval.SingleClaim
import AgentSecurityPlatform.Sandbox.Allowlist
import AgentSecurityPlatform.Sandbox.WorkingDirectory
import AgentSecurityPlatform.Sandbox.DigestBinding
import AgentSecurityPlatform.Sandbox.FixedPoints
import AgentSecurityPlatform.Sandbox.BoundaryCrossing
import AgentSecurityPlatform.Authorization.Outages
import AgentSecurityPlatform.Authorization.Monotonicity
import AgentSecurityPlatform.Approval.Storage
import AgentSecurityPlatform.Executor.OutputDigest
import AgentSecurityPlatform.Telemetry.Conservation
import AgentSecurityPlatform.Sandbox.OutputCollection
import AgentSecurityPlatform.Sandbox.ResourceControls
import AgentSecurityPlatform.Sandbox.ProcessSandbox
import AgentSecurityPlatform.Containment.ToolRuns
import AgentSecurityPlatform.Runtime.DeliveredResources
import AgentSecurityPlatform.Executor.RegistryRuns
import AgentSecurityPlatform.Scenario.Runner
import AgentSecurityPlatform.Scenario.Accumulation
