import AgentSecurityPlatform.Authority.ExecutionAuthority
import AgentSecurityPlatform.Evidence.RiskAggregate
import AgentSecurityPlatform.Lifecycle.AgentService
import AgentSecurityPlatform.Session.Service

namespace AgentSecurityPlatform

structure AuditEvent where
  eventId : String
  sessionId : String
  agentId : String
  requestedToolId : String
  toolId : Option String := none
  toolVersion : Option String := none
  decision : Decision
  timestamp : Instant
  deriving DecidableEq, Repr

structure World where
  agents : AgentService
  sessions : SessionRepository
  findings : FindingsService
  aggregator : RiskAggregator
  authority : ExecutionAuthority
  audit : List AuditEvent

inductive CoordinatorError where
  | agent (e : AgentServiceError)
  | projection (e : ProjectionError)
  | reinstatementIncomplete (agentId : String)
  deriving DecidableEq, Repr

namespace World

def ingestAll (a : RiskAggregator) (now : Instant) (agentId : String) :
    List Finding → RiskAggregator
  | [] => a
  | f :: fs =>
    match a.ingestFinding now f with
    | (a', .ok _) => ingestAll a' now agentId fs
    | (a', .error _) => ingestAll (a'.markStale now agentId) now agentId fs

def acceptFindings (w : World) (now : Instant) (agentId : String) (batch : List Finding) :
    World × List Finding :=
  let (findings, recorded) := w.findings.recordNewFindings now batch
  ({ w with findings, aggregator := ingestAll w.aggregator now agentId recorded }, recorded)

def storedBaseline (w : World) (agentId : String) : BaselineWatermark :=
  match w.agents.getCurrentBaseline agentId with
  | .ok watermark => watermark
  | .error _ => { agentId, baselineAt := none }

def reconcilePosture (w : World) (now : Instant) (agentId : String) :
    World × Option AgentRiskPosture :=
  match w.aggregator.reconcileAgent now agentId
    (w.findings.listFindings { agentId := some agentId }) (w.storedBaseline agentId) with
  | (aggregator, .error _) => ({ w with aggregator }, none)
  | (aggregator, .ok reconciled) =>
    ({ w with aggregator }, if reconciled.state = .healthy then some reconciled else none)

def assessAgentPosture (w : World) (now : Instant) (agentId : String) :
    World × Option AgentRiskPosture :=
  match w.aggregator.getPosture now agentId with
  | .error _ => (w, none)
  | .ok posture =>
    if posture.state = .healthy then (w, some posture) else w.reconcilePosture now agentId

def captureWatermark (w : World) (baselineAt : Instant) (agentId : String) : BaselineWatermark :=
  { agentId
    baselineAt := some baselineAt
    baselineEvidenceSequence := w.findings.captureEvidenceBaselineSequence agentId baselineAt
    baselineAgentSequence := w.sessions.currentAgentSequence agentId }

def suspendAgent (w : World) (now : Instant) (uuid agentId reason : String)
    (trigger : Option EnforcementTrigger) : World × Except AgentServiceError Agent :=
  let (agents, r) := w.agents.suspendAgent now uuid agentId reason trigger
  ({ w with agents }, r)

def markStale (w : World) (now : Instant) (agentId : String) : World :=
  { w with aggregator := w.aggregator.markStale now agentId }

def resumeIssuance (w : World) (agentId : String) : World :=
  { w with authority := w.authority.resumeIssuance agentId }

def containmentCleared (w : World) (agentId : String) : Except CoordinatorError Unit :=
  match w.agents.getEnforcementState agentId with
  | .error e => .error (.agent e)
  | .ok enforcement =>
    if enforcement.suspendedAt.isSome ∨
        .enforcement ∈ w.authority.issuanceClosedPlanes agentId then
      .error (.reinstatementIncomplete agentId)
    else .ok ()

def reinstate (w : World) (baselineAt now : Instant) (uuid agentId actor reason : String) :
    World × Except CoordinatorError Agent :=
  let watermark := w.captureWatermark baselineAt agentId
  match w.agents.reinstateAgent now uuid agentId actor reason (some watermark) with
  | (agents, .error e) => ({ w with agents }, .error (.agent e))
  | (agents, .ok agent) =>
    match w.aggregator.resetToBaseline now watermark with
    | (aggregator, .error e) => ({ w with agents, aggregator }, .error (.projection e))
    | (aggregator, .ok _) =>
      let w' := { w with agents, aggregator }.resumeIssuance agentId
      (w', (w'.containmentCleared agentId).map (fun _ => agent))

def repair (w : World) (now : Instant) (agentId : String) : World × Except CoordinatorError Agent :=
  match w.agents.getAgent agentId with
  | .error e => (w, .error (.agent e))
  | .ok agent =>
    match w.agents.getEnforcementState agentId with
    | .error e => (w, .error (.agent e))
    | .ok enforcement =>
      if enforcement.suspendedAt.isSome then (w, .error (.reinstatementIncomplete agentId))
      else
        match w.aggregator.resetToBaseline now (AgentService.watermarkOf agentId enforcement) with
        | (aggregator, .error e) => ({ w with aggregator }, .error (.projection e))
        | (aggregator, .ok _) =>
          let w' := { w with aggregator }.resumeIssuance agentId
          if w'.authority.issuanceSuspended agentId then
            (w', .error (.reinstatementIncomplete agentId))
          else (w', .ok agent)

end World

end AgentSecurityPlatform
