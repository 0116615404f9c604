import AgentSecurityPlatform.Library.Run
import AgentSecurityPlatform.Runtime.Execute
import AgentSecurityPlatform.Session.Backend

namespace AgentSecurityPlatform

inductive ReinstateThread where
  | waiting (agentId actor reason : String)
  | captured (agentId actor reason : String) (baselineAt : Instant) (evidenceSequence : Nat)
  | composed (agentId actor reason : String) (watermark : BaselineWatermark)
  | committed (agentId : String) (watermark : BaselineWatermark) (agent : Agent)
  | reset (agentId : String) (agent : Agent)
  | resumed (agentId : String) (agent : Agent)
  | finished (r : Except CoordinatorError Agent)

structure Shared where
  world : World
  held : List String

namespace ReinstateThread

def release (p : Shared) (agentId : String) (w : World) (r : Except CoordinatorError Agent) :
    Shared × ReinstateThread :=
  ({ world := w, held := p.held.erase agentId }, .finished r)

def step (t : Tick) (p : Shared) : ReinstateThread → Option (Shared × ReinstateThread)
  | .waiting agentId actor reason =>
    if agentId ∈ p.held then none
    else some ({ p with held := agentId :: p.held },
      .captured agentId actor reason t.wall
        (p.world.findings.captureEvidenceBaselineSequence agentId t.wall))
  | .captured agentId actor reason baselineAt evidenceSequence =>
    some (p, .composed agentId actor reason
      { agentId
        baselineAt := some baselineAt
        baselineEvidenceSequence := evidenceSequence
        baselineAgentSequence := p.world.sessions.currentAgentSequence agentId })
  | .composed agentId actor reason watermark =>
    match p.world.agents.reinstateAgent t.wall t.uuid agentId actor reason (some watermark) with
    | (agents, .error e) =>
      some (release p agentId { p.world with agents } (.error (.agent e)))
    | (agents, .ok agent) =>
      some ({ p with world := { p.world with agents } }, .committed agentId watermark agent)
  | .committed agentId watermark agent =>
    match p.world.aggregator.resetToBaseline t.wall watermark with
    | (aggregator, .error e) =>
      some (release p agentId { p.world with aggregator } (.error (.projection e)))
    | (aggregator, .ok _) =>
      some ({ p with world := { p.world with aggregator } }, .reset agentId agent)
  | .reset agentId agent =>
    some ({ p with world := p.world.resumeIssuance agentId }, .resumed agentId agent)
  | .resumed agentId agent =>
    some (release p agentId p.world ((p.world.containmentCleared agentId).map (fun _ => agent)))
  | .finished _ => none

end ReinstateThread

def ExecuteThread.waitsFor (t : Tick) (w : World) : ExecuteThread → Option String
  | .detected s => some s.request.agentId
  | .rated s =>
    match w.aggregator.getPosture t.wall s.request.agentId with
    | .ok posture => if posture.state = .healthy then none else some s.request.agentId
    | .error _ => none
  | _ => none

inductive PlatformThread where
  | execute (t : ExecuteThread)
  | reinstate (t : ReinstateThread)
  | disable (agentId : String) (actor : Actor)
  | disabled (agentId : String) (r : Except AgentServiceError AgentAdministrativeState)
  | claim (presented : Presented) (requested : ExecutionBinding)
  | claimed (r : Except ExecutionBindingError Unit)
  | suspension (agentId reason : String) (trigger : Option EnforcementTrigger)
  | recovery (agentId actor reason : String) (watermark : Option BaselineWatermark)
  | transitioned (r : Except AgentServiceError Agent)
  | session (w : SessionWork)

abbrev Platform := Pool Shared PlatformThread

namespace Platform

def step (d : Deployment) : Pool.Machine Tick Shared PlatformThread
  | t, p, .execute e =>
    if (e.waitsFor t p.world).any (· ∈ p.held) then none
    else (p.world.execute d t e).map (fun r => ({ p with world := r.1 }, .execute r.2))
  | t, p, .reinstate e => (ReinstateThread.step t p e).map (fun r => (r.1, .reinstate r.2))
  | t, p, .disable agentId actor =>
    let (agents, r) := p.world.agents.disableAgent t.wall t.uuid t.uuid agentId actor
    some ({ p with world := { p.world with agents } }, .disabled agentId r)
  | t, p, .claim presented requested =>
    let (authority, r) := p.world.authority.claimGrant d.signing t.mono presented requested
    some ({ p with world := { p.world with authority } }, .claimed r)
  | t, p, .suspension agentId reason trigger =>
    let (agents, r) := p.world.agents.suspendAgent t.wall t.uuid agentId reason trigger
    some ({ p with world := { p.world with agents } }, .transitioned r)
  | t, p, .recovery agentId actor reason watermark =>
    let (agents, r) := p.world.agents.reinstateAgent t.wall t.uuid agentId actor reason watermark
    some ({ p with world := { p.world with agents } }, .transitioned r)
  | _, p, .session w =>
    (w.stepInMemory d.retention p.world.sessions).map
      (fun r => ({ p with world := { p.world with sessions := r.1 } }, .session r.2))
  | _, _, .disabled _ _ => none
  | _, _, .claimed _ => none
  | _, _, .transitioned _ => none

end Platform

end AgentSecurityPlatform
