import AgentSecurityPlatform.Lifecycle.Administrative
import AgentSecurityPlatform.Library.Text

namespace AgentSecurityPlatform

def runtimeActor : String := "runtime"

def systemRegistrationActor : Actor := ⟨.system, "system", by decide⟩

inductive AgentServiceError where
  | agentAlreadyExists (agentId : String)
  | agentNotFound (agentId : String)
  | agentNotSuspended (agentId : String)
  | enforcementConcurrency (agentId : String) (expectedEpoch : Nat)
  | administrativeConcurrency (agentId : String) (expectedVersion : Nat)
  | illegalAdministrativeTransition (agentId : String)
      (previous : Option AdministrativeLifecycleState) (new : AdministrativeLifecycleState)
  | missingActor
  | missingReason
  | administrativeTransitionInvariant
  | enforcementStateUnavailable
  deriving DecidableEq, Repr

structure AgentService where
  agents : AgentRepository
  administrative : AdministrativeStateRepository
  enforcement : EnforcementStateRepository

namespace AgentService

def empty : AgentService := ⟨.empty, .empty, .empty⟩

def projectStatus (administrative : Option AgentAdministrativeState)
    (enforcement : Option AgentEnforcementState) : AgentStatus :=
  match administrative with
  | none => .registered
  | some a =>
    if a.state = .disabled then .disabled
    else if isSuspended enforcement then .suspended
    else if a.state = .active then .active
    else .registered

def isDisabled (s : AgentService) (agentId : String) : Bool :=
  (s.administrative.getState agentId).map (·.state) = some .disabled

def getAgent (s : AgentService) (agentId : String) : Except AgentServiceError Agent :=
  match s.agents.get agentId with
  | none => .error (.agentNotFound agentId)
  | some agent =>
    .ok { agent with
      status := projectStatus (s.administrative.getState agentId) (s.enforcement.getState agentId) }

def registerAgent (s : AgentService) (now : Instant) (transitionUuid correlationUuid : String)
    (agent : Agent) (actor : Actor := systemRegistrationActor)
    (correlationId : Option String := none) : AgentService × Except AgentServiceError Agent :=
  let t : AdministrativeTransition :=
    { transitionId := "admin-transition-" ++ transitionUuid
      agentId := agent.agentId
      action := .register
      actor
      reason := "Agent registered"
      previousState := none
      newState := .registered
      administrativeVersionBefore := 0
      administrativeVersionAfter := 1
      correlationId := (correlationId.filter (· ≠ "")).getD ("corr-" ++ correlationUuid)
      occurredAt := .utc now }
  let state : AgentAdministrativeState := ⟨agent.agentId, .registered, 1, some (.utc now)⟩
  match s.administrative.commitRegistration s.agents agent t state with
  | .ok (agents, administrative) => ({ s with agents, administrative }, .ok agent)
  | .error .agentAlreadyRegistered => (s, .error (.agentAlreadyExists agent.agentId))
  | .error .transitionInvariant => (s, .error .administrativeTransitionInvariant)

def administrativeTransition (s : AgentService) (now : Instant)
    (transitionUuid correlationUuid : String) (agentId : String)
    (newState : AdministrativeLifecycleState) (actor : Actor) (reason : String)
    (correlationId : Option String) :
    AgentService × Except AgentServiceError AgentAdministrativeState :=
  let current := s.administrative.getState agentId
  let previousState := current.map (·.state)
  let expectedVersion := (current.map (·.administrativeVersion)).getD 0
  if !isLegalAdministrativeTransition previousState newState then
    (s, .error (.illegalAdministrativeTransition agentId previousState newState))
  else match administrativeTransitionActions (previousState, newState) with
  | none => (s, .error .administrativeTransitionInvariant)
  | some action =>
    let t : AdministrativeTransition :=
      { transitionId := "admin-transition-" ++ transitionUuid
        agentId
        action
        actor
        reason
        previousState
        newState
        administrativeVersionBefore := expectedVersion
        administrativeVersionAfter := expectedVersion + 1
        correlationId := (correlationId.filter (· ≠ "")).getD ("corr-" ++ correlationUuid)
        occurredAt := .utc now }
    let updated : AgentAdministrativeState :=
      ⟨agentId, newState, expectedVersion + 1, some (.utc now)⟩
    match s.administrative.recordTransition t updated expectedVersion with
    | (administrative, .ok true) => ({ s with administrative }, .ok updated)
    | (administrative, .ok false) =>
      ({ s with administrative }, .error (.administrativeConcurrency agentId expectedVersion))
    | (administrative, .error _) =>
      ({ s with administrative }, .error .administrativeTransitionInvariant)

def enterState (s : AgentService) (now : Instant) (transitionUuid correlationUuid : String)
    (agentId : String) (newState : AdministrativeLifecycleState) (actor : Actor)
    (reason : String) (correlationId : Option String) :
    AgentService × Except AgentServiceError AgentAdministrativeState :=
  match s.getAgent agentId with
  | .error e => (s, .error e)
  | .ok _ => s.administrativeTransition now transitionUuid correlationUuid agentId newState actor
      reason correlationId

def activateAgent (s : AgentService) (now : Instant) (transitionUuid correlationUuid : String)
    (agentId : String) (actor : Actor) (reason : String := "Agent activated")
    (correlationId : Option String := none) :
    AgentService × Except AgentServiceError AgentAdministrativeState :=
  s.enterState now transitionUuid correlationUuid agentId .active actor reason correlationId

def disableAgent (s : AgentService) (now : Instant) (transitionUuid correlationUuid : String)
    (agentId : String) (actor : Actor) (reason : String := "Agent disabled")
    (correlationId : Option String := none) :
    AgentService × Except AgentServiceError AgentAdministrativeState :=
  s.enterState now transitionUuid correlationUuid agentId .disabled actor reason correlationId

def lifecycleRefusal (s : AgentService) (agentId : String) : Option LifecycleRefusalCode :=
  evaluateLifecycleAuthorization (s.administrative.getState agentId) true
    (s.enforcement.getState agentId) true

def suspendedState (state : AgentEnforcementState) (now : Instant) (reason : String) :
    AgentEnforcementState :=
  { state with
    epoch := state.epoch + 1
    suspendedAt := some now
    suspensionReason := some reason
    lastTransitionAt := some now }

def reinstatedState (state : AgentEnforcementState) (now : Instant)
    (watermark : Option BaselineWatermark) : AgentEnforcementState :=
  { state with
    epoch := state.epoch + 1
    suspendedAt := none
    suspensionReason := none
    enforcementBaselineAt := some ((watermark.bind (·.baselineAt)).getD now)
    baselineEvidenceSequence := (watermark.map (·.baselineEvidenceSequence)).getD 0
    baselineAgentSequence := (watermark.map (·.baselineAgentSequence)).getD 0
    recoveryGeneration := state.recoveryGeneration + 1
    lastTransitionAt := some now }

def currentState (s : AgentService) (agentId : String) : AgentEnforcementState :=
  (s.enforcement.getState agentId).getD { agentId }

def transition (s : AgentService) (now : Instant) (uuid : String) (agent : Agent)
    (newStatus : AgentStatus) (action : EnforcementAction) (actor reason : String)
    (trigger : Option EnforcementTrigger) (watermark : Option BaselineWatermark) :
    AgentService × Except AgentServiceError Agent :=
  if action = .suspend ∧ s.isDisabled agent.agentId then (s, .ok agent)
  else
    let state := s.currentState agent.agentId
    let newState := match action with
      | .suspend => suspendedState state now reason
      | .reinstate => reinstatedState state now watermark
    let t : EnforcementTransition :=
      { transitionId := "transition-" ++ uuid
        agentId := agent.agentId
        action
        actor
        reason
        previousStatus := agent.status
        newStatus
        trigger
        occurredAt := now }
    match s.enforcement.recordTransition t newState state.epoch with
    | (enforcement, .ok true) =>
      ({ s with enforcement },
        .ok { agent with
          status := projectStatus (s.administrative.getState agent.agentId) (some newState) })
    | (enforcement, .ok false) =>
      ({ s with enforcement }, .error (.enforcementConcurrency agent.agentId state.epoch))
    | (enforcement, .error _) => ({ s with enforcement }, .error .enforcementStateUnavailable)

def suspendAgent (s : AgentService) (now : Instant) (uuid : String) (agentId reason : String)
    (trigger : Option EnforcementTrigger) : AgentService × Except AgentServiceError Agent :=
  match s.getAgent agentId with
  | .error e => (s, .error e)
  | .ok agent =>
    if isSuspended (s.enforcement.getState agentId) ∨ s.isDisabled agentId then (s, .ok agent)
    else s.transition now uuid agent .suspended .suspend runtimeActor reason trigger none

def reinstateAgent (s : AgentService) (now : Instant) (uuid : String)
    (agentId actor reason : String) (watermark : Option BaselineWatermark) :
    AgentService × Except AgentServiceError Agent :=
  match s.getAgent agentId with
  | .error e => (s, .error e)
  | .ok agent =>
    if Text.strip actor = "" then (s, .error .missingActor)
    else if Text.strip reason = "" then (s, .error .missingReason)
    else if !isSuspended (s.enforcement.getState agentId) then
      (s, .error (.agentNotSuspended agentId))
    else s.transition now uuid agent .active .reinstate actor reason none watermark

def getEnforcementState (s : AgentService) (agentId : String) :
    Except AgentServiceError AgentEnforcementState :=
  match s.getAgent agentId with
  | .error e => .error e
  | .ok _ => .ok (s.currentState agentId)

def watermarkOf (agentId : String) (state : AgentEnforcementState) : BaselineWatermark :=
  ⟨agentId, state.enforcementBaselineAt, state.baselineEvidenceSequence,
    state.baselineAgentSequence⟩

def getCurrentBaseline (s : AgentService) (agentId : String) :
    Except AgentServiceError BaselineWatermark :=
  match s.getEnforcementState agentId with
  | .error e => .error e
  | .ok state => .ok (watermarkOf agentId state)

end AgentService

end AgentSecurityPlatform
