import AgentSecurityPlatform.Lifecycle.Ledger
import AgentSecurityPlatform.Library.Simulation

namespace AgentSecurityPlatform

inductive EnforcementRequest where
  | suspend (agentId reason : String) (trigger : Option EnforcementTrigger)
  | reinstate (agentId actor reason : String) (watermark : Option BaselineWatermark)
  deriving DecidableEq, Repr

namespace EnforcementRequest

def agentId : EnforcementRequest → String
  | .suspend agentId _ _ => agentId
  | .reinstate agentId _ _ _ => agentId

def action : EnforcementRequest → EnforcementAction
  | .suspend _ _ _ => .suspend
  | .reinstate _ _ _ _ => .reinstate

def actor : EnforcementRequest → String
  | .suspend _ _ _ => runtimeActor
  | .reinstate _ actor _ _ => actor

def reason : EnforcementRequest → String
  | .suspend _ reason _ => reason
  | .reinstate _ _ reason _ => reason

def trigger : EnforcementRequest → Option EnforcementTrigger
  | .suspend _ _ trigger => trigger
  | .reinstate _ _ _ _ => none

def watermark : EnforcementRequest → Option BaselineWatermark
  | .suspend _ _ _ => none
  | .reinstate _ _ _ watermark => watermark

def newStatus : EnforcementRequest → AgentStatus
  | .suspend _ _ _ => .suspended
  | .reinstate _ _ _ _ => .active

def transition (req : EnforcementRequest) (agent : Agent) (now : Instant) (uuid : String) :
    EnforcementTransition :=
  { transitionId := "transition-" ++ uuid
    agentId := agent.agentId
    action := req.action
    actor := req.actor
    reason := req.reason
    previousStatus := agent.status
    newStatus := req.newStatus
    trigger := req.trigger
    occurredAt := now }

def newState (req : EnforcementRequest) (state : AgentEnforcementState) (now : Instant) :
    AgentEnforcementState :=
  AgentService.nextState state now req.reason req.watermark req.action

end EnforcementRequest

inductive LedgerError where
  | service (e : AgentServiceError)
  | repositoryUnavailable
  deriving DecidableEq, Repr

structure LifecycleStores where
  agents : AgentRepository
  administrative : AdministrativeStateRepository
  enforcement : EnforcementBackend

def LifecycleStores.isDisabled (s : LifecycleStores) (agentId : String) : Bool :=
  (s.administrative.getState agentId).map (·.state) = some .disabled

structure LedgerTick where
  now : Instant
  uuid : String
  outage : Bool := false
  deriving DecidableEq, Repr

inductive LedgerThread where
  | start (req : EnforcementRequest)
  | found (req : EnforcementRequest) (agent : Agent)
  | projecting (req : EnforcementRequest) (agent : Agent) (seen : Option AgentEnforcementState)
  | screening (req : EnforcementRequest) (agent : Agent)
  | checking (req : EnforcementRequest) (agent : Agent) (disabled : Bool)
  | entering (req : EnforcementRequest) (agent : Agent)
  | reading (req : EnforcementRequest) (agent : Agent)
  | recording (req : EnforcementRequest) (agent : Agent) (now : Instant)
      (state : AgentEnforcementState)
  | presenting (agent : Agent) (newState : AgentEnforcementState)
  | returned (result : Except LedgerError Agent)

abbrev LedgerPool := Pool LifecycleStores LedgerThread

namespace LedgerThread

def refuse (s : LifecycleStores) (e : AgentServiceError) : LifecycleStores × LedgerThread :=
  (s, .returned (.error (.service e)))

-- one repository call of suspend_agent, reinstate_agent or _transition,
-- with what follows it up to the next
def advance (tick : LedgerTick) (s : LifecycleStores) :
    LedgerThread → LifecycleStores × LedgerThread
  | .start req =>
    match s.agents.get req.agentId with
    | none => refuse s (.agentNotFound req.agentId)
    | some agent => (s, .found req agent)
  | .found req agent => (s, .projecting req agent (s.enforcement.getState req.agentId))
  | .projecting req agent seen =>
    let projected := { agent with
      status := AgentService.projectStatus (s.administrative.getState req.agentId) seen }
    match req with
    | .suspend _ _ _ => (s, .screening req projected)
    | .reinstate _ actor reason _ =>
      if Text.strip actor = "" then refuse s .missingActor
      else if Text.strip reason = "" then refuse s .missingReason
      else (s, .checking req projected false)
  | .screening req agent => (s, .checking req agent (s.isDisabled req.agentId))
  | .checking req agent disabled =>
    let suspended := isSuspended (s.enforcement.getState req.agentId)
    match req with
    | .suspend _ _ _ =>
      if suspended ∨ disabled then (s, .returned (.ok agent)) else (s, .entering req agent)
    | .reinstate agentId _ _ _ =>
      if !suspended then refuse s (.agentNotSuspended agentId) else (s, .entering req agent)
  | .entering req agent =>
    if req.action = .suspend ∧ s.isDisabled agent.agentId then (s, .returned (.ok agent))
    else (s, .reading req agent)
  | .reading req agent =>
    (s, .recording req agent tick.now (s.enforcement.currentState agent.agentId))
  | .recording req agent now state =>
    match s.enforcement.recordTransition (req.transition agent now tick.uuid)
      (req.newState state now) state.epoch with
    | (enforcement, .ok true) =>
      ({ s with enforcement }, .presenting agent (req.newState state now))
    | (enforcement, .ok false) =>
      refuse { s with enforcement } (.enforcementConcurrency agent.agentId state.epoch)
    | (enforcement, .error _) => refuse { s with enforcement } .enforcementStateUnavailable
  | .presenting agent newState =>
    (s, .returned (.ok { agent with
      status := AgentService.projectStatus (s.administrative.getState agent.agentId)
        (some newState) }))
  | .returned result => (s, .returned result)

def step (tick : LedgerTick) (s : LifecycleStores) (t : LedgerThread) :
    Option (LifecycleStores × LedgerThread) :=
  match t with
  | .returned _ => none
  | t => if tick.outage then some (s, .returned (.error .repositoryUnavailable))
      else some (t.advance tick s)

def solo (tick : LedgerTick) : Nat → LifecycleStores → LedgerThread → LifecycleStores × LedgerThread
  | 0, s, t => (s, t)
  | n + 1, s, t =>
    match t.step tick s with
    | none => (s, t)
    | some (s', t') => solo tick n s' t'

theorem solo_returned (tick : LedgerTick) (n : Nat) (s : LifecycleStores)
    (result : Except LedgerError Agent) :
    solo tick n s (.returned result) = (s, .returned result) := by
  cases n <;> rfl

theorem solo_advance {tick : LedgerTick} (h : tick.outage = false) (n : Nat) (s : LifecycleStores)
    {t : LedgerThread} (ht : ∀ result, t ≠ .returned result) :
    solo tick (n + 1) s t = solo tick n (t.advance tick s).1 (t.advance tick s).2 := by
  have hstep : t.step tick s = some (t.advance tick s) := by
    cases t <;> first | exact absurd rfl (ht _) | simp [step, h]
  rw [solo, hstep]

end LedgerThread

def AgentService.stores (s : AgentService) : LifecycleStores :=
  ⟨s.agents, s.administrative, .inMemory s.enforcement⟩

namespace LedgerThread

variable {tick : LedgerTick}

theorem recording_alone (h : tick.outage = false) (s : AgentService) (req : EnforcementRequest)
    (agent : Agent) (now : Instant) (state : AgentEnforcementState) :
    solo tick 2 s.stores (.recording req agent now state) =
      match s.enforcement.recordTransition (req.transition agent now tick.uuid)
        (req.newState state now) state.epoch with
      | (enforcement, .ok true) =>
        ({ s with enforcement }.stores, .returned (.ok { agent with
          status := AgentService.projectStatus (s.administrative.getState agent.agentId)
            (some (req.newState state now)) }))
      | (enforcement, .ok false) => ({ s with enforcement }.stores,
          .returned (.error (.service (.enforcementConcurrency agent.agentId state.epoch))))
      | (enforcement, .error _) => ({ s with enforcement }.stores,
          .returned (.error (.service .enforcementStateUnavailable))) := by
  rw [solo_advance h _ _ (by simp)]
  simp only [advance, AgentService.stores, EnforcementBackend.recordTransition]
  cases s.enforcement.recordTransition (req.transition agent now tick.uuid)
    (req.newState state now) state.epoch with
  | mk enforcement reply =>
    match reply with
    | .ok true =>
      rw [solo_advance h _ _ (by simp)]
      rfl
    | .ok false => rfl
    | .error e => rfl

theorem transition_alone (h : tick.outage = false) (s : AgentService) (req : EnforcementRequest)
    (agent : Agent) : solo tick 4 s.stores (.entering req agent) =
      ((s.transition tick.now tick.uuid agent req.newStatus req.action req.actor req.reason
        req.trigger req.watermark).1.stores,
      .returned ((s.transition tick.now tick.uuid agent req.newStatus req.action req.actor
        req.reason req.trigger req.watermark).2.mapError .service)) := by
  rw [solo_advance h _ _ (by simp)]
  simp only [advance]
  have hdisabled : s.stores.isDisabled agent.agentId = s.isDisabled agent.agentId := rfl
  rw [hdisabled]
  unfold AgentService.transition
  by_cases hd : req.action = .suspend ∧ s.isDisabled agent.agentId = true
  · rw [if_pos hd, if_pos hd, solo_returned]
    rfl
  · rw [if_neg hd, if_neg hd, solo_advance h _ _ (by simp)]
    change solo tick 2 s.stores (.recording req agent tick.now (s.currentState agent.agentId)) = _
    rw [recording_alone h]
    cases req <;>
      simp only [EnforcementRequest.transition, EnforcementRequest.newState,
        EnforcementRequest.action, EnforcementRequest.actor, EnforcementRequest.reason,
        EnforcementRequest.trigger, EnforcementRequest.watermark, EnforcementRequest.newStatus,
        AgentService.nextState] <;>
      generalize s.enforcement.recordTransition _ _ _ = outcome <;>
      obtain ⟨enforcement, e | (_ | _)⟩ := outcome <;>
      rfl

theorem suspend_alone (h : tick.outage = false) (s : AgentService) (agentId reason : String)
    (trigger : Option EnforcementTrigger) :
    solo tick 9 s.stores (.start (.suspend agentId reason trigger)) =
      ((s.suspendAgent tick.now tick.uuid agentId reason trigger).1.stores,
      .returned ((s.suspendAgent tick.now tick.uuid agentId reason trigger).2.mapError
        .service)) := by
  rw [solo_advance h _ _ (by simp)]
  simp only [advance]
  unfold AgentService.suspendAgent AgentService.getAgent
  have hagents : s.stores.agents.get agentId = s.agents.get agentId := rfl
  simp only [EnforcementRequest.agentId, hagents]
  cases s.agents.get agentId with
  | none => rfl
  | some agent =>
    rw [solo_advance h _ _ (by simp)]
    simp only [advance]
    rw [solo_advance h _ _ (by simp)]
    simp only [advance]
    rw [solo_advance h _ _ (by simp)]
    simp only [advance]
    rw [solo_advance h _ _ (by simp)]
    simp only [advance]
    have hplanes : (isSuspended (s.stores.enforcement.getState agentId) = true ∨
        s.stores.isDisabled agentId = true) =
        (isSuspended (s.enforcement.getState agentId) = true ∨ s.isDisabled agentId = true) := rfl
    simp only [EnforcementRequest.agentId, hplanes]
    by_cases hskip : isSuspended (s.enforcement.getState agentId) = true ∨
        s.isDisabled agentId = true
    · rw [if_pos hskip, if_pos hskip]
      rfl
    · rw [if_neg hskip, if_neg hskip]
      exact transition_alone h s (.suspend agentId reason trigger) _

theorem reinstate_alone (h : tick.outage = false) (s : AgentService) (agentId actor reason : String)
    (watermark : Option BaselineWatermark) :
    solo tick 8 s.stores (.start (.reinstate agentId actor reason watermark)) =
      ((s.reinstateAgent tick.now tick.uuid agentId actor reason watermark).1.stores,
      .returned ((s.reinstateAgent tick.now tick.uuid agentId actor reason watermark).2.mapError
        .service)) := by
  rw [solo_advance h _ _ (by simp)]
  simp only [advance]
  unfold AgentService.reinstateAgent AgentService.getAgent
  have hagents : s.stores.agents.get agentId = s.agents.get agentId := rfl
  simp only [EnforcementRequest.agentId, hagents]
  cases s.agents.get agentId with
  | none => rfl
  | some agent =>
    rw [solo_advance h _ _ (by simp)]
    simp only [advance]
    rw [solo_advance h _ _ (by simp)]
    simp only [advance]
    by_cases hactor : Text.strip actor = ""
    · rw [if_pos hactor, if_pos hactor]
      rfl
    · rw [if_neg hactor, if_neg hactor]
      by_cases hreason : Text.strip reason = ""
      · rw [if_pos hreason, if_pos hreason]
        rfl
      · rw [if_neg hreason, if_neg hreason, solo_advance h _ _ (by simp)]
        simp only [advance]
        have hplane : isSuspended (s.stores.enforcement.getState agentId) =
            isSuspended (s.enforcement.getState agentId) := rfl
        simp only [EnforcementRequest.agentId, hplane]
        cases isSuspended (s.enforcement.getState agentId) with
        | false => rfl
        | true => exact transition_alone h s (.reinstate agentId actor reason watermark) _

end LedgerThread

end AgentSecurityPlatform
