import AgentSecurityPlatform.Lifecycle.LedgerThreads
import AgentSecurityPlatform.Persistence.AdministrativeAdapters

namespace AgentSecurityPlatform

inductive AdministrativeBackend where
  | inMemory (m : InMemoryAdministrativeStore)
  | sql (r : SqlAdministrativeStateRepository)

namespace AdministrativeBackend

def hasAgent : AdministrativeBackend → String → Bool
  | .inMemory m, agentId => (m.agents.get agentId).isSome
  | .sql r, agentId => (r.agentRows.get? agentId).isSome

def getState : AdministrativeBackend → String →
    Except AdministrativeStoreError (Option AgentAdministrativeState)
  | .inMemory m, agentId => .ok (m.administrative.getState agentId)
  | .sql r, agentId => r.getState agentId

def listTransitions : AdministrativeBackend → Option String →
    Except AdministrativeLedgerError (List AdministrativeTransition)
  | .inMemory m, agentId => (m.administrative.listTransitions agentId).mapError .raised
  | .sql r, agentId => (r.listTransitions agentId).mapError .store

def recordTransition (b : AdministrativeBackend) (t : AdministrativeTransition)
    (newState : AgentAdministrativeState) (expectedVersion : Nat) :
    AdministrativeBackend × Except AdministrativeStoreError Bool :=
  match b with
  | .inMemory m =>
    let (administrative, reply) := m.administrative.recordTransition t newState expectedVersion
    (.inMemory { m with administrative }, reply.mapError .refused)
  | .sql r =>
    let (r', reply) := r.recordTransition t newState expectedVersion
    (.sql r', reply)

def commitRegistration (b : AdministrativeBackend) (agent : Agent) (t : AdministrativeTransition)
    (newState : AgentAdministrativeState) :
    AdministrativeBackend × Except AdministrativeStoreError Unit :=
  match b with
  | .inMemory m =>
    match m.administrative.commitRegistration m.agents agent t newState with
    | .ok (agents, administrative) => (.inMemory ⟨agents, administrative⟩, .ok ())
    | .error e => (.inMemory m, .error (.refused e))
  | .sql r =>
    let (r', reply) := r.commitRegistration agent t newState
    (.sql r', reply)

end AdministrativeBackend

inductive AdministrativeRequest where
  | register (agent : Agent) (actor : Actor) (correlationId : Option String)
  | activate (agentId : String) (actor : Actor) (reason : String) (correlationId : Option String)
  | disable (agentId : String) (actor : Actor) (reason : String) (correlationId : Option String)
  | registerAndActivate (agent : Agent) (actor : Actor) (correlationId : Option String)
  deriving DecidableEq

structure AdministrativeTick where
  now : Instant
  transitionUuid : String
  correlationUuid : String
  outage : Bool := false
  deriving DecidableEq, Repr

-- the arguments of _administrative_transition; `registered` is what
-- register_and_activate_agent returns
structure AdministrativeStep where
  agentId : String
  newState : AdministrativeLifecycleState
  actor : Actor
  reason : String
  correlationId : Option String
  registered : Option Agent := none
  deriving DecidableEq

inductive AdministrativeOutcome where
  | agent (agent : Agent)
  | state (state : AgentAdministrativeState)
  deriving DecidableEq

def AdministrativeTick.correlation (tick : AdministrativeTick) (correlationId : Option String) :
    String :=
  (correlationId.filter (· ≠ "")).getD ("corr-" ++ tick.correlationUuid)

def registration (tick : AdministrativeTick) (agent : Agent) (actor : Actor)
    (correlationId : Option String) : AdministrativeTransition :=
  { transitionId := "admin-transition-" ++ tick.transitionUuid
    agentId := agent.agentId
    action := .register
    actor
    reason := "Agent registered"
    previousState := none
    newState := .registered
    administrativeVersionBefore := 0
    administrativeVersionAfter := 1
    correlationId := tick.correlation correlationId
    occurredAt := .utc tick.now }

namespace AdministrativeStep

def transition (i : AdministrativeStep) (tick : AdministrativeTick) (action : AdministrativeAction)
    (previousState : Option AdministrativeLifecycleState) (expectedVersion : Nat) :
    AdministrativeTransition :=
  { transitionId := "admin-transition-" ++ tick.transitionUuid
    agentId := i.agentId
    action
    actor := i.actor
    reason := i.reason
    previousState
    newState := i.newState
    administrativeVersionBefore := expectedVersion
    administrativeVersionAfter := expectedVersion + 1
    correlationId := tick.correlation i.correlationId
    occurredAt := .utc tick.now }

def updated (i : AdministrativeStep) (tick : AdministrativeTick) (expectedVersion : Nat) :
    AgentAdministrativeState :=
  ⟨i.agentId, i.newState, expectedVersion + 1, some (.utc tick.now)⟩

end AdministrativeStep

inductive AdministrativeThread where
  | registering (agent : Agent) (actor : Actor) (correlationId : Option String) (activates : Bool)
  | finding (i : AdministrativeStep)
  | projecting (i : AdministrativeStep)
  | reading (i : AdministrativeStep)
  | recording (t : AdministrativeTransition) (updated : AgentAdministrativeState)
      (registered : Option Agent)
  | returned (result : Except LedgerError AdministrativeOutcome)

abbrev AdministrativePool := Pool AdministrativeBackend AdministrativeThread

def AdministrativeRequest.start : AdministrativeRequest → AdministrativeThread
  | .register agent actor correlationId => .registering agent actor correlationId false
  | .activate agentId actor reason correlationId =>
    .finding { agentId, newState := .active, actor, reason, correlationId }
  | .disable agentId actor reason correlationId =>
    .finding { agentId, newState := .disabled, actor, reason, correlationId }
  | .registerAndActivate agent actor correlationId => .registering agent actor correlationId true

namespace AdministrativeThread

def refuse (b : AdministrativeBackend) (e : AgentServiceError) :
    AdministrativeBackend × AdministrativeThread :=
  (b, .returned (.error (.service e)))

-- one repository call, with what follows it up to the next; get_agent's plane reads are one step,
-- since activation and disablement drop the status they give
def advance (tick : AdministrativeTick) (b : AdministrativeBackend) :
    AdministrativeThread → AdministrativeBackend × AdministrativeThread
  | .registering agent actor correlationId activates =>
    match b.commitRegistration agent (registration tick agent actor correlationId)
      ⟨agent.agentId, .registered, 1, some (.utc tick.now)⟩ with
    | (b', .ok ()) =>
      if activates then
        (b', .finding
          { agentId := agent.agentId
            newState := .active
            actor
            reason := "Activated on registration by a system actor"
            correlationId
            registered := some agent })
      else (b', .returned (.ok (.agent agent)))
    | (b', .error (.refused .agentAlreadyRegistered)) =>
      refuse b' (.agentAlreadyExists agent.agentId)
    | (b', .error (.refused .transitionInvariant)) => refuse b' .administrativeTransitionInvariant
    | (b', .error .unavailable) => (b', .returned (.error .repositoryUnavailable))
  | .finding i =>
    if b.hasAgent i.agentId then (b, .projecting i) else refuse b (.agentNotFound i.agentId)
  | .projecting i => (b, .reading i)
  | .reading i =>
    match b.getState i.agentId with
    | .error _ => (b, .returned (.error .repositoryUnavailable))
    | .ok current =>
      let previousState := current.map (·.state)
      let expectedVersion := (current.map (·.administrativeVersion)).getD 0
      if !isLegalAdministrativeTransition previousState i.newState then
        refuse b (.illegalAdministrativeTransition i.agentId previousState i.newState)
      else match administrativeTransitionActions (previousState, i.newState) with
      | none => refuse b .administrativeTransitionInvariant
      | some action =>
        (b, .recording (i.transition tick action previousState expectedVersion)
          (i.updated tick expectedVersion) i.registered)
  | .recording t updated registered =>
    match b.recordTransition t updated t.administrativeVersionBefore with
    | (b', .ok true) => (b', .returned (.ok (match registered with
        | some agent => .agent agent
        | none => .state updated)))
    | (b', .ok false) =>
      refuse b' (.administrativeConcurrency t.agentId t.administrativeVersionBefore)
    | (b', .error (.refused _)) => refuse b' .administrativeTransitionInvariant
    | (b', .error .unavailable) => (b', .returned (.error .repositoryUnavailable))
  | .returned result => (b, .returned result)

def step (tick : AdministrativeTick) (b : AdministrativeBackend) (t : AdministrativeThread) :
    Option (AdministrativeBackend × AdministrativeThread) :=
  match t with
  | .returned _ => none
  | t => if tick.outage then some (b, .returned (.error .repositoryUnavailable))
      else some (t.advance tick b)

def solo (tick : AdministrativeTick) :
    Nat → AdministrativeBackend → AdministrativeThread →
      AdministrativeBackend × AdministrativeThread
  | 0, b, t => (b, t)
  | n + 1, b, t =>
    match t.step tick b with
    | none => (b, t)
    | some (b', t') => solo tick n b' t'

theorem solo_returned (tick : AdministrativeTick) (n : Nat) (b : AdministrativeBackend)
    (result : Except LedgerError AdministrativeOutcome) :
    solo tick n b (.returned result) = (b, .returned result) := by
  cases n <;> rfl

theorem solo_advance {tick : AdministrativeTick} (h : tick.outage = false) (n : Nat)
    (b : AdministrativeBackend) {t : AdministrativeThread} (ht : ∀ result, t ≠ .returned result) :
    solo tick (n + 1) b t = solo tick n (t.advance tick b).1 (t.advance tick b).2 := by
  have hstep : t.step tick b = some (t.advance tick b) := by
    cases t <;> first | exact absurd rfl (ht _) | simp [step, h]
  rw [solo, hstep]

end AdministrativeThread

def AgentService.administrativeBackend (s : AgentService) : AdministrativeBackend :=
  .inMemory ⟨s.agents, s.administrative⟩

namespace AdministrativeThread

variable {tick : AdministrativeTick}

theorem register_alone (h : tick.outage = false) (s : AgentService) (agent : Agent) (actor : Actor)
    (correlationId : Option String) :
    solo tick 1 s.administrativeBackend (.registering agent actor correlationId false) =
      ((s.registerAgent tick.now tick.transitionUuid tick.correlationUuid agent actor
          correlationId).1.administrativeBackend,
        .returned (((s.registerAgent tick.now tick.transitionUuid tick.correlationUuid agent actor
          correlationId).2.map .agent).mapError .service)) := by
  rw [solo_advance h _ _ (by simp)]
  simp only [solo, advance, AgentService.registerAgent, AgentService.administrativeBackend,
    AdministrativeBackend.commitRegistration]
  simp only [registration, AdministrativeTick.correlation]
  generalize s.administrative.commitRegistration s.agents agent _ _ = outcome
  match outcome with
  | .ok (agents, administrative) => rfl
  | .error .agentAlreadyRegistered => rfl
  | .error .transitionInvariant => rfl

theorem recording_alone (h : tick.outage = false) (s : AgentService) (i : AdministrativeStep)
    (hi : i.registered = none) (action : AdministrativeAction)
    (previous : Option AdministrativeLifecycleState) (version : Nat) :
    solo tick 1 s.administrativeBackend (.recording (i.transition tick action previous version)
        (i.updated tick version) i.registered) =
      match s.administrative.recordTransition (i.transition tick action previous version)
        (i.updated tick version) version with
      | (administrative, .ok true) => ({ s with administrative }.administrativeBackend,
          .returned (.ok (.state (i.updated tick version))))
      | (administrative, .ok false) => ({ s with administrative }.administrativeBackend,
          .returned (.error (.service (.administrativeConcurrency i.agentId version))))
      | (administrative, .error _) => ({ s with administrative }.administrativeBackend,
          .returned (.error (.service .administrativeTransitionInvariant))) := by
  rw [solo_advance h _ _ (by simp)]
  have hversion : (i.transition tick action previous version).administrativeVersionBefore =
    version :=
    rfl
  simp only [solo, advance, AgentService.administrativeBackend,
    AdministrativeBackend.recordTransition, hi, hversion]
  generalize s.administrative.recordTransition _ _ version = outcome
  obtain ⟨administrative, reply⟩ := outcome
  match reply with
  | .ok true => rfl
  | .ok false => rfl
  | .error e => rfl

theorem enter_alone (h : tick.outage = false) (s : AgentService) (i : AdministrativeStep)
    (hi : i.registered = none) :
    solo tick 4 s.administrativeBackend (.finding i) =
      ((s.enterState tick.now tick.transitionUuid tick.correlationUuid i.agentId i.newState i.actor
          i.reason i.correlationId).1.administrativeBackend,
        .returned (((s.enterState tick.now tick.transitionUuid tick.correlationUuid i.agentId
          i.newState i.actor i.reason i.correlationId).2.map .state).mapError .service)) := by
  have hagent : s.administrativeBackend.hasAgent i.agentId = (s.agents.get i.agentId).isSome := rfl
  have hstate : s.administrativeBackend.getState i.agentId =
      .ok (s.administrative.getState i.agentId) := rfl
  rw [solo_advance h _ _ (by simp)]
  simp only [advance, hagent, AgentService.enterState, AgentService.getAgent]
  cases s.agents.get i.agentId with
  | none => rfl
  | some agent =>
    simp only [Option.isSome_some, if_true]
    rw [solo_advance h _ _ (by simp)]
    simp only [advance]
    rw [solo_advance h _ _ (by simp)]
    simp only [advance, hstate, AgentService.administrativeTransition]
    split_ifs
    · rfl
    · cases administrativeTransitionActions
        ((s.administrative.getState i.agentId).map (·.state), i.newState) with
      | none => rfl
      | some action =>
        simp only
        rw [recording_alone h s i hi]
        simp only [AdministrativeStep.transition, AdministrativeStep.updated,
          AdministrativeTick.correlation]
        generalize s.administrative.recordTransition _ _ _ = outcome
        obtain ⟨administrative, e | (_ | _)⟩ := outcome
        · rfl
        · rfl
        · rfl

end AdministrativeThread

end AgentSecurityPlatform
