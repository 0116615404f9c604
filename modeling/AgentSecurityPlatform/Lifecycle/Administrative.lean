import AgentSecurityPlatform.Lifecycle.Enforcement

namespace AgentSecurityPlatform

inductive RiskTier where
  | low
  | medium
  | high
  | critical
  deriving DecidableEq, Repr

structure Agent where
  agentId : String
  name : String
  owner : String
  riskTier : RiskTier
  approvedTools : List String
  status : AgentStatus := .registered
  deriving DecidableEq, Repr

inductive AdministrativeLifecycleState where
  | registered
  | active
  | disabled
  deriving DecidableEq, Repr

inductive AdministrativeAction where
  | register
  | activate
  | disable
  deriving DecidableEq, Repr

inductive ActorType where
  | human
  | system
  | runtime
  deriving DecidableEq, Repr

structure Actor where
  type : ActorType
  id : String
  id_ne : id ≠ ""

instance : DecidableEq Actor := fun a b =>
  decidable_of_iff (a.type = b.type ∧ a.id = b.id) (by cases a; cases b; simp)

structure AdministrativeTransition where
  transitionId : String
  agentId : String
  action : AdministrativeAction
  actor : Actor
  reason : String
  previousState : Option AdministrativeLifecycleState
  newState : AdministrativeLifecycleState
  administrativeVersionBefore : Nat
  administrativeVersionAfter : Nat
  correlationId : String
  occurredAt : Timestamp
  deriving DecidableEq

structure AgentAdministrativeState where
  agentId : String
  state : AdministrativeLifecycleState
  administrativeVersion : Nat
  lastTransitionAt : Option Timestamp := none
  deriving DecidableEq, Repr

def legalAdministrativeTransitions :
    Option AdministrativeLifecycleState → List AdministrativeLifecycleState
  | none => [.registered]
  | some .registered => [.active, .disabled]
  | some .active => [.disabled]
  | some .disabled => []

def isLegalAdministrativeTransition (previous : Option AdministrativeLifecycleState)
    (new : AdministrativeLifecycleState) : Bool :=
  new ∈ legalAdministrativeTransitions previous

def administrativeTransitionActions :
    Option AdministrativeLifecycleState × AdministrativeLifecycleState →
      Option AdministrativeAction
  | (none, .registered) => some .register
  | (some .registered, .active) => some .activate
  | (some .registered, .disabled) => some .disable
  | (some .active, .disabled) => some .disable
  | _ => none

structure AgentRepository where
  agents : Dict String Agent
  keyed : ∀ agentId agent, agents.get? agentId = some agent → agent.agentId = agentId

namespace AgentRepository

def empty : AgentRepository := ⟨.empty, by simp⟩

def get (r : AgentRepository) (agentId : String) : Option Agent := r.agents.get? agentId

def save (r : AgentRepository) (agent : Agent) : AgentRepository :=
  { agents := r.agents.set agent.agentId { agent with status := .registered }
    keyed := by
      intro agentId stored h
      simp only [Dict.get?_set] at h
      split at h
      · rename_i hid
        cases h
        exact hid
      · exact r.keyed agentId stored h }

end AgentRepository

inductive AdministrativeRepositoryError where
  | transitionInvariant
  | agentAlreadyRegistered
  deriving DecidableEq, Repr

structure AdministrativeStateRepository where
  states : Dict String AgentAdministrativeState
  transitions : List AdministrativeTransition

namespace AdministrativeStateRepository

def empty : AdministrativeStateRepository := ⟨.empty, []⟩

def getState (r : AdministrativeStateRepository) (agentId : String) :
    Option AgentAdministrativeState := r.states.get? agentId

def recordTransition (r : AdministrativeStateRepository) (t : AdministrativeTransition)
    (newState : AgentAdministrativeState) (expectedVersion : Nat) :
    AdministrativeStateRepository × Except AdministrativeRepositoryError Bool :=
  let persisted := r.states.get? t.agentId
  let currentVersion := (persisted.map (·.administrativeVersion)).getD 0
  let previousState := persisted.map (·.state)
  if currentVersion ≠ expectedVersion then (r, .ok false)
  else if newState.administrativeVersion ≠ expectedVersion + 1 then (r, .error .transitionInvariant)
  else if !isLegalAdministrativeTransition previousState newState.state then
    (r, .error .transitionInvariant)
  else if t.previousState ≠ previousState ∨ t.newState ≠ newState.state ∨
      t.administrativeVersionBefore ≠ currentVersion ∨
      t.administrativeVersionAfter ≠ newState.administrativeVersion then
    (r, .error .transitionInvariant)
  else
    ({ states := r.states.set t.agentId newState
       transitions := r.transitions ++ [t] }, .ok true)

def commitRegistration (r : AdministrativeStateRepository) (agents : AgentRepository)
    (agent : Agent) (t : AdministrativeTransition) (newState : AgentAdministrativeState) :
    Except AdministrativeRepositoryError (AgentRepository × AdministrativeStateRepository) :=
  if (agents.get agent.agentId).isSome then .error .agentAlreadyRegistered
  else if !isLegalAdministrativeTransition none newState.state then .error .transitionInvariant
  else if newState.administrativeVersion ≠ 1 then .error .transitionInvariant
  else .ok (agents.save agent,
    { states := r.states.set agent.agentId newState
      transitions := r.transitions ++ [t] })

def listTransitions (r : AdministrativeStateRepository) (agentId : Option String) :
    Except TypeError (List AdministrativeTransition) :=
  let matching := r.transitions.filter (fun t => agentId.all (· = t.agentId))
  if !Timestamp.sortable (matching.map (·.occurredAt)) then .error .naiveAndAware
  else
    .ok (matching.insertionSort (fun t u => t.occurredAt.instant < u.occurredAt.instant ∨
      (t.occurredAt.instant = u.occurredAt.instant ∧ t.transitionId ≤ u.transitionId)))

theorem listTransitions_of_aware {r : AdministrativeStateRepository}
    (h : ∀ t ∈ r.transitions, t.occurredAt.isAware = true) (agentId : Option String) :
    r.listTransitions agentId =
      .ok ((r.transitions.filter (fun t => agentId.all (· = t.agentId))).insertionSort
        (fun t u => t.occurredAt.instant < u.occurredAt.instant ∨
          (t.occurredAt.instant = u.occurredAt.instant ∧ t.transitionId ≤ u.transitionId))) := by
  have hsortable : Timestamp.sortable ((r.transitions.filter
      (fun t => agentId.all (· = t.agentId))).map (·.occurredAt)) = true := by
    rw [Timestamp.sortable, Bool.or_eq_true, List.all_map, List.all_eq_true]
    exact .inl fun t ht => h t (List.mem_of_mem_filter ht)
  simp only [listTransitions, hsortable, Bool.not_true, Bool.false_eq_true, if_false]

end AdministrativeStateRepository

inductive LifecycleRefusalCode where
  | administrativeStateUnavailable
  | enforcementStateUnavailable
  | agentDisabled
  | agentNotActive
  | agentSuspended
  deriving DecidableEq, Repr

def LifecycleRefusalCode.value : LifecycleRefusalCode → String
  | .administrativeStateUnavailable => "ADMINISTRATIVE_STATE_UNAVAILABLE"
  | .enforcementStateUnavailable => "ENFORCEMENT_STATE_UNAVAILABLE"
  | .agentDisabled => "AGENT_DISABLED"
  | .agentNotActive => "AGENT_NOT_ACTIVE"
  | .agentSuspended => "AGENT_SUSPENDED"

def refusalPrecedence : List LifecycleRefusalCode :=
  [.administrativeStateUnavailable, .enforcementStateUnavailable, .agentDisabled, .agentNotActive,
    .agentSuspended]

def administrativeRefusals : AdministrativeLifecycleState → Option LifecycleRefusalCode
  | .registered => some .agentNotActive
  | .disabled => some .agentDisabled
  | .active => none

def failingAdministrativeConditions (administrative : Option AgentAdministrativeState)
    (available : Bool) : List LifecycleRefusalCode :=
  match available, administrative with
  | true, some s =>
    match administrativeRefusals s.state with
    | some refusal => [refusal]
    | none => if s.state ≠ .active then [.agentNotActive] else []
  | _, _ => [.administrativeStateUnavailable]

def failingEnforcementConditions (enforcement : Option AgentEnforcementState)
    (available : Bool) : List LifecycleRefusalCode :=
  if !available then [.enforcementStateUnavailable]
  else if isSuspended enforcement then [.agentSuspended]
  else []

def failingLifecycleConditions (administrative : Option AgentAdministrativeState)
    (administrativeAvailable : Bool) (enforcement : Option AgentEnforcementState)
    (enforcementAvailable : Bool) : List LifecycleRefusalCode :=
  failingAdministrativeConditions administrative administrativeAvailable ++
    failingEnforcementConditions enforcement enforcementAvailable

def evaluateLifecycleAuthorization (administrative : Option AgentAdministrativeState)
    (administrativeAvailable : Bool) (enforcement : Option AgentEnforcementState)
    (enforcementAvailable : Bool) : Option LifecycleRefusalCode :=
  let failing := failingLifecycleConditions administrative administrativeAvailable enforcement
    enforcementAvailable
  if failing = [] then none
  else some ((refusalPrecedence.find? (· ∈ failing)).getD .agentNotActive)

theorem evaluateLifecycleAuthorization_eq_none {administrative : Option AgentAdministrativeState}
    {enforcement : Option AgentEnforcementState} {aok eok : Bool} :
    evaluateLifecycleAuthorization administrative aok enforcement eok = none ↔
      aok = true ∧ eok = true ∧ isSuspended enforcement = false ∧
        ∃ s, administrative = some s ∧ s.state = .active := by
  unfold evaluateLifecycleAuthorization
  simp only [ite_eq_left_iff, reduceCtorEq, imp_false, not_not, failingLifecycleConditions,
    List.append_eq_nil_iff]
  have henf : failingEnforcementConditions enforcement eok = [] ↔
      eok = true ∧ isSuspended enforcement = false := by
    cases eok <;> simp [failingEnforcementConditions]
  have hadm : failingAdministrativeConditions administrative aok = [] ↔
      aok = true ∧ ∃ s, administrative = some s ∧ s.state = .active := by
    cases aok with
    | false => simp [failingAdministrativeConditions]
    | true =>
      cases administrative with
      | none => simp [failingAdministrativeConditions]
      | some s =>
        cases hs : s.state <;> simp [failingAdministrativeConditions, administrativeRefusals, hs]
  rw [henf, hadm]
  tauto

end AgentSecurityPlatform
