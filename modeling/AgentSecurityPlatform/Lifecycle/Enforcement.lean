import AgentSecurityPlatform.Library.Dict
import Mathlib.Data.List.Sort

namespace AgentSecurityPlatform

abbrev Instant := Int

-- a datetime: its moment and the offset it carries, a wall-clock reading where it carries none
structure Timestamp where
  instant : Instant
  utcOffset : Option Int := some 0
  deriving DecidableEq, Repr

-- datetimes with and without an offset have no order between them
inductive TypeError where
  | naiveAndAware
  deriving DecidableEq, Repr

namespace Timestamp

-- datetime.now(timezone.utc)
def utc (now : Instant) : Timestamp := { instant := now }

def isUtc (t : Timestamp) : Bool := t.utcOffset = some 0

def isAware (t : Timestamp) : Bool := t.utcOffset.isSome

-- what == looks at: the moment, and whether there is an offset at all
def compared (t : Timestamp) : Timestamp := { t with utcOffset := t.utcOffset.map (fun _ => 0) }

def sortable (ts : List Timestamp) : Bool := ts.all (·.isAware) || ts.all (!·.isAware)

theorem isAware_of_isUtc {t : Timestamp} (h : t.isUtc = true) : t.isAware = true := by
  rw [isUtc, decide_eq_true_eq] at h
  simp [isAware, h]

end Timestamp

inductive Decision where
  | allow
  | deny
  | approvalRequired
  deriving DecidableEq, Repr

inductive RiskLevel where
  | low
  | medium
  | high
  | critical
  deriving DecidableEq, Repr

def RiskLevel.value : RiskLevel → String
  | .low => "LOW"
  | .medium => "MEDIUM"
  | .high => "HIGH"
  | .critical => "CRITICAL"

inductive AgentStatus where
  | registered
  | active
  | suspended
  | disabled
  deriving DecidableEq, Repr

inductive EnforcementAction where
  | suspend
  | reinstate
  deriving DecidableEq, Repr

structure EnforcementTrigger where
  sessionId : Option String
  riskLevel : Option RiskLevel
  riskScore : Option Int
  findingIds : List String
  deriving DecidableEq, Repr

structure EnforcementTransition where
  transitionId : String
  agentId : String
  action : EnforcementAction
  actor : String
  reason : String
  previousStatus : AgentStatus
  newStatus : AgentStatus
  trigger : Option EnforcementTrigger
  occurredAt : Instant
  deriving DecidableEq, Repr

structure AgentEnforcementState where
  agentId : String
  epoch : Nat := 0
  suspendedAt : Option Instant := none
  suspensionReason : Option String := none
  enforcementBaselineAt : Option Instant := none
  baselineEvidenceSequence : Nat := 0
  baselineAgentSequence : Nat := 0
  recoveryGeneration : Nat := 0
  lastTransitionAt : Option Instant := none
  deriving DecidableEq, Repr

structure BaselineWatermark where
  agentId : String
  baselineAt : Option Instant
  baselineEvidenceSequence : Nat := 0
  baselineAgentSequence : Nat := 0
  deriving DecidableEq, Repr

inductive RepositoryError where
  | enforcementStateUnavailable
  | administrativeStateUnavailable
  deriving DecidableEq, Repr

structure EnforcementStateRepository where
  states : Dict String AgentEnforcementState
  transitions : List EnforcementTransition
  epochs : Dict String Nat
  epochs_absent : ∀ agentId, states.get? agentId = none → epochs.get? agentId = none

namespace EnforcementStateRepository

def empty : EnforcementStateRepository := ⟨.empty, [], .empty, fun _ _ => rfl⟩

def getState (r : EnforcementStateRepository) (agentId : String) : Option AgentEnforcementState :=
  r.states.get? agentId

def currentEpoch (r : EnforcementStateRepository) (agentId : String) : Nat :=
  match r.states.get? agentId with
  | some s => s.epoch
  | none => r.epochs.getD agentId 0

def currentGeneration (r : EnforcementStateRepository) (agentId : String) : Nat :=
  match r.states.get? agentId with
  | some s => s.recoveryGeneration
  | none => 0

def recordTransition (r : EnforcementStateRepository) (t : EnforcementTransition)
    (newState : AgentEnforcementState) (expectedEpoch : Nat) :
    EnforcementStateRepository × Except RepositoryError Bool :=
  if r.currentEpoch t.agentId ≠ expectedEpoch ∨ newState.epoch ≠ expectedEpoch + 1 then
    (r, .ok false)
  else if newState.recoveryGeneration ≠ r.currentGeneration t.agentId ∧
      newState.recoveryGeneration ≠ r.currentGeneration t.agentId + 1 then
    (r, .error .enforcementStateUnavailable)
  else
    ({ states := r.states.set t.agentId newState
       transitions := r.transitions ++ [t]
       epochs := r.epochs.set t.agentId (expectedEpoch + 1)
       epochs_absent := by
         intro agentId h
         simp only [Dict.get?_set] at h ⊢
         split at h
         · cases h
         · rename_i hne
           simpa [hne] using r.epochs_absent agentId h }, .ok true)

def listTransitions (r : EnforcementStateRepository) (agentId : Option String) :
    List EnforcementTransition :=
  (r.transitions.filter (fun t => agentId.all (· = t.agentId))).insertionSort
    (fun t u => t.occurredAt < u.occurredAt ∨
      (t.occurredAt = u.occurredAt ∧ t.transitionId ≤ u.transitionId))

def getEpoch (r : EnforcementStateRepository) (agentId : String) (asOf : Instant) : Nat :=
  (r.transitions.filter
    (fun t => t.agentId = agentId && t.action = .reinstate && t.occurredAt ≤ asOf)).length

theorem recordTransition_cases {r r' : EnforcementStateRepository} {t : EnforcementTransition}
    {s : AgentEnforcementState} {e : Nat} {o : Except RepositoryError Bool}
    (h : r.recordTransition t s e = (r', o)) :
    (r' = r ∧ o ≠ .ok true) ∨
      (r.currentEpoch t.agentId = e ∧ s.epoch = e + 1 ∧ o = .ok true ∧
        r'.states = r.states.set t.agentId s ∧ r'.transitions = r.transitions ++ [t] ∧
        r'.epochs = r.epochs.set t.agentId (e + 1)) := by
  unfold recordTransition at h
  split at h
  · cases h
    exact .inl ⟨rfl, by simp⟩
  · rename_i hc
    rw [not_or, not_not, not_not] at hc
    split at h
    · cases h
      exact .inl ⟨rfl, by simp⟩
    · cases h
      exact .inr ⟨hc.1, hc.2, rfl, rfl, rfl, rfl⟩

end EnforcementStateRepository

def isSuspended (s : Option AgentEnforcementState) : Bool :=
  match s with
  | some s => s.suspendedAt.isSome
  | none => false

end AgentSecurityPlatform
