import AgentSecurityPlatform.Persistence.Columns
import AgentSecurityPlatform.Approval.FrozenParameters
import AgentSecurityPlatform.Library.Text

namespace AgentSecurityPlatform

open PythonJson

inductive ContinuationState where
  | pending
  | approved
  | rejected
  | expired
  | consumed
  deriving DecidableEq, Repr

namespace ContinuationState

def value : ContinuationState → String
  | .pending => "PENDING"
  | .approved => "APPROVED"
  | .rejected => "REJECTED"
  | .expired => "EXPIRED"
  | .consumed => "CONSUMED"

def ofValue : String → Option ContinuationState :=
  parseValue [.pending, .approved, .rejected, .expired, .consumed] value

theorem ofValue_value (s : ContinuationState) : ofValue s.value = some s := by
  cases s <;> rfl

theorem value_injective : Function.Injective value := by
  intro s t h
  exact Option.some.inj (by rw [← ofValue_value s, h, ofValue_value])

end ContinuationState

def allowedContinuationTransitions : List (ContinuationState × ContinuationState) :=
  [(.pending, .approved), (.pending, .rejected), (.pending, .expired), (.approved, .consumed)]

-- what a continuation binds when it is created, its parameters as a `π`;
-- no operation rewrites any of it
structure ContinuationBinding (π : Type) where
  grantId : String
  sessionId : String
  agentId : String
  toolId : String
  toolVersion : String
  executionParameters : π
  originatingAuditEventId : String
  riskScore : Nat
  requiredResponse : String
  enforcementEpoch : Nat
  createdAt : Timestamp
  expiresAt : Timestamp
  named : grantId ≠ "" ∧ sessionId ≠ "" ∧ agentId ≠ "" ∧ toolId ≠ "" ∧ toolVersion ≠ "" ∧
    originatingAuditEventId ≠ "" ∧ requiredResponse ≠ ""

structure ApprovalContinuation where
  binding : ContinuationBinding PythonValue
  state : ContinuationState := .pending
  approvedBy : Option String := none
  consumedAt : Option Timestamp := none
  capabilityProfileId : Option String := none
  capabilityDigest : Option String := none

def ApprovalContinuation.grantId (c : ApprovalContinuation) : String := c.binding.grantId

-- the constructor of the model freezes the parameters it is given
def ContinuationBinding.freeze (b : ContinuationBinding PythonValue) :
    ContinuationBinding PythonValue :=
  { b with executionParameters := b.executionParameters.deepFreeze }

structure ContinuationTransition where
  grantId : String
  fromState : ContinuationState
  toState : ContinuationState
  consumedAt : Option Timestamp := none
  approvedBy : Option String := none
  deriving DecidableEq, Repr

inductive InvalidContinuationTransitionError where
  | illegal (fromState toState : ContinuationState)
  | approvedRequiresOperator
  | approvedWithConsumedAt
  | rejectedWithConsumedAt
  | expiredWithMetadata
  | consumedRequiresTimestamp
  deriving DecidableEq, Repr

def isBlank : Option String → Bool
  | none => true
  | some operator => operator = "" || Text.strip operator = ""

namespace ContinuationTransition

-- the checks both adapters make before they look at the stored continuation
def check (t : ContinuationTransition) : Except InvalidContinuationTransitionError Unit :=
  if (t.fromState, t.toState) ∉ allowedContinuationTransitions then
    .error (.illegal t.fromState t.toState)
  else
    match t.toState with
    | .approved =>
      if isBlank t.approvedBy then .error .approvedRequiresOperator
      else if t.consumedAt ≠ none then .error .approvedWithConsumedAt
      else .ok ()
    | .rejected => if t.consumedAt ≠ none then .error .rejectedWithConsumedAt else .ok ()
    | .expired =>
      if t.approvedBy ≠ none ∨ t.consumedAt ≠ none then .error .expiredWithMetadata else .ok ()
    | .consumed => if t.consumedAt = none then .error .consumedRequiresTimestamp else .ok ()
    | .pending => .ok ()

-- the values `approved_by` and `consumed_at` take when the transition is written
def writtenApprover (t : ContinuationTransition) (stored : Option String) : Option String :=
  match t.toState with
  | .approved => t.approvedBy
  | .rejected => if t.approvedBy ≠ none then t.approvedBy else stored
  | _ => stored

def writtenConsumption (t : ContinuationTransition) (stored : Option Timestamp) :
    Option Timestamp :=
  match t.toState with
  | .consumed => t.consumedAt
  | _ => stored

variable {t : ContinuationTransition}

theorem check_allowed (h : t.check = .ok ()) :
    (t.fromState, t.toState) ∈ allowedContinuationTransitions := by
  simp only [check] at h
  split at h
  · cases h
  · rename_i hallowed
    exact not_not.mp hallowed

theorem check_approver (h : t.check = .ok ()) (hto : t.toState = .approved) :
    isBlank t.approvedBy = false := by
  simp only [check, hto] at h
  split at h
  · cases h
  · split at h
    · cases h
    · rename_i hblank
      simpa using hblank

end ContinuationTransition

def ApprovalContinuation.move (c : ApprovalContinuation) (t : ContinuationTransition) :
    ApprovalContinuation :=
  { c with
    state := t.toState
    approvedBy := t.writtenApprover c.approvedBy
    consumedAt := t.writtenConsumption c.consumedAt }

structure InMemoryApprovalContinuationRepository where
  grants : Dict String ApprovalContinuation

namespace InMemoryApprovalContinuationRepository

def createContinuation (r : InMemoryApprovalContinuationRepository) (grant : ApprovalContinuation) :
    InMemoryApprovalContinuationRepository :=
  ⟨r.grants.set grant.grantId grant⟩

def getContinuation (r : InMemoryApprovalContinuationRepository) (grantId : String) :
    Option ApprovalContinuation :=
  r.grants.get? grantId

def transitionContinuation (r : InMemoryApprovalContinuationRepository)
    (t : ContinuationTransition) :
    InMemoryApprovalContinuationRepository × Except InvalidContinuationTransitionError Bool :=
  match t.check with
  | .error e => (r, .error e)
  | .ok () =>
    match r.grants.get? t.grantId with
    | none => (r, .ok false)
    | some grant =>
      if grant.state ≠ t.fromState then (r, .ok false)
      else (⟨r.grants.set t.grantId (grant.move t)⟩, .ok true)

def listContinuations (r : InMemoryApprovalContinuationRepository) (agentId : Option String)
    (state : Option ContinuationState) : List ApprovalContinuation :=
  r.grants.values.filter (fun g => (agentId = none || some g.binding.agentId = agentId) &&
    (state = none || some g.state = state))

end InMemoryApprovalContinuationRepository

-- the database driver: what a timestamp column gives back, and the float reader of json.loads
structure Driver extends TimestampColumn where
  readFloat : List Char → Value

inductive ContinuationError where
  | invalidTransition (e : InvalidContinuationTransitionError)
  | unserializable
  | integrity
  | unreadableParameters
  | unreadableState (state : String)
  deriving DecidableEq, Repr

structure ApprovalContinuationModel where
  binding : ContinuationBinding String
  state : String
  approvedBy : Option String
  consumedAt : Option Timestamp

namespace ApprovalContinuationModel

def ofDomain (c : ApprovalContinuation) : Option ApprovalContinuationModel :=
  c.binding.executionParameters.deepUnfreeze.toJson.map (fun parameters =>
    { binding := { c.binding with executionParameters := dumps .standard parameters }
      state := c.state.value
      approvedBy := c.approvedBy
      consumedAt := c.consumedAt })

-- dict(row.execution_parameters or {})
def parameters (row : ApprovalContinuationModel) (d : Driver) : Option PythonValue :=
  match loads d.readFloat row.binding.executionParameters with
  | some (.object ms) => some (.ofJson (.object ms))
  | some .null => some (.dict [])
  | _ => none

def toDomain (row : ApprovalContinuationModel) (d : Driver) :
    Except ContinuationError ApprovalContinuation :=
  match row.parameters d, ContinuationState.ofValue row.state with
  | none, _ => .error .unreadableParameters
  | some _, none => .error (.unreadableState row.state)
  | some parameters, some state =>
    .ok
      { binding := ContinuationBinding.freeze
          { row.binding with
            executionParameters := parameters
            createdAt := d.readBack row.binding.createdAt
            expiresAt := d.readBack row.binding.expiresAt }
        state
        approvedBy := row.approvedBy
        consumedAt := row.consumedAt.map d.readBack }

def move (row : ApprovalContinuationModel) (t : ContinuationTransition) :
    ApprovalContinuationModel :=
  { row with
    state := t.toState.value
    approvedBy := t.writtenApprover row.approvedBy
    consumedAt := t.writtenConsumption row.consumedAt }

end ApprovalContinuationModel

-- the tables the foreign keys of a new row point into
structure ReferencedRows where
  sessions : List String
  agents : List String
  tools : List (String × String)

structure SqlApprovalContinuationRepository where
  driver : Driver
  rows : Dict String ApprovalContinuationModel
  locked : List String

namespace SqlApprovalContinuationRepository

def empty (driver : Driver) : SqlApprovalContinuationRepository := ⟨driver, .empty, []⟩

def createContinuation (s : SqlApprovalContinuationRepository) (refs : ReferencedRows)
    (grant : ApprovalContinuation) :
    SqlApprovalContinuationRepository × Except ContinuationError Unit :=
  match ApprovalContinuationModel.ofDomain grant with
  | none => (s, .error .unserializable)
  | some row =>
    if s.rows.contains grant.grantId then (s, .error .integrity)
    else if grant.binding.sessionId ∉ refs.sessions ∨ grant.binding.agentId ∉ refs.agents ∨
        (grant.binding.toolId, grant.binding.toolVersion) ∉ refs.tools then (s, .error .integrity)
    else ({ s with rows := s.rows.set grant.grantId row }, .ok ())

def getContinuation (s : SqlApprovalContinuationRepository) (grantId : String) :
    Except ContinuationError (Option ApprovalContinuation) :=
  match s.rows.get? grantId with
  | none => .ok none
  | some row => (row.toDomain s.driver).map some

-- SELECT ... FOR UPDATE: the row stays locked until the transaction ends
def lockRow (s : SqlApprovalContinuationRepository) (grantId : String) :
    SqlApprovalContinuationRepository :=
  { s with locked := grantId :: s.locked }

-- the end of the transaction: the row read under the lock is rewritten or left, the lock released
def commitTransition (s : SqlApprovalContinuationRepository) (row : ApprovalContinuationModel)
    (t : ContinuationTransition) : SqlApprovalContinuationRepository × Bool :=
  let released := s.locked.erase t.grantId
  if row.state ≠ t.fromState.value then ({ s with locked := released }, false)
  else ({ s with rows := s.rows.set t.grantId (row.move t), locked := released }, true)

-- transition_continuation with no other transaction in between
def transitionContinuation (s : SqlApprovalContinuationRepository) (t : ContinuationTransition) :
    SqlApprovalContinuationRepository × Except InvalidContinuationTransitionError Bool :=
  match t.check with
  | .error e => (s, .error e)
  | .ok () =>
    match s.rows.get? t.grantId with
    | none => (s, .ok false)
    | some row =>
      (((s.lockRow t.grantId).commitTransition row t).1,
        .ok ((s.lockRow t.grantId).commitTransition row t).2)

def listContinuations (s : SqlApprovalContinuationRepository) (agentId : Option String)
    (state : Option ContinuationState) : Except ContinuationError (List ApprovalContinuation) :=
  let rows := s.rows.values.filter (fun r => (agentId = none || some r.binding.agentId = agentId) &&
    (state = none || some r.state = state.map (·.value)))
  let created (r : ApprovalContinuationModel) := (s.driver.timestamp r.binding.createdAt).instant
  (rows.insertionSort (fun a b => created a < created b ∨
    (created a = created b ∧ a.binding.grantId ≤ b.binding.grantId))).mapM (·.toDomain s.driver)

end SqlApprovalContinuationRepository

end AgentSecurityPlatform
