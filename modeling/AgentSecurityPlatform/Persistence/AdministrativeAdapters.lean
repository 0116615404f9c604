import AgentSecurityPlatform.Library.Refinement
import AgentSecurityPlatform.Persistence.Columns

namespace AgentSecurityPlatform

inductive AdministrativeStoreError where
  | unavailable
  | refused (e : AdministrativeRepositoryError)
  deriving DecidableEq, Repr

-- what reading the ledger can end in: the store's error, or a sort that raised
inductive AdministrativeLedgerError where
  | store (e : AdministrativeStoreError)
  | raised (e : TypeError)
  deriving DecidableEq, Repr

structure AgentRow where
  name : String
  owner : String
  riskTier : String
  approvedTools : List String
  deriving DecidableEq, Repr

structure AdministrativeStateRow where
  state : String
  administrativeVersion : Nat
  lastTransitionAt : Option Timestamp
  deriving DecidableEq, Repr

structure AdministrativeTransitionRow where
  transitionId : String
  agentId : String
  action : String
  actorType : String
  actorId : String
  reason : String
  previousState : Option String
  newState : String
  administrativeVersionBefore : Nat
  administrativeVersionAfter : Nat
  correlationId : String
  occurredAt : Timestamp
  deriving DecidableEq, Repr

def Agent.columns (agent : Agent) : AgentRow :=
  ⟨agent.name, agent.owner, agent.riskTier.value, agent.approvedTools⟩

def AgentAdministrativeState.columns (s : AgentAdministrativeState) : AdministrativeStateRow :=
  ⟨s.state.value, s.administrativeVersion, s.lastTransitionAt⟩

def AdministrativeTransition.columns (t : AdministrativeTransition) (agentId : String) :
    AdministrativeTransitionRow :=
  { transitionId := t.transitionId
    agentId
    action := t.action.value
    actorType := t.actor.type.value
    actorId := t.actor.id
    reason := t.reason
    previousState := t.previousState.map (·.value)
    newState := t.newState.value
    administrativeVersionBefore := t.administrativeVersionBefore
    administrativeVersionAfter := t.administrativeVersionAfter
    correlationId := t.correlationId
    occurredAt := t.occurredAt }

def AdministrativeTransition.registrationColumns (t : AdministrativeTransition) (agentId : String) :
    AdministrativeTransitionRow :=
  { t.columns agentId with
    previousState := none
    administrativeVersionBefore := 0 }

def readAdministrativeState :
    Option String → Except AdministrativeStoreError (Option AdministrativeLifecycleState)
  | none => .ok none
  | some v =>
    match AdministrativeLifecycleState.ofValue v with
    | some state => .ok (some state)
    | none => .error .unavailable

def stateToDomain (column : TimestampColumn) (agentId : String) (row : AdministrativeStateRow) :
    Except AdministrativeStoreError AgentAdministrativeState :=
  match AdministrativeLifecycleState.ofValue row.state with
  | some state =>
    .ok ⟨agentId, state, row.administrativeVersion, row.lastTransitionAt.map column.readBack⟩
  | none => .error .unavailable

def transitionToDomain (column : TimestampColumn) (row : AdministrativeTransitionRow) :
    Except AdministrativeStoreError AdministrativeTransition :=
  match AdministrativeAction.ofValue row.action, ActorType.ofValue row.actorType,
    readAdministrativeState row.previousState,
    AdministrativeLifecycleState.ofValue row.newState with
  | some action, some actorType, .ok previousState, some newState =>
    if h : row.actorId ≠ "" then
      .ok
        { transitionId := row.transitionId
          agentId := row.agentId
          action
          actor := ⟨actorType, row.actorId, h⟩
          reason := row.reason
          previousState
          newState
          administrativeVersionBefore := row.administrativeVersionBefore
          administrativeVersionAfter := row.administrativeVersionAfter
          correlationId := row.correlationId
          occurredAt := column.readBack row.occurredAt }
    else .error .unavailable
  | _, _, _, _ => .error .unavailable

def validateTransitionInvariants (t : AdministrativeTransition)
    (newState : AgentAdministrativeState)
    (currentVersion : Nat) (previousState : Option AdministrativeLifecycleState)
    (expectedVersion : Nat) : Except AdministrativeRepositoryError Unit :=
  if newState.administrativeVersion ≠ expectedVersion + 1 then .error .transitionInvariant
  else if !isLegalAdministrativeTransition previousState newState.state then
    .error .transitionInvariant
  else if t.previousState ≠ previousState ∨ t.newState ≠ newState.state ∨
      t.administrativeVersionBefore ≠ currentVersion ∨
      t.administrativeVersionAfter ≠ newState.administrativeVersion then
    .error .transitionInvariant
  else .ok ()

structure SqlAdministrativeStateRepository where
  column : TimestampColumn
  agentRows : Dict String AgentRow
  stateRows : Dict String AdministrativeStateRow
  transitionRows : List AdministrativeTransitionRow

namespace SqlAdministrativeStateRepository

def empty (column : TimestampColumn) : SqlAdministrativeStateRepository :=
  ⟨column, .empty, .empty, []⟩

-- the primary key, uq_agent_administrative_version_after and the version CHECK of the ledger table
def Rejects (rows : List AdministrativeTransitionRow) (row : AdministrativeTransitionRow) : Prop :=
  (∃ u ∈ rows, u.transitionId = row.transitionId) ∨
    (∃ u ∈ rows, u.agentId = row.agentId ∧
      u.administrativeVersionAfter = row.administrativeVersionAfter) ∨
    row.administrativeVersionAfter ≠ row.administrativeVersionBefore + 1

instance (rows : List AdministrativeTransitionRow) (row : AdministrativeTransitionRow) :
    Decidable (Rejects rows row) :=
  inferInstanceAs (Decidable (_ ∨ _ ∨ _))

def getState (r : SqlAdministrativeStateRepository) (agentId : String) :
    Except AdministrativeStoreError (Option AgentAdministrativeState) :=
  match r.stateRows.get? agentId with
  | none => .ok none
  | some row => (stateToDomain r.column agentId row).map some

def recordTransition (r : SqlAdministrativeStateRepository) (t : AdministrativeTransition)
    (newState : AgentAdministrativeState) (expectedVersion : Nat) :
    SqlAdministrativeStateRepository × Except AdministrativeStoreError Bool :=
  if (r.agentRows.get? t.agentId).isNone then (r, .error .unavailable)
  else
    let stateRow := r.stateRows.get? t.agentId
    let currentVersion := (stateRow.map (·.administrativeVersion)).getD 0
    if currentVersion ≠ expectedVersion then (r, .ok false)
    else
      match readAdministrativeState (stateRow.map (·.state)) with
      | .error e => (r, .error e)
      | .ok previousState =>
        match validateTransitionInvariants t newState currentVersion previousState
          expectedVersion with
        | .error e => (r, .error (.refused e))
        | .ok () =>
          if Rejects r.transitionRows (t.columns t.agentId) then (r, .error .unavailable)
          else
            ({ r with
                stateRows := r.stateRows.set t.agentId newState.columns
                transitionRows := r.transitionRows ++ [t.columns t.agentId] }, .ok true)

def commitRegistration (r : SqlAdministrativeStateRepository) (agent : Agent)
    (t : AdministrativeTransition) (newState : AgentAdministrativeState) :
    SqlAdministrativeStateRepository × Except AdministrativeStoreError Unit :=
  if (r.agentRows.get? agent.agentId).isSome then (r, .error (.refused .agentAlreadyRegistered))
  else
    match validateTransitionInvariants t newState 0 none 0 with
    | .error e => (r, .error (.refused e))
    | .ok () =>
      let row := t.registrationColumns agent.agentId
      if (r.stateRows.get? agent.agentId).isSome ∨ Rejects r.transitionRows row then
        (r, .error .unavailable)
      else
        ({ r with
            agentRows := r.agentRows.set agent.agentId agent.columns
            stateRows := r.stateRows.set agent.agentId newState.columns
            transitionRows := r.transitionRows ++ [row] }, .ok ())

-- ORDER BY occurred_at, transition_id: by the moments the column holds
def listTransitions (r : SqlAdministrativeStateRepository) (agentId : Option String) :
    Except AdministrativeStoreError (List AdministrativeTransition) :=
  ((r.transitionRows.filter (fun row => agentId.all (· = row.agentId))).insertionSort
    (fun t u => (r.column.timestamp t.occurredAt).instant <
      (r.column.timestamp u.occurredAt).instant ∨
      ((r.column.timestamp t.occurredAt).instant = (r.column.timestamp u.occurredAt).instant ∧
        t.transitionId ≤ u.transitionId))).mapM (transitionToDomain r.column)

end SqlAdministrativeStateRepository

inductive AdministrativeCall where
  | commitRegistration (agent : Agent) (t : AdministrativeTransition)
      (newState : AgentAdministrativeState)
  | recordTransition (t : AdministrativeTransition) (newState : AgentAdministrativeState)
      (expectedVersion : Nat)
  | getState (agentId : String)
  | listTransitions (agentId : Option String)
  deriving DecidableEq

def AdministrativeCall.isRead : AdministrativeCall → Bool
  | .getState _ => true
  | .listTransitions _ => true
  | _ => false

inductive AdministrativeReply where
  | committed (r : Except AdministrativeStoreError Unit)
  | recorded (r : Except AdministrativeStoreError Bool)
  | state (r : Except AdministrativeStoreError (Option AgentAdministrativeState))
  | transitions (r : Except AdministrativeLedgerError (List AdministrativeTransition))

-- the values a caller's == compares
def AdministrativeTransition.compared (t : AdministrativeTransition) : AdministrativeTransition :=
  { t with occurredAt := t.occurredAt.compared }

def AgentAdministrativeState.compared (s : AgentAdministrativeState) : AgentAdministrativeState :=
  { s with lastTransitionAt := s.lastTransitionAt.map (·.compared) }

def AdministrativeReply.compared : AdministrativeReply → AdministrativeReply
  | .committed r => .committed r
  | .recorded r => .recorded r
  | .state r => .state (r.map (·.map (·.compared)))
  | .transitions r => .transitions (r.map (·.map (·.compared)))

structure InMemoryAdministrativeStore where
  agents : AgentRepository
  administrative : AdministrativeStateRepository

namespace InMemoryAdministrativeStore

def empty : InMemoryAdministrativeStore := ⟨.empty, .empty⟩

def answer (m : InMemoryAdministrativeStore) :
    AdministrativeCall → InMemoryAdministrativeStore × AdministrativeReply
  | .commitRegistration agent t newState =>
    match m.administrative.commitRegistration m.agents agent t newState with
    | .ok (agents, administrative) => (⟨agents, administrative⟩, .committed (.ok ()))
    | .error e => (m, .committed (.error (.refused e)))
  | .recordTransition t newState expectedVersion =>
    let (administrative, reply) := m.administrative.recordTransition t newState expectedVersion
    ({ m with administrative }, .recorded (reply.mapError .refused))
  | .getState agentId => (m, .state (.ok (m.administrative.getState agentId)))
  | .listTransitions agentId =>
    (m, .transitions ((m.administrative.listTransitions agentId).mapError .raised))

end InMemoryAdministrativeStore

def SqlAdministrativeStateRepository.answer (r : SqlAdministrativeStateRepository) :
    AdministrativeCall → SqlAdministrativeStateRepository × AdministrativeReply
  | .commitRegistration agent t newState =>
    let (r', reply) := r.commitRegistration agent t newState
    (r', .committed reply)
  | .recordTransition t newState expectedVersion =>
    let (r', reply) := r.recordTransition t newState expectedVersion
    (r', .recorded reply)
  | .getState agentId => (r, .state (r.getState agentId))
  | .listTransitions agentId => (r, .transitions ((r.listTransitions agentId).mapError .store))

-- what the columns of an entry or a state give back
def AdministrativeTransition.readBack (t : AdministrativeTransition) (column : TimestampColumn) :
    AdministrativeTransition :=
  { t with occurredAt := column.readBack t.occurredAt }

def AgentAdministrativeState.readBack (s : AgentAdministrativeState) (column : TimestampColumn) :
    AgentAdministrativeState :=
  { s with lastTransitionAt := s.lastTransitionAt.map column.readBack }

-- the columns keep the timestamps of an entry and of the state committed with it
structure TimestampColumn.KeepsBoth (column : TimestampColumn) (t : AdministrativeTransition)
    (n : AgentAdministrativeState) : Prop where
  entry : column.Keeps t.occurredAt
  state : ∀ at_, n.lastTransitionAt = some at_ → column.Keeps at_

theorem AdministrativeTransition.compared_readBack_iff {t : AdministrativeTransition}
    {column : TimestampColumn} :
    (t.readBack column).compared = t.compared ↔ column.Keeps t.occurredAt := by
  rw [← TimestampColumn.compared_readBack_iff]
  exact ⟨congrArg AdministrativeTransition.occurredAt,
    fun h => congrArg (fun o => { t with occurredAt := o }) h⟩

theorem AgentAdministrativeState.compared_readBack_iff {s : AgentAdministrativeState}
    {column : TimestampColumn} :
    (s.readBack column).compared = s.compared ↔
      ∀ at_, s.lastTransitionAt = some at_ → column.Keeps at_ := by
  have hfield : (s.readBack column).compared = s.compared ↔
      (s.lastTransitionAt.map column.readBack).map (·.compared) =
        s.lastTransitionAt.map (·.compared) :=
    ⟨congrArg AgentAdministrativeState.lastTransitionAt,
      fun h => congrArg (fun o => { s with lastTransitionAt := o }) h⟩
  rw [hfield]
  cases s.lastTransitionAt with
  | none => simp
  | some at_ => simp [TimestampColumn.compared_readBack_iff]

theorem readAdministrativeState_map (state : Option AdministrativeLifecycleState) :
    readAdministrativeState (state.map (·.value)) = .ok state := by
  cases state with
  | none => rfl
  | some state => simp [readAdministrativeState, AdministrativeLifecycleState.ofValue_value]

theorem stateToDomain_columns (column : TimestampColumn) (agentId : String)
    (s : AgentAdministrativeState) :
    stateToDomain column agentId s.columns = .ok { s.readBack column with agentId } := by
  simp [stateToDomain, AgentAdministrativeState.columns, AgentAdministrativeState.readBack,
    AdministrativeLifecycleState.ofValue_value]

theorem transitionToDomain_columns (column : TimestampColumn) (t : AdministrativeTransition)
    (agentId : String) :
    transitionToDomain column (t.columns agentId) = .ok { t.readBack column with agentId } := by
  simp [transitionToDomain, AdministrativeTransition.readBack, AdministrativeTransition.columns,
    AdministrativeAction.ofValue_value,
    ActorType.ofValue_value, readAdministrativeState_map,
    AdministrativeLifecycleState.ofValue_value, t.actor.id_ne]

theorem insertionSort_congr {α : Type} {r s : α → α → Prop} [DecidableRel r] [DecidableRel s]
    {l : List α} (h : ∀ a ∈ l, ∀ b ∈ l, r a b ↔ s a b) : l.insertionSort r = l.insertionSort s := by
  simpa using List.map_insertionSort r s id l h

-- the rows of a ledger, listed: its entries read back in the order of their columns
theorem SqlAdministrativeStateRepository.listTransitions_eq (r : SqlAdministrativeStateRepository)
    {ts : List AdministrativeTransition}
    (h : r.transitionRows = ts.map (fun t => t.columns t.agentId)) (agentId : Option String) :
    r.listTransitions agentId =
      .ok (((ts.filter (fun t => agentId.all (· = t.agentId))).insertionSort
      (fun t u =>
        (r.column.timestamp t.occurredAt).instant < (r.column.timestamp u.occurredAt).instant ∨
          ((r.column.timestamp t.occurredAt).instant = (r.column.timestamp u.occurredAt).instant ∧
            t.transitionId ≤ u.transitionId))).map (·.readBack r.column)) := by
  have hsort := List.map_insertionSort
    (fun t u : AdministrativeTransition =>
      (r.column.timestamp t.occurredAt).instant < (r.column.timestamp u.occurredAt).instant ∨
        ((r.column.timestamp t.occurredAt).instant = (r.column.timestamp u.occurredAt).instant ∧
          t.transitionId ≤ u.transitionId))
    (fun t u : AdministrativeTransitionRow =>
      (r.column.timestamp t.occurredAt).instant < (r.column.timestamp u.occurredAt).instant ∨
        ((r.column.timestamp t.occurredAt).instant = (r.column.timestamp u.occurredAt).instant ∧
          t.transitionId ≤ u.transitionId))
    (fun t => t.columns t.agentId)
    (ts.filter (fun t => agentId.all (· = t.agentId)))
    (fun _ _ _ _ => Iff.rfl)
  have hread : (transitionToDomain r.column ∘
      fun t : AdministrativeTransition => t.columns t.agentId) =
      fun t => pure (t.readBack r.column) := by
    funext t
    exact transitionToDomain_columns r.column t t.agentId
  have hrows : r.transitionRows.filter (fun row => agentId.all (· = row.agentId)) =
      (ts.filter (fun t => agentId.all (· = t.agentId))).map (fun t => t.columns t.agentId) := by
    rw [h, List.filter_map]
    rfl
  rw [SqlAdministrativeStateRepository.listTransitions, hrows, ← hsort, List.mapM_map, hread,
    List.mapM_pure]
  rfl

namespace InMemoryAdministrativeStore

variable {m : InMemoryAdministrativeStore} {q : SqlAdministrativeStateRepository}
  {agent : Agent} {t : AdministrativeTransition} {n : AgentAdministrativeState} {v : Nat}

def currentVersion (m : InMemoryAdministrativeStore) (agentId : String) : Nat :=
  ((m.administrative.states.get? agentId).map (·.administrativeVersion)).getD 0

def previousState (m : InMemoryAdministrativeStore) (agentId : String) :
    Option AdministrativeLifecycleState :=
  (m.administrative.states.get? agentId).map (·.state)

-- the ledger entry tells the step from `previous` at `version` to the new state
structure Describes (t : AdministrativeTransition) (n : AgentAdministrativeState)
    (previous : Option AdministrativeLifecycleState) (version : Nat) : Prop where
  advances : n.administrativeVersion = version + 1
  legal : isLegalAdministrativeTransition previous n.state = true
  previousState : t.previousState = previous
  newState : t.newState = n.state
  versionBefore : t.administrativeVersionBefore = version
  versionAfter : t.administrativeVersionAfter = n.administrativeVersion

theorem validateTransitionInvariants_eq (version : Nat)
    (previous : Option AdministrativeLifecycleState) :
    (Describes t n previous version ∧
        validateTransitionInvariants t n version previous version = .ok ()) ∨
      (¬ Describes t n previous version ∧
        validateTransitionInvariants t n version previous version =
          .error .transitionInvariant) := by
  simp only [validateTransitionInvariants]
  split_ifs with hadvances hlegal hentry
  · exact .inr ⟨fun h => hadvances h.advances, rfl⟩
  · refine .inr ⟨fun h => ?_, rfl⟩
    rw [h.legal] at hlegal
    cases hlegal
  · refine .inr ⟨fun h => ?_, rfl⟩
    simp [h.previousState, h.newState, h.versionBefore, h.versionAfter] at hentry
  · simp only [not_or, not_not] at hadvances hentry
    refine .inl
      ⟨⟨hadvances, by simpa using hlegal, hentry.1, hentry.2.1, hentry.2.2.1, hentry.2.2.2⟩, rfl⟩

theorem recordTransition_eq (m : InMemoryAdministrativeStore) (t : AdministrativeTransition)
    (n : AgentAdministrativeState) (v : Nat) :
    m.administrative.recordTransition t n v =
      if m.currentVersion t.agentId ≠ v then (m.administrative, .ok false)
      else
        match validateTransitionInvariants t n (m.currentVersion t.agentId)
          (m.previousState t.agentId) v with
        | .error e => (m.administrative, .error e)
        | .ok () => (⟨m.administrative.states.set t.agentId n, m.administrative.transitions ++ [t]⟩,
            .ok true) := by
  simp only [AdministrativeStateRepository.recordTransition, validateTransitionInvariants,
    currentVersion, previousState]
  split_ifs with hversion hadvances hlegal hentry
  · simp [hversion]
  · rfl
  · simp [hlegal]
  · simp [hlegal, hentry]
  · simp [hlegal, hentry]

structure Accepts (m : InMemoryAdministrativeStore) (t : AdministrativeTransition)
    (n : AgentAdministrativeState) (v : Nat) : Prop where
  expected : m.currentVersion t.agentId = v
  described : Describes t n (m.previousState t.agentId) v

structure Registers (m : InMemoryAdministrativeStore) (agent : Agent)
    (n : AgentAdministrativeState) : Prop where
  absent : m.agents.get agent.agentId = none
  legal : isLegalAdministrativeTransition none n.state = true
  initial : n.administrativeVersion = 1

def Fresh (m : InMemoryAdministrativeStore) (t : AdministrativeTransition) : Prop :=
  ∀ u ∈ m.administrative.transitions, u.transitionId ≠ t.transitionId

-- what the two adapters share at every point of a run
structure Mirrors (m : InMemoryAdministrativeStore) (q : SqlAdministrativeStateRepository) :
    Prop where
  agents : ∀ k, (q.agentRows.get? k).isSome = (m.agents.get k).isSome
  states : ∀ k, q.stateRows.get? k = (m.administrative.states.get? k).map (·.columns)
  named : ∀ k s, m.administrative.states.get? k = some s → s.agentId = k
  owned : ∀ k s, m.administrative.states.get? k = some s → (m.agents.get k).isSome = true
  ledger : q.transitionRows = m.administrative.transitions.map (fun t => t.columns t.agentId)
  versions : ∀ t ∈ m.administrative.transitions,
    t.administrativeVersionAfter ≤ m.currentVersion t.agentId
  entries : ∀ t ∈ m.administrative.transitions, q.column.Keeps t.occurredAt
  times : ∀ k s, m.administrative.states.get? k = some s →
    ∀ at_, s.lastTransitionAt = some at_ → q.column.Keeps at_

theorem mirrors_empty (column : TimestampColumn) : Mirrors empty (.empty column) := by
  refine ⟨fun _ => rfl, fun _ => rfl, ?_, ?_, rfl, ?_, ?_, ?_⟩
  · intro k s h
    cases h
  · intro k s h
    cases h
  · intro t h
    cases h
  · intro t h
    cases h
  · intro k s h
    cases h

theorem Mirrors.getState (h : Mirrors m q) (agentId : String) :
    q.getState agentId = .ok ((m.administrative.getState agentId).map (·.readBack q.column)) := by
  cases hs : m.administrative.states.get? agentId with
  | none =>
    simp [SqlAdministrativeStateRepository.getState,
      AdministrativeStateRepository.getState, h.states, hs]
  | some s =>
    have hname := h.named agentId s hs
    simp only [SqlAdministrativeStateRepository.getState, h.states, hs, Option.map_some,
      stateToDomain_columns, AdministrativeStateRepository.getState]
    rw [← hname]
    rfl

theorem Mirrors.getState_compared (h : Mirrors m q) (agentId : String) :
    (AdministrativeReply.state (.ok (m.administrative.getState agentId))).compared =
      (AdministrativeReply.state (q.getState agentId)).compared := by
  rw [h.getState]
  cases hs : m.administrative.getState agentId with
  | none => rfl
  | some s =>
    have hkept : (s.readBack q.column).compared = s.compared :=
      AgentAdministrativeState.compared_readBack_iff.mpr (h.times agentId s hs)
    simp [AdministrativeReply.compared, Except.map, hkept]

theorem Mirrors.listTransitions (h : Mirrors m q) (agentId : Option String) :
    ∃ listed, m.administrative.listTransitions agentId = .ok listed ∧
      listed.Perm (m.administrative.transitions.filter (fun t => agentId.all (· = t.agentId))) ∧
      q.listTransitions agentId = .ok (listed.map (·.readBack q.column)) := by
  have hsub : ∀ t ∈ m.administrative.transitions.filter (fun t => agentId.all (· = t.agentId)),
      t ∈ m.administrative.transitions := fun t ht => List.mem_of_mem_filter ht
  have hmemory := AdministrativeStateRepository.listTransitions_of_aware
    (fun t ht => (h.entries t ht).aware) agentId
  refine ⟨_, hmemory, List.perm_insertionSort _ _, ?_⟩
  rw [q.listTransitions_eq h.ledger]
  congr 2
  refine insertionSort_congr fun t ht u hu => ?_
  rw [(h.entries t (hsub t ht)).moment, (h.entries u (hsub u hu)).moment]

theorem Mirrors.listTransitions_compared (h : Mirrors m q) (agentId : Option String) :
    (AdministrativeReply.transitions
        ((m.administrative.listTransitions agentId).mapError .raised)).compared =
      (AdministrativeReply.transitions ((q.listTransitions agentId).mapError .store)).compared := by
  obtain ⟨listed, hlisted, hperm, hrows⟩ := h.listTransitions agentId
  rw [hlisted, hrows]
  simp only [AdministrativeReply.compared, Except.mapError, Except.map, List.map_map,
    AdministrativeReply.transitions.injEq, Except.ok.injEq]
  refine List.map_congr_left fun t ht => ?_
  have hentry := h.entries t (List.mem_of_mem_filter (hperm.subset ht))
  exact (AdministrativeTransition.compared_readBack_iff.mpr hentry).symm

theorem Mirrors.rejects_iff (h : Mirrors m q)
    (hv : m.currentVersion t.agentId < t.administrativeVersionAfter)
    (ha : t.administrativeVersionAfter = t.administrativeVersionBefore + 1) :
    SqlAdministrativeStateRepository.Rejects q.transitionRows (t.columns t.agentId) ↔
      ¬ m.Fresh t := by
  rw [h.ledger]
  constructor
  · rintro (⟨row, hrow, hid⟩ | ⟨row, hrow, hname, hversion⟩ | hbad)
    · obtain ⟨u, hu, rfl⟩ := List.mem_map.mp hrow
      exact fun hfresh => hfresh u hu hid
    · obtain ⟨u, hu, rfl⟩ := List.mem_map.mp hrow
      have hle := h.versions u hu
      simp only [AdministrativeTransition.columns] at hname hversion
      rw [hname] at hle
      omega
    · exact absurd ha hbad
  · intro hfresh
    simp only [Fresh, not_forall, not_not] at hfresh
    obtain ⟨u, hu, hid⟩ := hfresh
    exact .inl ⟨_, List.mem_map_of_mem hu, hid⟩

theorem Mirrors.sqlRecordTransition_eq (h : Mirrors m q)
    (hr : (m.agents.get t.agentId).isSome = true) :
    q.recordTransition t n v =
      if m.currentVersion t.agentId ≠ v then (q, .ok false)
      else
        match validateTransitionInvariants t n (m.currentVersion t.agentId)
          (m.previousState t.agentId) v with
        | .error e => (q, .error (.refused e))
        | .ok () =>
          if SqlAdministrativeStateRepository.Rejects q.transitionRows (t.columns t.agentId) then
            (q, .error .unavailable)
          else
            ({ q with
                stateRows := q.stateRows.set t.agentId n.columns
                transitionRows := q.transitionRows ++ [t.columns t.agentId] }, .ok true) := by
  have hknown : ¬ (q.agentRows.get? t.agentId).isNone = true := by
    rw [← h.agents, Option.isSome_iff_ne_none] at hr
    simpa using hr
  have hversion : ((q.stateRows.get? t.agentId).map (·.administrativeVersion)).getD 0 =
      m.currentVersion t.agentId := by
    rw [h.states, Option.map_map]
    rfl
  have hstate : readAdministrativeState ((q.stateRows.get? t.agentId).map (·.state)) =
      .ok (m.previousState t.agentId) := by
    rw [h.states, Option.map_map, previousState, ← readAdministrativeState_map, Option.map_map]
    rfl
  simp only [SqlAdministrativeStateRepository.recordTransition, if_neg hknown, hversion, hstate]

theorem Accepts.valid (ha : m.Accepts t n v) : validateTransitionInvariants t n
    (m.currentVersion t.agentId) (m.previousState t.agentId) v = .ok () := by
  obtain ⟨rfl, hd⟩ := ha
  rcases validateTransitionInvariants_eq (t := t) (n := n) (m.currentVersion t.agentId)
    (m.previousState t.agentId) with ⟨-, hok⟩ | ⟨hn, -⟩
  · exact hok
  · exact absurd hd hn

theorem not_accepts_cases (ha : ¬ m.Accepts t n v) : m.currentVersion t.agentId ≠ v ∨
    (m.currentVersion t.agentId = v ∧ validateTransitionInvariants t n (m.currentVersion t.agentId)
      (m.previousState t.agentId) v = .error .transitionInvariant) := by
  rcases eq_or_ne (m.currentVersion t.agentId) v with rfl | hv
  · rcases validateTransitionInvariants_eq (t := t) (n := n) (m.currentVersion t.agentId)
      (m.previousState t.agentId) with ⟨hd, -⟩ | ⟨-, herror⟩
    · exact absurd ⟨rfl, hd⟩ ha
    · exact .inr ⟨rfl, herror⟩
  · exact .inl hv

theorem recordTransition_of_accepts (ha : m.Accepts t n v) :
    m.administrative.recordTransition t n v =
    (⟨m.administrative.states.set t.agentId n, m.administrative.transitions ++ [t]⟩, .ok true) := by
  rw [recordTransition_eq, if_neg (not_not.mpr ha.expected), ha.valid]

theorem recordTransition_of_not_accepts (ha : ¬ m.Accepts t n v) :
    (m.administrative.recordTransition t n v).1 = m.administrative := by
  rw [recordTransition_eq]
  rcases not_accepts_cases ha with hv | ⟨hv, herror⟩
  · rw [if_pos hv]
  · rw [if_neg (not_not.mpr hv), herror]

theorem Mirrors.sqlRecordTransition_of_accepts (h : Mirrors m q)
    (hr : (m.agents.get t.agentId).isSome = true) (ha : m.Accepts t n v) :
    (m.Fresh t → q.recordTransition t n v =
      ({ q with
          stateRows := q.stateRows.set t.agentId n.columns
          transitionRows := q.transitionRows ++ [t.columns t.agentId] }, .ok true)) ∧
      (¬ m.Fresh t → q.recordTransition t n v = (q, .error .unavailable)) := by
  have hd := ha.described
  have hrejects := h.rejects_iff (t := t)
    (by rw [hd.versionAfter, hd.advances, ha.expected]; exact Nat.lt_succ_self _)
    (by rw [hd.versionAfter, hd.advances, hd.versionBefore])
  rw [h.sqlRecordTransition_eq hr, if_neg (not_not.mpr ha.expected), ha.valid]
  constructor
  · intro hfresh
    simp only [hrejects, hfresh, not_true_eq_false, if_false]
  · intro hfresh
    simp only [hrejects, hfresh, not_false_eq_true, if_true]

theorem Mirrors.sqlRecordTransition_of_not_accepts (h : Mirrors m q)
    (hr : (m.agents.get t.agentId).isSome = true) (ha : ¬ m.Accepts t n v) :
    q.recordTransition t n v =
      (q, (m.administrative.recordTransition t n v).2.mapError .refused) := by
  rw [h.sqlRecordTransition_eq hr, recordTransition_eq]
  rcases not_accepts_cases ha with hv | ⟨hv, herror⟩
  · rw [if_pos hv, if_pos hv]
    rfl
  · rw [if_neg (not_not.mpr hv), if_neg (not_not.mpr hv), herror]
    rfl

theorem Mirrors.entries_append (h : Mirrors m q) (ht : q.column.Keeps t.occurredAt) :
    ∀ u ∈ m.administrative.transitions ++ [t], q.column.Keeps u.occurredAt := by
  intro u hu
  rcases List.mem_append.mp hu with hu | hu
  · exact h.entries u hu
  · rw [List.mem_singleton.mp hu]
    exact ht

theorem Mirrors.times_set (h : Mirrors m q) {a : String}
    (hn : ∀ at_, n.lastTransitionAt = some at_ → q.column.Keeps at_) :
    ∀ k s, (m.administrative.states.set a n).get? k = some s →
      ∀ at_, s.lastTransitionAt = some at_ → q.column.Keeps at_ := by
  intro k s hs
  rw [Dict.get?_set] at hs
  split at hs
  · cases hs
    exact hn
  · exact h.times k s hs

-- both stores take the entry: the relation survives because its version is the newest
theorem Mirrors.committed (h : Mirrors m q) (hr : (m.agents.get t.agentId).isSome = true)
    (hn : n.agentId = t.agentId) (ha : m.Accepts t n v) (hk : q.column.KeepsBoth t n) :
    Mirrors { m with administrative := ⟨m.administrative.states.set t.agentId n,
        m.administrative.transitions ++ [t]⟩ }
      { q with
        stateRows := q.stateRows.set t.agentId n.columns
        transitionRows := q.transitionRows ++ [t.columns t.agentId] } := by
  have hd := ha.described
  refine ⟨h.agents, ?_, ?_, ?_, ?_, ?_, ?_, ?_⟩
  · intro k
    simp only [Dict.get?_set, h.states]
    split <;> rfl
  · intro k s hs
    simp only [Dict.get?_set] at hs
    split at hs
    · rename_i hk
      cases hs
      rw [hn, hk]
    · exact h.named k s hs
  · intro k s hs
    simp only [Dict.get?_set] at hs
    split at hs
    · rename_i hk
      rw [← hk]
      exact hr
    · exact h.owned k s hs
  · simp [h.ledger]
  · intro u hu
    simp only [currentVersion, Dict.get?_set]
    rcases List.mem_append.mp hu with hu | hu
    · have hle := h.versions u hu
      split
      · rename_i hk
        rw [← hk, ha.expected] at hle
        simp only [Option.map_some, Option.getD_some, hd.advances]
        omega
      · exact hle
    · rw [List.mem_singleton] at hu
      subst hu
      simp [hd.versionAfter]
  · exact h.entries_append hk.entry
  · exact h.times_set hk.state

theorem Mirrors.no_state (h : Mirrors m q) (hr : m.Registers agent n) :
    m.administrative.states.get? agent.agentId = none := by
  cases hs : m.administrative.states.get? agent.agentId with
  | none => rfl
  | some s =>
    have howned := h.owned agent.agentId s hs
    rw [hr.absent] at howned
    cases howned

theorem commitRegistration_of_registers (hr : m.Registers agent n) :
    m.administrative.commitRegistration m.agents agent t n =
      .ok (m.agents.save agent, ⟨m.administrative.states.set agent.agentId n,
        m.administrative.transitions ++ [t]⟩) := by
  simp [AdministrativeStateRepository.commitRegistration, hr.absent, hr.legal, hr.initial]

theorem Mirrors.commitRegistration_of_not_registers (h : Mirrors m q) (hr : ¬ m.Registers agent n) :
    ∃ e, m.administrative.commitRegistration m.agents agent t n = .error e ∧
      q.commitRegistration agent t n = (q, .error (.refused e)) := by
  simp only [AdministrativeStateRepository.commitRegistration,
    SqlAdministrativeStateRepository.commitRegistration, h.agents]
  cases hagent : m.agents.get agent.agentId with
  | some stored => exact ⟨.agentAlreadyRegistered, rfl, rfl⟩
  | none =>
    refine ⟨.transitionInvariant, ?_, ?_⟩
    · by_cases hlegal : isLegalAdministrativeTransition none n.state = true
      · have hinitial : n.administrativeVersion ≠ 1 := fun hi => hr ⟨hagent, hlegal, hi⟩
        simp [hlegal, hinitial]
      · simp [hlegal]
    · rcases validateTransitionInvariants_eq (t := t) (n := n) 0 none with ⟨hd, -⟩ | ⟨-, herror⟩
      · exact absurd ⟨hagent, hd.legal, hd.advances⟩ hr
      · simp [herror]

theorem Mirrors.sqlCommitRegistration_of_describes (h : Mirrors m q) (hr : m.Registers agent n)
    (hd : Describes t n none 0) :
    (m.Fresh t → q.commitRegistration agent t n =
      ({ q with
          agentRows := q.agentRows.set agent.agentId agent.columns
          stateRows := q.stateRows.set agent.agentId n.columns
          transitionRows := q.transitionRows ++ [t.columns agent.agentId] }, .ok ())) ∧
      (¬ m.Fresh t → q.commitRegistration agent t n = (q, .error .unavailable)) := by
  have hstate := h.no_state hr
  have hagents : (q.agentRows.get? agent.agentId).isSome = false := by
    rw [h.agents, hr.absent]
    rfl
  have hrows : (q.stateRows.get? agent.agentId).isSome = false := by
    rw [h.states, hstate]
    rfl
  have hvalid : validateTransitionInvariants t n 0 none 0 = .ok () := by
    rcases validateTransitionInvariants_eq (t := t) (n := n) 0 none with ⟨-, hok⟩ | ⟨hn, -⟩
    · exact hok
    · exact absurd hd hn
  have hrow : t.registrationColumns agent.agentId = t.columns agent.agentId := by
    simp [AdministrativeTransition.registrationColumns, AdministrativeTransition.columns,
      hd.previousState, hd.versionBefore]
  have hrejects := h.rejects_iff (t := { t with agentId := agent.agentId })
    (by simp [currentVersion, hstate, hd.versionAfter, hd.advances])
    (by simp [hd.versionAfter, hd.advances, hd.versionBefore])
  have hrejected : ((q.stateRows.get? agent.agentId).isSome = true ∨
      SqlAdministrativeStateRepository.Rejects q.transitionRows
        (t.columns agent.agentId)) ↔ ¬ m.Fresh t := by
    rw [hrows, Bool.false_eq_true, false_or]
    exact hrejects
  constructor
  · intro hfresh
    have hpass := mt hrejected.mp (not_not.mpr hfresh)
    simp only [SqlAdministrativeStateRepository.commitRegistration, hagents, hvalid,
      hrow, if_neg hpass, Bool.false_eq_true, if_false]
  · intro hfresh
    have hfail := hrejected.mpr hfresh
    simp only [SqlAdministrativeStateRepository.commitRegistration, hagents, hvalid,
      hrow, if_pos hfail, Bool.false_eq_true, if_false]

theorem Mirrors.sqlCommitRegistration_of_not_describes (h : Mirrors m q) (hr : m.Registers agent n)
    (hd : ¬ Describes t n none 0) :
    q.commitRegistration agent t n = (q, .error (.refused .transitionInvariant)) := by
  have hagents : (q.agentRows.get? agent.agentId).isSome = false := by
    rw [h.agents, hr.absent]
    rfl
  rcases validateTransitionInvariants_eq (t := t) (n := n) 0 none with ⟨hd', -⟩ | ⟨-, herror⟩
  · exact absurd hd' hd
  · simp [SqlAdministrativeStateRepository.commitRegistration, hagents, herror]

theorem Mirrors.registered (h : Mirrors m q) (hr : m.Registers agent n) (hd : Describes t n none 0)
    (ht : t.agentId = agent.agentId) (hn : n.agentId = agent.agentId)
    (hk : q.column.KeepsBoth t n) :
    Mirrors ⟨m.agents.save agent, ⟨m.administrative.states.set agent.agentId n,
        m.administrative.transitions ++ [t]⟩⟩
      { q with
        agentRows := q.agentRows.set agent.agentId agent.columns
        stateRows := q.stateRows.set agent.agentId n.columns
        transitionRows := q.transitionRows ++ [t.columns agent.agentId] } := by
  have hstate := h.no_state hr
  refine ⟨?_, ?_, ?_, ?_, ?_, ?_, h.entries_append hk.entry, h.times_set hk.state⟩
  · intro k
    have hagents := h.agents k
    simp only [AgentRepository.get, AgentRepository.save, Dict.get?_set] at hagents ⊢
    split
    · rfl
    · exact hagents
  · intro k
    simp only [Dict.get?_set, h.states]
    split <;> rfl
  · intro k s hs
    simp only [Dict.get?_set] at hs
    split at hs
    · rename_i hk
      cases hs
      rw [hn, hk]
    · exact h.named k s hs
  · intro k s hs
    simp only [Dict.get?_set] at hs
    simp only [AgentRepository.get, AgentRepository.save, Dict.get?_set]
    split at hs
    · rename_i hk
      simp [hk]
    · rename_i hk
      rw [if_neg hk]
      exact h.owned k s hs
  · simp [h.ledger, ht]
  · intro u hu
    simp only [currentVersion, Dict.get?_set]
    rcases List.mem_append.mp hu with hu | hu
    · have hle := h.versions u hu
      split
      · rename_i hk
        simp only [currentVersion, ← hk, hstate, Option.map_none, Option.getD_none] at hle
        omega
      · exact hle
    · rw [List.mem_singleton] at hu
      subst hu
      simp [ht, hd.versionAfter]

end InMemoryAdministrativeStore

namespace AdministrativeCall

variable {m : InMemoryAdministrativeStore} {q : SqlAdministrativeStateRepository}
  {calls : List AdministrativeCall}

def Consistent (column : TimestampColumn) (m : InMemoryAdministrativeStore) :
    AdministrativeCall → Prop
  | .commitRegistration agent t newState => m.Registers agent newState →
      InMemoryAdministrativeStore.Describes t newState none 0 ∧ t.agentId = agent.agentId ∧
        newState.agentId = agent.agentId ∧ m.Fresh t ∧ column.KeepsBoth t newState
  | .recordTransition t newState expectedVersion => (m.agents.get t.agentId).isSome = true ∧
      (m.Accepts t newState expectedVersion → newState.agentId = t.agentId ∧ m.Fresh t ∧
        column.KeepsBoth t newState)
  | _ => True

theorem answer_column (q : SqlAdministrativeStateRepository) (c : AdministrativeCall) :
    (q.answer c).1.column = q.column := by
  cases c with
  | commitRegistration agent t n =>
    simp only [SqlAdministrativeStateRepository.answer,
      SqlAdministrativeStateRepository.commitRegistration]
    split
    · rfl
    · split
      · rfl
      · split <;> rfl
  | recordTransition t n v =>
    simp only [SqlAdministrativeStateRepository.answer,
      SqlAdministrativeStateRepository.recordTransition]
    split
    · rfl
    · split
      · rfl
      · split
        · rfl
        · split
          · rfl
          · split <;> rfl
  | getState agentId => rfl
  | listTransitions agentId => rfl

theorem answer_mirrors (h : m.Mirrors q) {c : AdministrativeCall} (hc : c.Consistent q.column m) :
    (m.answer c).2.compared = (q.answer c).2.compared ∧ (m.answer c).1.Mirrors (q.answer c).1 := by
  cases c with
  | commitRegistration agent t n =>
    by_cases hr : m.Registers agent n
    · obtain ⟨hd, ht, hn, hfresh, hkeeps⟩ := hc hr
      simp only [InMemoryAdministrativeStore.answer, SqlAdministrativeStateRepository.answer,
        InMemoryAdministrativeStore.commitRegistration_of_registers hr,
        (h.sqlCommitRegistration_of_describes hr hd).1 hfresh]
      exact ⟨trivial, h.registered hr hd ht hn hkeeps⟩
    · obtain ⟨e, hm, hq⟩ := h.commitRegistration_of_not_registers (t := t) hr
      simp only [InMemoryAdministrativeStore.answer,
        SqlAdministrativeStateRepository.answer, hm, hq]
      exact ⟨trivial, h⟩
  | recordTransition t n v =>
    obtain ⟨hagent, hc⟩ := hc
    by_cases ha : m.Accepts t n v
    · obtain ⟨hn, hfresh, hkeeps⟩ := hc ha
      simp only [InMemoryAdministrativeStore.answer, SqlAdministrativeStateRepository.answer,
        InMemoryAdministrativeStore.recordTransition_of_accepts ha,
        (h.sqlRecordTransition_of_accepts hagent ha).1 hfresh]
      exact ⟨rfl, h.committed hagent hn ha hkeeps⟩
    · simp only [InMemoryAdministrativeStore.answer, SqlAdministrativeStateRepository.answer,
        InMemoryAdministrativeStore.recordTransition_of_not_accepts ha,
        h.sqlRecordTransition_of_not_accepts hagent ha]
      exact ⟨trivial, h⟩
  | getState agentId => exact ⟨h.getState_compared agentId, h⟩
  | listTransitions agentId => exact ⟨h.listTransitions_compared agentId, h⟩

theorem refines (column : TimestampColumn) :
    Run.Refines InMemoryAdministrativeStore.answer SqlAdministrativeStateRepository.answer
      (fun m c => c.Consistent column m) (fun m q => m.Mirrors q ∧ q.column = column)
      (fun a b => a.compared = b.compared) where
  reply m q c h hc := (answer_mirrors h.1 (by rw [h.2]; exact hc)).1
  next m q c h hc :=
    ⟨(answer_mirrors h.1 (by rw [h.2]; exact hc)).2, (answer_column q c).trans h.2⟩

-- the two stores answer alike so far, and so does every read made from here on
def Agree (m : InMemoryAdministrativeStore) (q : SqlAdministrativeStateRepository)
    (calls : List AdministrativeCall) : Prop :=
  ∀ reads : List AdministrativeCall, (∀ c ∈ reads, c.isRead = true) →
    (Run.replies InMemoryAdministrativeStore.answer m (calls ++ reads)).map
        AdministrativeReply.compared =
      (Run.replies SqlAdministrativeStateRepository.answer q (calls ++ reads)).map
        AdministrativeReply.compared

theorem Agree.reply {c : AdministrativeCall} (h : Agree m q [c]) :
    (m.answer c).2.compared = (q.answer c).2.compared := by
  have hnil := h [] (by simp)
  simpa [Run.replies, Run.history] using hnil

theorem Agree.read {c d : AdministrativeCall} (h : Agree m q [c]) (hd : d.isRead = true) :
    ((m.answer c).1.answer d).2.compared = ((q.answer c).1.answer d).2.compared := by
  have hone := h [d] (by simpa using hd)
  simp only [Run.replies, Run.history, List.cons_append, List.nil_append, List.map_cons,
    List.map_nil, List.cons.injEq, and_true] at hone
  exact hone.2

-- the entry just committed is the only one of its id in both listings
theorem compared_of_listed {r : SqlAdministrativeStateRepository} {column : TimestampColumn}
    {states : Dict String AgentAdministrativeState}
    {ts : List AdministrativeTransition} {t t' : AdministrativeTransition}
    (hrows : r.transitionRows = (ts ++ [t']).map (fun u => u.columns u.agentId))
    (hid : t'.transitionId = t.transitionId) (hfresh : ∀ u ∈ ts, u.transitionId ≠ t.transitionId)
    (h : (AdministrativeReply.transitions ((AdministrativeStateRepository.listTransitions
        ⟨states, ts ++ [t]⟩ none).mapError .raised)).compared =
      (AdministrativeReply.transitions ((r.listTransitions none).mapError .store)).compared)
    (hcolumn : r.column = column) : t.compared = (t'.readBack column).compared := by
  subst hcolumn
  rw [r.listTransitions_eq hrows] at h
  simp only [AdministrativeStateRepository.listTransitions] at h
  split at h
  · cases h
  · simp only [AdministrativeReply.compared, Except.mapError, Except.map, List.map_map,
      AdministrativeReply.transitions.injEq, Except.ok.injEq] at h
    have hmem : (t'.readBack r.column).compared ∈ ((ts ++ [t']).insertionSort (fun t u =>
        (r.column.timestamp t.occurredAt).instant < (r.column.timestamp u.occurredAt).instant ∨
          ((r.column.timestamp t.occurredAt).instant = (r.column.timestamp u.occurredAt).instant ∧
            t.transitionId ≤ u.transitionId))).map
        (AdministrativeTransition.compared ∘ fun t => t.readBack r.column) :=
      List.mem_map.mpr ⟨t', (List.mem_insertionSort _).mpr (by simp), rfl⟩
    simp only [Option.all_none, List.filter_true] at h
    rw [← h] at hmem
    obtain ⟨u, hu, hcompared⟩ := List.mem_map.mp hmem
    have hname : u.compared.transitionId = (t'.readBack r.column).compared.transitionId :=
      congrArg (·.transitionId) hcompared
    rcases List.mem_append.mp ((List.mem_insertionSort _).mp hu) with hold | hnew
    · exact (hfresh u hold (hname.trans hid)).elim
    · rw [← hcompared, List.mem_singleton.mp hnew]

theorem commitRegistration_consistent (h : m.Mirrors q) {agent : Agent}
    {t : AdministrativeTransition} {n : AgentAdministrativeState}
    (hc : Agree m q [.commitRegistration agent t n]) :
    (commitRegistration agent t n).Consistent q.column m := by
  intro hr
  have hreply := hc.reply
  have hstate := hc.read (d := .getState agent.agentId) rfl
  have hledger := hc.read (d := .listTransitions none) rfl
  have hd : InMemoryAdministrativeStore.Describes t n none 0 := by
    by_contra hd
    simp [InMemoryAdministrativeStore.answer, SqlAdministrativeStateRepository.answer,
      InMemoryAdministrativeStore.commitRegistration_of_registers hr,
      h.sqlCommitRegistration_of_not_describes hr hd, AdministrativeReply.compared] at hreply
  have hfresh : m.Fresh t := by
    by_contra hfresh
    simp [InMemoryAdministrativeStore.answer, SqlAdministrativeStateRepository.answer,
      InMemoryAdministrativeStore.commitRegistration_of_registers hr,
      (h.sqlCommitRegistration_of_describes hr hd).2 hfresh, AdministrativeReply.compared] at hreply
  have hcommit := (h.sqlCommitRegistration_of_describes hr hd).1 hfresh
  simp only [InMemoryAdministrativeStore.answer, SqlAdministrativeStateRepository.answer, hcommit,
    InMemoryAdministrativeStore.commitRegistration_of_registers hr,
    AdministrativeStateRepository.getState, SqlAdministrativeStateRepository.getState,
    Dict.get?_set, if_true, stateToDomain_columns] at hstate hledger
  have hcompared : n.compared = ({ n.readBack q.column with agentId := agent.agentId } :
      AgentAdministrativeState).compared := by
    simpa [AdministrativeReply.compared, Except.map] using hstate
  have hn : n.agentId = agent.agentId := congrArg (·.agentId) hcompared
  -- the row SQL wrote is the entry renamed after the agent
  have hentry : t.compared =
      (({ t with agentId := agent.agentId } : AdministrativeTransition).readBack
        q.column).compared := by
    refine compared_of_listed ?_ rfl hfresh hledger rfl
    rw [h.ledger, List.map_append]
    rfl
  have ht : t.agentId = agent.agentId := congrArg (·.agentId) hentry
  refine ⟨hd, ht, hn, hfresh, ?_, ?_⟩
  · rw [← ht] at hentry
    exact AdministrativeTransition.compared_readBack_iff.mp hentry.symm
  · rw [← hn] at hcompared
    exact AgentAdministrativeState.compared_readBack_iff.mp hcompared.symm

theorem recordTransition_consistent (h : m.Mirrors q) {t : AdministrativeTransition}
    {n : AgentAdministrativeState} {v : Nat} (hc : Agree m q [.recordTransition t n v]) :
    (recordTransition t n v).Consistent q.column m := by
  have hreply := hc.reply
  have hstate := hc.read (d := .getState t.agentId) rfl
  have hledger := hc.read (d := .listTransitions none) rfl
  have hagent : (m.agents.get t.agentId).isSome = true := by
    by_contra hagent
    have hunknown : (q.agentRows.get? t.agentId).isNone = true := by
      rw [← h.agents] at hagent
      simpa using hagent
    simp only [InMemoryAdministrativeStore.answer, SqlAdministrativeStateRepository.answer,
      SqlAdministrativeStateRepository.recordTransition, if_pos hunknown,
      AdministrativeReply.compared, AdministrativeReply.recorded.injEq] at hreply
    cases hr : (m.administrative.recordTransition t n v).2 <;> simp [hr, Except.mapError] at hreply
  refine ⟨hagent, fun ha => ?_⟩
  have hfresh : m.Fresh t := by
    by_contra hfresh
    simp [InMemoryAdministrativeStore.answer, SqlAdministrativeStateRepository.answer,
      InMemoryAdministrativeStore.recordTransition_of_accepts ha,
      (h.sqlRecordTransition_of_accepts hagent ha).2 hfresh, Except.mapError,
      AdministrativeReply.compared] at hreply
  simp only [InMemoryAdministrativeStore.answer, SqlAdministrativeStateRepository.answer,
    InMemoryAdministrativeStore.recordTransition_of_accepts ha,
    (h.sqlRecordTransition_of_accepts hagent ha).1 hfresh, AdministrativeStateRepository.getState,
    SqlAdministrativeStateRepository.getState, Dict.get?_set, if_true,
    stateToDomain_columns] at hstate hledger
  have hcompared : n.compared = ({ n.readBack q.column with agentId := t.agentId } :
      AgentAdministrativeState).compared := by
    simpa [AdministrativeReply.compared, Except.map] using hstate
  have hn : n.agentId = t.agentId := congrArg (·.agentId) hcompared
  have hentry : t.compared = (t.readBack q.column).compared := by
    refine compared_of_listed ?_ rfl hfresh hledger rfl
    rw [h.ledger, List.map_append]
    rfl
  refine ⟨hn, hfresh, AdministrativeTransition.compared_readBack_iff.mp hentry.symm, ?_⟩
  rw [← hn] at hcompared
  exact AgentAdministrativeState.compared_readBack_iff.mp hcompared.symm

theorem consistent_of_agree (h : m.Mirrors q) {c : AdministrativeCall} (hc : Agree m q [c]) :
    c.Consistent q.column m := by
  cases c with
  | commitRegistration agent t n => exact commitRegistration_consistent h hc
  | recordTransition t n v => exact recordTransition_consistent h hc
  | _ => trivial

theorem meets_of_agree (h : m.Mirrors q) (hagree : ∀ done, done <+: calls → Agree m q done) :
    Run.Meets InMemoryAdministrativeStore.answer (fun m c => c.Consistent q.column m) m calls := by
  induction calls generalizing m q with
  | nil => trivial
  | cons c calls ih =>
    have hc := consistent_of_agree h (hagree [c] ⟨calls, rfl⟩)
    refine ⟨hc, ?_⟩
    rw [← answer_column q c]
    refine ih (answer_mirrors h hc).2 ?_
    intro done hdone reads hreads
    have hlater := hagree (c :: done) ((List.prefix_cons_inj c).mpr hdone) reads hreads
    simp only [List.cons_append, Run.replies, Run.history, List.map_cons, List.cons.injEq] at hlater
    exact hlater.2

theorem meets_reads (column : TimestampColumn) {reads : List AdministrativeCall}
    (hreads : ∀ c ∈ reads, c.isRead = true) (m : InMemoryAdministrativeStore) :
    Run.Meets InMemoryAdministrativeStore.answer (fun m c => c.Consistent column m) m reads := by
  induction reads generalizing m with
  | nil => trivial
  | cons c reads ih =>
    refine ⟨?_, ih (fun d hd => hreads d (by simp [hd])) _⟩
    have hc := hreads c (by simp)
    cases c with
    | commitRegistration agent t n => cases hc
    | recordTransition t n v => cases hc
    | _ => trivial

theorem administrative_adapters_agree_iff (column : TimestampColumn)
    (calls : List AdministrativeCall) :
    (∀ done, done <+: calls → ∀ reads : List AdministrativeCall, (∀ c ∈ reads, c.isRead = true) →
      (Run.replies InMemoryAdministrativeStore.answer .empty (done ++ reads)).map
          AdministrativeReply.compared =
        (Run.replies SqlAdministrativeStateRepository.answer (.empty column) (done ++ reads)).map
          AdministrativeReply.compared) ↔
      Run.Meets InMemoryAdministrativeStore.answer (fun m c => c.Consistent column m) .empty
        calls := by
  constructor
  · exact meets_of_agree (InMemoryAdministrativeStore.mirrors_empty column)
  · rintro h done ⟨rest, rfl⟩ reads hreads
    apply (refines column).replies_map_eq ⟨InMemoryAdministrativeStore.mirrors_empty column, rfl⟩
    rw [Run.meets_append] at h ⊢
    exact ⟨h.1, meets_reads column hreads _⟩

def sampleAgent : Agent :=
  { agentId := "agent-1", name := "Agent", owner := "owner", riskTier := .low, approvedTools := [] }

theorem system_ne : "system" ≠ "" := by decide

def sampleRegistration (versionAfter : Nat) : AdministrativeTransition :=
  { transitionId := "admin-transition-1"
    agentId := "agent-1"
    action := .register
    actor := ⟨.system, "system", system_ne⟩
    reason := "Agent registered"
    previousState := none
    newState := .registered
    administrativeVersionBefore := 0
    administrativeVersionAfter := versionAfter
    correlationId := "corr-1"
    occurredAt := .utc 5 }

def sampleRegistered : AgentAdministrativeState := ⟨"agent-1", .registered, 1, some (.utc 5)⟩

-- the ledger entry claims version 2 where the state committed is version 1
theorem mismatched_registration_accepted :
    Run.replies InMemoryAdministrativeStore.answer .empty
        [.commitRegistration sampleAgent (sampleRegistration 2) sampleRegistered,
          .listTransitions none] =
        [.committed (.ok ()), .transitions (.ok [sampleRegistration 2])] ∧
      Run.replies SqlAdministrativeStateRepository.answer (.empty .wallClock)
          [.commitRegistration sampleAgent (sampleRegistration 2) sampleRegistered,
            .listTransitions none] =
        [.committed (.error (.refused .transitionInvariant)), .transitions (.ok [])] :=
  ⟨rfl, rfl⟩

end AdministrativeCall

end AgentSecurityPlatform
