import AgentSecurityPlatform.Lifecycle.AgentLifecycle

namespace AgentSecurityPlatform

structure TransitionRow extends EnforcementTransition where
  epoch : Nat
  deriving DecidableEq, Repr

structure SqlEnforcementStateRepository where
  agentRows : List String
  stateRows : Dict String AgentEnforcementState
  transitionRows : List TransitionRow

namespace SqlEnforcementStateRepository

def getState (r : SqlEnforcementStateRepository) (agentId : String) :
    Option AgentEnforcementState :=
  r.stateRows.get? agentId

-- the whole transaction: a raise rolls it back, and transition_id is the primary key of its table
def recordTransition (r : SqlEnforcementStateRepository) (t : EnforcementTransition)
    (newState : AgentEnforcementState) (expectedEpoch : Nat) :
    SqlEnforcementStateRepository × Except RepositoryError Bool :=
  if t.agentId ∉ r.agentRows then (r, .error .enforcementStateUnavailable)
  else
    let stateRow := r.stateRows.get? t.agentId
    let currentEpoch := (stateRow.map (·.epoch)).getD 0
    if currentEpoch ≠ expectedEpoch ∨ newState.epoch ≠ expectedEpoch + 1 then (r, .ok false)
    else
      let currentGeneration := (stateRow.map (·.recoveryGeneration)).getD 0
      if newState.recoveryGeneration ≠ currentGeneration ∧
          newState.recoveryGeneration ≠ currentGeneration + 1 then
        (r, .error .enforcementStateUnavailable)
      else if r.transitionRows.any (·.transitionId = t.transitionId) then
        (r, .error .enforcementStateUnavailable)
      else
        ({ r with
            stateRows := r.stateRows.set t.agentId { newState with agentId := t.agentId }
            transitionRows := r.transitionRows ++ [⟨t, newState.epoch⟩] }, .ok true)

theorem recordTransition_cases {r r' : SqlEnforcementStateRepository} {t : EnforcementTransition}
    {n : AgentEnforcementState} {e : Nat} {o : Except RepositoryError Bool}
    (h : r.recordTransition t n e = (r', o)) :
    (r' = r ∧ o ≠ .ok true) ∨
      (((r.stateRows.get? t.agentId).map (·.epoch)).getD 0 = e ∧ o = .ok true ∧
        r'.stateRows = r.stateRows.set t.agentId { n with agentId := t.agentId } ∧
        r'.transitionRows = r.transitionRows ++ [⟨t, n.epoch⟩]) := by
  unfold recordTransition at h
  split at h
  · cases h
    exact .inl ⟨rfl, by simp⟩
  · simp only at h
    split at h
    · cases h
      exact .inl ⟨rfl, by simp⟩
    · rename_i hcas
      rw [not_or, not_not] at hcas
      split at h
      · cases h
        exact .inl ⟨rfl, by simp⟩
      · split at h
        · cases h
          exact .inl ⟨rfl, by simp⟩
        · cases h
          exact .inr ⟨hcas.1, rfl, rfl, rfl⟩

end SqlEnforcementStateRepository

inductive EnforcementBackend where
  | inMemory (r : EnforcementStateRepository)
  | sql (r : SqlEnforcementStateRepository)

namespace EnforcementBackend

def getState : EnforcementBackend → String → Option AgentEnforcementState
  | .inMemory r => r.getState
  | .sql r => r.getState

def ledger : EnforcementBackend → List EnforcementTransition
  | .inMemory r => r.transitions
  | .sql r => r.transitionRows.map (·.toEnforcementTransition)

def recordTransition (b : EnforcementBackend) (t : EnforcementTransition)
    (newState : AgentEnforcementState) (expectedEpoch : Nat) :
    EnforcementBackend × Except RepositoryError Bool :=
  match b with
  | .inMemory r =>
    let (r', reply) := r.recordTransition t newState expectedEpoch
    (.inMemory r', reply)
  | .sql r =>
    let (r', reply) := r.recordTransition t newState expectedEpoch
    (.sql r', reply)

def currentState (b : EnforcementBackend) (agentId : String) : AgentEnforcementState :=
  (b.getState agentId).getD { agentId }

def Pristine (b : EnforcementBackend) : Prop :=
  (∀ agentId, b.getState agentId = none) ∧ b.ledger = []

variable {b : EnforcementBackend} {t : EnforcementTransition} {n : AgentEnforcementState} {e : Nat}

structure Committed (b : EnforcementBackend) (t : EnforcementTransition) (n : AgentEnforcementState)
    (e : Nat) (b' : EnforcementBackend) : Prop where
  expected : (b.currentState t.agentId).epoch = e
  state : ∀ k, b'.getState k = if t.agentId = k then some n else b.getState k
  ledger : b'.ledger = b.ledger ++ [t]

theorem Committed.currentState {b' : EnforcementBackend} (h : Committed b t n e b') (k : String) :
    b'.currentState k = if t.agentId = k then n else b.currentState k := by
  rw [EnforcementBackend.currentState, h.state]
  split <;> rfl

theorem recordTransition_refused {b' : EnforcementBackend} {o : Except RepositoryError Bool}
    (h : b.recordTransition t n e = (b', o)) (ho : o ≠ .ok true) : b' = b := by
  cases b with
  | inMemory r =>
    obtain ⟨rfl, rfl⟩ := Prod.mk.inj h
    rcases EnforcementStateRepository.recordTransition_cases
      (Prod.eta (r.recordTransition t n e)).symm
      with ⟨hr, -⟩ | ⟨-, -, hok, -⟩
    · exact congrArg EnforcementBackend.inMemory hr
    · exact absurd hok ho
  | sql r =>
    obtain ⟨rfl, rfl⟩ := Prod.mk.inj h
    rcases SqlEnforcementStateRepository.recordTransition_cases
      (Prod.eta (r.recordTransition t n e)).symm with ⟨hr, -⟩ | ⟨-, hok, -⟩
    · exact congrArg EnforcementBackend.sql hr
    · exact absurd hok ho

theorem recordTransition_committed {b' : EnforcementBackend} (hn : n.agentId = t.agentId)
    (h : b.recordTransition t n e = (b', .ok true)) : Committed b t n e b' := by
  cases b with
  | inMemory r =>
    obtain ⟨rfl, hreply⟩ := Prod.mk.inj h
    rcases EnforcementStateRepository.recordTransition_cases
      (Prod.eta (r.recordTransition t n e)).symm
      with ⟨-, ho⟩ | ⟨hepoch, -, -, hstates, htransitions, -⟩
    · exact absurd hreply ho
    · refine ⟨?_, ?_, htransitions⟩
      · rw [← hepoch]
        exact (AgentService.currentEpoch_eq ⟨.empty, .empty, r⟩ t.agentId).symm
      · intro k
        calc (r.recordTransition t n e).1.states.get? k = (r.states.set t.agentId n).get? k := by
              rw [hstates]
          _ = _ := Dict.get?_set _ _ _ _
  | sql r =>
    obtain ⟨rfl, hreply⟩ := Prod.mk.inj h
    have hsame : { n with agentId := t.agentId } = n := by rw [← hn]
    rcases SqlEnforcementStateRepository.recordTransition_cases
      (Prod.eta (r.recordTransition t n e)).symm with ⟨-, ho⟩ | ⟨hepoch, -, hstates, hrows⟩
    · exact absurd hreply ho
    · refine ⟨?_, ?_, ?_⟩
      · rw [← hepoch]
        simp only [currentState, getState, SqlEnforcementStateRepository.getState]
        cases r.stateRows.get? t.agentId <;> rfl
      · intro k
        calc (r.recordTransition t n e).1.stateRows.get? k =
            (r.stateRows.set t.agentId n).get? k := by rw [hstates, hsame]
          _ = _ := Dict.get?_set _ _ _ _
      · refine (congrArg (List.map TransitionRow.toEnforcementTransition) hrows).trans ?_
        rw [List.map_append]
        rfl

end EnforcementBackend

structure EnforcementCommit where
  transition : EnforcementTransition
  watermark : Option BaselineWatermark
  epoch : Nat
  deriving DecidableEq, Repr

namespace EnforcementCommit

def isReinstate (c : EnforcementCommit) : Bool := c.transition.action = .reinstate

def apply (state : AgentEnforcementState) (c : EnforcementCommit) : AgentEnforcementState :=
  AgentService.nextState state c.transition.occurredAt c.transition.reason c.watermark
    c.transition.action

def replay (agentId : String) (cs : List EnforcementCommit) : AgentEnforcementState :=
  cs.foldl apply { agentId }

def commitsOf (agentId : String) (cs : List EnforcementCommit) : List EnforcementCommit :=
  cs.filter (·.transition.agentId = agentId)

def baseline (agentId : String) : Option EnforcementCommit → BaselineWatermark
  | none => ⟨agentId, none, 0, 0⟩
  | some c => ⟨agentId, some ((c.watermark.bind (·.baselineAt)).getD c.transition.occurredAt),
      (c.watermark.map (·.baselineEvidenceSequence)).getD 0,
      (c.watermark.map (·.baselineAgentSequence)).getD 0⟩

variable (agentId : String) (cs : List EnforcementCommit) (c : EnforcementCommit)

theorem replay_concat : replay agentId (cs ++ [c]) = apply (replay agentId cs) c := by
  simp [replay]

theorem agentId_replay : (replay agentId cs).agentId = agentId := by
  induction cs using List.reverseRecOn with
  | nil => rfl
  | append_singleton cs c ih =>
    rw [replay_concat, apply]
    cases c.transition.action <;> exact ih

theorem epoch_replay : (replay agentId cs).epoch = cs.length := by
  induction cs using List.reverseRecOn with
  | nil => rfl
  | append_singleton cs c ih =>
    rw [replay_concat, apply, List.length_append, List.length_singleton, ← ih]
    cases c.transition.action <;> rfl

theorem recoveryGeneration_replay :
    (replay agentId cs).recoveryGeneration = (cs.filter isReinstate).length := by
  induction cs using List.reverseRecOn with
  | nil => rfl
  | append_singleton cs c ih =>
    rw [replay_concat, apply, List.filter_append, List.length_append, ← ih]
    cases h : c.transition.action <;>
      simp [AgentService.nextState, AgentService.suspendedState, AgentService.reinstatedState,
        isReinstate, h]

theorem suspendedAt_replay : (replay agentId cs).suspendedAt =
    (cs.getLast?.filter (fun c => c.transition.action = .suspend)).map
      (fun c => c.transition.occurredAt) := by
  cases cs using List.reverseRecOn with
  | nil => rfl
  | append_singleton cs c =>
    rw [replay_concat, apply, List.getLast?_append]
    cases h : c.transition.action <;>
      simp [AgentService.nextState, AgentService.suspendedState, AgentService.reinstatedState, h]

theorem baseline_replay : AgentService.watermarkOf agentId (replay agentId cs) =
    baseline agentId (cs.filter isReinstate).getLast? := by
  induction cs using List.reverseRecOn with
  | nil => rfl
  | append_singleton cs c ih =>
    rw [replay_concat, apply, List.filter_append]
    cases h : c.transition.action with
    | suspend =>
      simp only [isReinstate, h, List.filter_cons, List.filter_nil, reduceCtorEq, decide_false,
        Bool.false_eq_true, if_false, List.append_nil]
      exact ih
    | reinstate =>
      simp [isReinstate, h, AgentService.nextState, AgentService.reinstatedState,
        AgentService.watermarkOf, baseline]

end EnforcementCommit

end AgentSecurityPlatform
