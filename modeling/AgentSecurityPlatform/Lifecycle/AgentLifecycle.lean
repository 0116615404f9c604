import AgentSecurityPlatform.Lifecycle.AgentService

namespace AgentSecurityPlatform

namespace AgentService

variable {s s' : AgentService} {now : Instant} {uuid agentId : String}

structure Commits (s s' : AgentService) (agentId : String) (state : AgentEnforcementState) :
    Prop where
  agents : s'.agents = s.agents
  administrative : s'.administrative = s.administrative
  persisted : s'.enforcement.states = s.enforcement.states.set agentId state

theorem Commits.getState {state : AgentEnforcementState} (h : Commits s s' agentId state)
    (k : String) : s'.enforcement.getState k =
      if agentId = k then some state else s.enforcement.getState k := by
  simp only [EnforcementStateRepository.getState, h.persisted, Dict.get?_set]

theorem Commits.currentState {state : AgentEnforcementState} (h : Commits s s' agentId state)
    (k : String) : s'.currentState k = if agentId = k then state else s.currentState k := by
  unfold AgentService.currentState
  rw [h.getState]
  split <;> rfl

theorem currentEpoch_eq (s : AgentService) (agentId : String) :
    s.enforcement.currentEpoch agentId = (s.currentState agentId).epoch := by
  unfold EnforcementStateRepository.currentEpoch AgentService.currentState
    EnforcementStateRepository.getState
  cases h : s.enforcement.states.get? agentId with
  | none => simp [Dict.getD, s.enforcement.epochs_absent agentId h]
  | some state => rfl

theorem currentGeneration_eq (s : AgentService) (agentId : String) :
    s.enforcement.currentGeneration agentId = (s.currentState agentId).recoveryGeneration := by
  unfold EnforcementStateRepository.currentGeneration AgentService.currentState
    EnforcementStateRepository.getState
  cases s.enforcement.states.get? agentId <;> rfl

def nextState (state : AgentEnforcementState) (now : Instant) (reason : String)
    (watermark : Option BaselineWatermark) : EnforcementAction → AgentEnforcementState
  | .suspend => suspendedState state now reason
  | .reinstate => reinstatedState state now watermark

theorem transition_commits (s : AgentService) (now : Instant) (uuid : String) (agent : Agent)
    (newStatus : AgentStatus) (action : EnforcementAction) (actor reason : String)
    (trigger : Option EnforcementTrigger) (watermark : Option BaselineWatermark)
    (hd : action = .suspend → s.isDisabled agent.agentId = false) :
    Commits s (s.transition now uuid agent newStatus action actor reason trigger watermark).1
      agent.agentId (nextState (s.currentState agent.agentId) now reason watermark action) ∧
    ∃ a, (s.transition now uuid agent newStatus action actor reason trigger watermark).2 =
      .ok a := by
  have hskip : ¬ (action = .suspend ∧ s.isDisabled agent.agentId = true) := by
    rintro ⟨ha, ht⟩
    rw [hd ha] at ht
    cases ht
  have hepoch := s.currentEpoch_eq agent.agentId
  have hgen := s.currentGeneration_eq agent.agentId
  unfold transition
  rw [if_neg hskip]
  cases action with
  | suspend =>
    simp only [EnforcementStateRepository.recordTransition, hepoch, hgen, suspendedState]
    simp [nextState, suspendedState]
    exact ⟨rfl, rfl, rfl⟩
  | reinstate =>
    simp only [EnforcementStateRepository.recordTransition, hepoch, hgen, reinstatedState]
    simp [nextState, reinstatedState]
    exact ⟨rfl, rfl, rfl⟩

theorem getAgent_ok {agent : Agent} (h : s.getAgent agentId = .ok agent) :
    agent.agentId = agentId ∧ ∃ stored, s.agents.get agentId = some stored ∧
      agent.approvedTools = stored.approvedTools ∧ agent.riskTier = stored.riskTier := by
  unfold getAgent at h
  split at h
  · cases h
  · rename_i stored hs
    cases h
    exact ⟨s.agents.keyed agentId stored hs, stored, hs, rfl, rfl⟩

theorem getAgent_error {e : AgentServiceError} (h : s.getAgent agentId = .error e) :
    e = .agentNotFound agentId ∧ s.agents.get agentId = none := by
  unfold getAgent at h
  split at h
  · rename_i hs
    cases h
    exact ⟨rfl, hs⟩
  · cases h

theorem enterState_frame (s : AgentService) (now : Instant) (u c a : String)
    (state : AdministrativeLifecycleState) (actor : Actor) (reason : String) (cid : Option String) :
    (s.enterState now u c a state actor reason cid).1.agents = s.agents ∧
      (s.enterState now u c a state actor reason cid).1.enforcement = s.enforcement := by
  unfold enterState
  split
  · exact ⟨rfl, rfl⟩
  · unfold administrativeTransition
    simp only
    split
    · exact ⟨rfl, rfl⟩
    · split
      · exact ⟨rfl, rfl⟩
      · split <;> exact ⟨rfl, rfl⟩

theorem suspendAgent_cases {reason : String} {trigger : Option EnforcementTrigger}
    {r : Except AgentServiceError Agent}
    (h : s.suspendAgent now uuid agentId reason trigger = (s', r)) :
    (s' = s ∧ s.agents.get agentId = none ∧ r = .error (.agentNotFound agentId)) ∨
    (s' = s ∧ (isSuspended (s.enforcement.getState agentId) = true ∨ s.isDisabled agentId = true) ∧
      ∃ agent, r = .ok agent) ∨
    (isSuspended (s.enforcement.getState agentId) = false ∧ s.isDisabled agentId = false ∧
      Commits s s' agentId (suspendedState (s.currentState agentId) now reason) ∧
      ∃ agent, r = .ok agent) := by
  unfold suspendAgent at h
  split at h
  · rename_i e he
    cases h
    obtain ⟨rfl, hn⟩ := getAgent_error he
    exact .inl ⟨rfl, hn, rfl⟩
  · rename_i agent ha
    split at h
    · rename_i hc
      cases h
      exact .inr (.inl ⟨rfl, hc, agent, rfl⟩)
    · rename_i hc
      rw [not_or, Bool.not_eq_true, Bool.not_eq_true] at hc
      obtain ⟨rfl, -⟩ := getAgent_ok ha
      obtain ⟨hcommit, hr⟩ := transition_commits s now uuid agent .suspended .suspend
        runtimeActor reason trigger none (fun _ => hc.2)
      rw [h] at hcommit hr
      exact .inr (.inr ⟨hc.1, hc.2, hcommit, hr⟩)

theorem reinstateAgent_cases {actor reason : String} {watermark : Option BaselineWatermark}
    {r : Except AgentServiceError Agent}
    (h : s.reinstateAgent now uuid agentId actor reason watermark = (s', r)) :
    (s' = s ∧ ∃ e, r = .error e) ∨
    (isSuspended (s.enforcement.getState agentId) = true ∧ (s.agents.get agentId).isSome ∧
      Commits s s' agentId (reinstatedState (s.currentState agentId) now watermark) ∧
      ∃ agent, r = .ok agent) := by
  unfold reinstateAgent at h
  split at h
  · cases h
    exact .inl ⟨rfl, _, rfl⟩
  · rename_i agent ha
    split at h
    · cases h
      exact .inl ⟨rfl, _, rfl⟩
    · split at h
      · cases h
        exact .inl ⟨rfl, _, rfl⟩
      · split at h
        · cases h
          exact .inl ⟨rfl, _, rfl⟩
        · rename_i hs
          obtain ⟨rfl, stored, hstored, -⟩ := getAgent_ok ha
          obtain ⟨hcommit, hr⟩ := transition_commits s now uuid agent .active .reinstate
            actor reason none watermark (by simp)
          rw [h] at hcommit hr
          exact .inr ⟨by simpa using hs, by simp [hstored], hcommit, hr⟩

end AgentService

end AgentSecurityPlatform
