import AgentSecurityPlatform.Evidence.Projection
import AgentSecurityPlatform.Evidence.Sequences
import AgentSecurityPlatform.Lifecycle.AgentLifecycle
import AgentSecurityPlatform.Runtime.World

namespace AgentSecurityPlatform

inductive PostureOp where
  | register (agent : Agent) (actor : Actor)
  | activate (agentId : String) (actor : Actor)
  | disable (agentId : String) (actor : Actor)
  | accept (agentId : String) (batch : List Finding)
  | assess (agentId : String)
  | markStale (agentId : String)
  | suspend (agentId reason : String) (trigger : Option EnforcementTrigger)
  | reinstate (agentId actor reason : String)
  | repair (agentId : String)

structure PostureStep where
  now : Instant
  settledAt : Instant
  uuid : String
  correlation : String
  op : PostureOp

namespace World

def posture (w : World) (s : PostureStep) : World :=
  match s.op with
  | .register agent actor =>
    { w with agents := (w.agents.registerAgent s.now s.uuid s.correlation agent actor).1 }
  | .activate agentId actor =>
    { w with agents := (w.agents.activateAgent s.now s.uuid s.correlation agentId actor).1 }
  | .disable agentId actor =>
    { w with agents := (w.agents.disableAgent s.now s.uuid s.correlation agentId actor).1 }
  | .accept agentId batch => (w.acceptFindings s.now agentId batch).1
  | .assess agentId => (w.assessAgentPosture s.now agentId).1
  | .markStale agentId => w.markStale s.now agentId
  | .suspend agentId reason trigger => (w.suspendAgent s.now s.uuid agentId reason trigger).1
  | .reinstate agentId actor reason =>
    (w.reinstate s.now s.settledAt s.uuid agentId actor reason).1
  | .repair agentId => (w.repair s.now agentId).1

def postures (w : World) (steps : List PostureStep) : World := steps.foldl posture w

theorem postures_snoc (w : World) (steps : List PostureStep) (s : PostureStep) :
    w.postures (steps ++ [s]) = (w.postures steps).posture s := by
  simp [postures]

theorem postures_invariant {I : World → Prop} {C : World → PostureStep → Prop} {w : World}
    (h0 : I w) (hstep : ∀ v s, I v → C v s → I (v.posture s)) (steps : List PostureStep)
    (hC : ∀ pre s post, steps = pre ++ s :: post → C (w.postures pre) s) :
    I (w.postures steps) := by
  induction steps using List.reverseRecOn with
  | nil => exact h0
  | append_singleton pre s ih =>
    rw [postures_snoc]
    apply hstep
    · apply ih
      intro p t q he
      exact hC p t (q ++ [s]) (by simp [he])
    · exact hC pre s [] rfl

def persistedBaseline (w : World) (agentId : String) : BaselineWatermark :=
  AgentService.watermarkOf agentId (w.agents.currentState agentId)

end World

namespace AgentService

variable {s : AgentService} {agentId : String}

def Grounded (s : AgentService) : Prop :=
  ∀ agentId, s.agents.get agentId = none → s.enforcement.getState agentId = none

theorem registerAgent_enforcement (s : AgentService) (now : Instant) (u c : String) (agent : Agent)
    (actor : Actor) : (s.registerAgent now u c agent actor).1.enforcement = s.enforcement := by
  unfold registerAgent
  simp only
  split <;> rfl

theorem registerAgent_keeps (s : AgentService) (now : Instant) (u c : String) (agent : Agent)
    (actor : Actor) (h : (s.registerAgent now u c agent actor).1.agents.get agentId = none) :
    s.agents.get agentId = none := by
  unfold registerAgent at h
  simp only [AdministrativeStateRepository.commitRegistration] at h
  split at h
  · rename_i hc
    split_ifs at hc
    cases hc
    simp only [AgentRepository.get, AgentRepository.save, Dict.get?_set] at h
    split at h
    · cases h
    · exact h
  · exact h
  · exact h

theorem Grounded.commits {s' : AgentService} {state : AgentEnforcementState} (h : s.Grounded)
    (hc : Commits s s' agentId state) (hreg : (s.agents.get agentId).isSome) : s'.Grounded := by
  intro k hk
  rw [hc.agents] at hk
  rw [hc.getState]
  split
  · rename_i he
    rw [he, hk] at hreg
    cases hreg
  · exact h k hk

end AgentService

namespace World

variable {w : World} {agentId : String}

theorem storedBaseline_eq (h : w.agents.Grounded) (agentId : String) :
    w.storedBaseline agentId = w.persistedBaseline agentId := by
  unfold storedBaseline persistedBaseline AgentService.getCurrentBaseline
    AgentService.getEnforcementState
  cases hg : w.agents.getAgent agentId with
  | ok agent => rfl
  | error e =>
    obtain ⟨-, hn⟩ := AgentService.getAgent_error hg
    have := h agentId hn
    simp [AgentService.currentState, this, AgentService.watermarkOf]

theorem persistedBaseline_congr {w v : World}
    (h : v.agents.enforcement = w.agents.enforcement) (agentId : String) :
    v.persistedBaseline agentId = w.persistedBaseline agentId := by
  simp [persistedBaseline, AgentService.currentState, h]

structure SameBaselines (w v : World) : Prop where
  findings : v.findings = w.findings
  baseline : ∀ agentId, v.persistedBaseline agentId = w.persistedBaseline agentId

inductive Effect (w : World) (s : PostureStep) (v : World) : Prop where
  | quiet (h : SameBaselines w v) (ha : v.aggregator = w.aggregator)
  | staled (agentId : String) (h : SameBaselines w v)
      (ha : v.aggregator = w.aggregator.markStale s.now agentId)
  | rebuilt (agentId : String) (h : SameBaselines w v)
      (ha : v.aggregator = w.aggregator.put agentId
        ((w.aggregator.projectionOr agentId (w.persistedBaseline agentId) s.now).rebuildFromFindings
          s.now (w.findings.ofAgent agentId) (w.persistedBaseline agentId)).1)
  | accepted (agentId : String) (batch : List Finding) (hop : s.op = .accept agentId batch)
      (hb : ∀ a, v.persistedBaseline a = w.persistedBaseline a)
      (hv : v = (w.acceptFindings s.now agentId batch).1)
  | reinstated (agentId actor reason : String) (hop : s.op = .reinstate agentId actor reason)
      (hsuspended : isSuspended (w.agents.enforcement.getState agentId) = true)
      (hf : v.findings = w.findings)
      (hb : ∀ a, v.persistedBaseline a =
        if agentId = a then w.captureWatermark s.now agentId else w.persistedBaseline a)
      (ha : v.aggregator = w.aggregator.put agentId
        ((w.aggregator.projectionOr agentId (w.captureWatermark s.now agentId)
          s.settledAt).resetToBaseline s.settledAt (w.captureWatermark s.now agentId)).1)
  | repaired (agentId : String) (hop : s.op = .repair agentId) (h : SameBaselines w v)
      (ha : v.aggregator = w.aggregator.put agentId
        ((w.aggregator.projectionOr agentId (w.persistedBaseline agentId) s.now).resetToBaseline
          s.now (w.persistedBaseline agentId)).1)

theorem settle_fst (a : RiskAggregator) (agentId : String)
    (r : AgentRiskAggregate × Except ProjectionError Unit) :
    (a.settle agentId r).1 = a.put agentId r.1 := by
  obtain ⟨p, _ | _⟩ := r <;> rfl

theorem effect_assess (hg : w.agents.Grounded) {s : PostureStep} {agentId : String} :
    Effect w s (w.assessAgentPosture s.now agentId).1 := by
  unfold assessAgentPosture
  split
  · exact .quiet ⟨rfl, fun _ => rfl⟩ rfl
  · split
    · exact .quiet ⟨rfl, fun _ => rfl⟩ rfl
    · have hagg : (w.reconcilePosture s.now agentId).1 = { w with aggregator :=
          (w.aggregator.reconcileAgent s.now agentId
            (w.findings.listFindings { agentId := some agentId })
            (w.storedBaseline agentId)).1 } := by
        unfold reconcilePosture
        split <;> rename_i h <;> rw [h]
      rw [hagg]
      refine .rebuilt agentId ⟨rfl, fun _ => rfl⟩ ?_
      simp only [RiskAggregator.reconcileAgent, settle_fst, FindingsService.listFindings_agent,
        storedBaseline_eq hg]

theorem reinstatedState_watermark (state : AgentEnforcementState) (now baselineAt : Instant)
    (w : World) (agentId : String) :
    AgentService.watermarkOf agentId
      (AgentService.reinstatedState state now (some (w.captureWatermark baselineAt agentId))) =
      w.captureWatermark baselineAt agentId := rfl

theorem resetToBaseline_ok (a : RiskAggregator) (now : Instant) (m : BaselineWatermark) :
    ∃ q, a.resetToBaseline now m =
      (a.put m.agentId ((a.projectionOr m.agentId m now).resetToBaseline now m).1, .ok q) := by
  obtain ⟨hanch, -, -, hok⟩ :=
    (a.projectionOr m.agentId m now).resetToBaseline_summarises now m
  unfold RiskAggregator.resetToBaseline
  rcases hp : (a.projectionOr m.agentId m now).resetToBaseline now m with ⟨p, r⟩
  rw [hp] at hanch hok
  simp only at hanch hok
  subst hok
  simp only [RiskAggregator.settle, hanch.snapshot]
  exact ⟨_, rfl⟩

theorem effect_reinstate (hg : w.agents.Grounded) {s : PostureStep} {agentId actor reason : String}
    (hop : s.op = .reinstate agentId actor reason) :
    Effect w s (w.reinstate s.now s.settledAt s.uuid agentId actor reason).1 ∧
      (w.reinstate s.now s.settledAt s.uuid agentId actor reason).1.agents.Grounded := by
  unfold reinstate
  simp only
  split
  · rename_i agents e hr
    rcases AgentService.reinstateAgent_cases hr with ⟨rfl, -⟩ | ⟨-, -, -, _, he⟩
    · exact ⟨.quiet ⟨rfl, fun _ => rfl⟩ rfl, hg⟩
    · cases he
  · rename_i agents agent hr
    rcases AgentService.reinstateAgent_cases hr with ⟨-, _, he⟩ | ⟨hs, hreg, hc, -⟩
    · cases he
    · obtain ⟨q, hq⟩ := resetToBaseline_ok w.aggregator s.settledAt
        (w.captureWatermark s.now agentId)
      rw [hq]
      refine ⟨.reinstated agentId actor reason hop hs rfl ?_ rfl, hg.commits hc hreg⟩
      intro a
      simp only [persistedBaseline, resumeIssuance, hc.currentState]
      split
      · rename_i he
        subst he
        exact reinstatedState_watermark _ _ _ _ _
      · rfl

theorem effect_repair {s : PostureStep} {agentId : String} (hop : s.op = .repair agentId) :
    Effect w s (w.repair s.now agentId).1 ∧ (w.repair s.now agentId).1.agents = w.agents := by
  unfold repair
  split
  · exact ⟨.quiet ⟨rfl, fun _ => rfl⟩ rfl, rfl⟩
  · rename_i agent hagent
    split
    · exact ⟨.quiet ⟨rfl, fun _ => rfl⟩ rfl, rfl⟩
    · rename_i enforcement henf
      have hstate : enforcement = w.agents.currentState agentId := by
        unfold AgentService.getEnforcementState at henf
        rw [hagent] at henf
        cases henf
        rfl
      subst hstate
      split
      · exact ⟨.quiet ⟨rfl, fun _ => rfl⟩ rfl, rfl⟩
      · obtain ⟨q, hq⟩ := resetToBaseline_ok w.aggregator s.now (w.persistedBaseline agentId)
        rw [persistedBaseline] at hq
        rw [hq]
        simp only
        split <;> exact ⟨.repaired agentId hop ⟨rfl, fun _ => rfl⟩ rfl, rfl⟩

theorem effect_suspend (hg : w.agents.Grounded) {s : PostureStep} (agentId reason : String)
    (trigger : Option EnforcementTrigger) :
    Effect w s (w.suspendAgent s.now s.uuid agentId reason trigger).1 ∧
      (w.suspendAgent s.now s.uuid agentId reason trigger).1.agents.Grounded := by
  unfold suspendAgent
  simp only
  rcases AgentService.suspendAgent_cases (Prod.mk.eta.symm) with
    ⟨h, -, -⟩ | ⟨h, -, -⟩ | ⟨-, -, hc, hr⟩
  · rw [h]
    exact ⟨.quiet ⟨rfl, fun _ => rfl⟩ rfl, hg⟩
  · rw [h]
    exact ⟨.quiet ⟨rfl, fun _ => rfl⟩ rfl, hg⟩
  · have hreg : (w.agents.agents.get agentId).isSome := by
      by_contra hn
      have hnone : w.agents.agents.get agentId = none := by simpa using hn
      obtain ⟨agent, hagent⟩ := hr
      simp [AgentService.suspendAgent, AgentService.getAgent, hnone] at hagent
    refine ⟨.quiet ⟨rfl, ?_⟩ rfl, hg.commits hc hreg⟩
    intro a
    simp only [persistedBaseline, hc.currentState]
    split
    · rename_i he
      subst he
      rfl
    · rfl

theorem posture_effect (hg : w.agents.Grounded) (s : PostureStep) :
    Effect w s (w.posture s) ∧ (w.posture s).agents.Grounded := by
  obtain ⟨now, settledAt, uuid, correlation, op⟩ := s
  cases op with
  | register agent actor =>
    have henf := w.agents.registerAgent_enforcement now uuid correlation agent actor
    refine ⟨.quiet ⟨rfl, fun a => persistedBaseline_congr henf a⟩ rfl, ?_⟩
    intro k hk
    simp only [posture] at hk ⊢
    rw [henf]
    exact hg k (w.agents.registerAgent_keeps now uuid correlation agent actor hk)
  | activate agentId actor =>
    obtain ⟨hag, henf⟩ := w.agents.enterState_frame now uuid correlation agentId .active actor
      "Agent activated" none
    refine ⟨.quiet ⟨rfl, fun a => persistedBaseline_congr henf a⟩ rfl, ?_⟩
    intro k hk
    simp only [posture, AgentService.activateAgent] at hk ⊢
    rw [hag] at hk
    rw [henf]
    exact hg k hk
  | disable agentId actor =>
    obtain ⟨hag, henf⟩ := w.agents.enterState_frame now uuid correlation agentId .disabled actor
      "Agent disabled" none
    refine ⟨.quiet ⟨rfl, fun a => persistedBaseline_congr henf a⟩ rfl, ?_⟩
    intro k hk
    simp only [posture, AgentService.disableAgent] at hk ⊢
    rw [hag] at hk
    rw [henf]
    exact hg k hk
  | accept agentId batch => exact ⟨.accepted agentId batch rfl (fun _ => rfl) rfl, hg⟩
  | assess agentId =>
    refine ⟨effect_assess hg, ?_⟩
    have : (w.assessAgentPosture now agentId).1.agents = w.agents := by
      unfold assessAgentPosture reconcilePosture
      repeat' split
      all_goals rfl
    simp only [posture]
    rw [this]
    exact hg
  | markStale agentId => exact ⟨.staled agentId ⟨rfl, fun _ => rfl⟩ rfl, hg⟩
  | suspend agentId reason trigger => exact effect_suspend hg agentId reason trigger
  | reinstate agentId actor reason => exact effect_reinstate hg rfl
  | repair agentId =>
    obtain ⟨he, ha⟩ := effect_repair (w := w) (s := ⟨now, settledAt, uuid, correlation,
      .repair agentId⟩) rfl
    refine ⟨he, ?_⟩
    simp only [posture]
    rw [ha]
    exact hg

end World

end AgentSecurityPlatform
