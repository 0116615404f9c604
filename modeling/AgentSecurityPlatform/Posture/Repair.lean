import AgentSecurityPlatform.Posture.Laundering

namespace AgentSecurityPlatform

namespace World

variable {w v : World} {agentId : String} {now : Instant}

structure CountsAsRebuild (posture : AgentRiskPosture) (p : AgentRiskAggregate) : Prop where
  riskScore : posture.riskScore = p.riskScore
  findingCount : posture.findingCount = p.findingCount
  countsBySeverity : posture.countsBySeverity = p.countsBySeverity
  countsByRule : posture.countsByRule = p.countsByRule

def unanswered (w : World) (agentId : String) : List Finding :=
  (w.postBaselineOf agentId).filter Finding.active

theorem repair_resets {agent : Agent}
    (hr : (w.repair now agentId).2 = .ok agent) :
    SameBaselines w (w.repair now agentId).1 ∧
    (w.repair now agentId).1.agents = w.agents ∧
    (w.repair now agentId).1.aggregator = w.aggregator.put agentId
      ((w.aggregator.projectionOr agentId (w.persistedBaseline agentId) now).resetToBaseline now
        (w.persistedBaseline agentId)).1 := by
  unfold repair at hr ⊢
  split at hr
  · cases hr
  · rename_i agent' hagent
    split at hr
    · cases hr
    · rename_i enforcement henf
      have hstate : enforcement = w.agents.currentState agentId := by
        unfold AgentService.getEnforcementState at henf
        rw [hagent] at henf
        cases henf
        rfl
      subst hstate
      split at hr
      · cases hr
      · rename_i hopen
        obtain ⟨q, hq⟩ := resetToBaseline_ok w.aggregator now (w.persistedBaseline agentId)
        rw [persistedBaseline] at hq
        simp only [if_neg hopen, hq]
        split <;> exact ⟨⟨rfl, fun _ => rfl⟩, rfl, rfl⟩

theorem fromScratch_congr (h : SameBaselines w v) (ha : v.agents = w.agents)
    (hvoc : v.aggregator.ruleVocabulary = w.aggregator.ruleVocabulary) :
    v.fromScratch now agentId = w.fromScratch now agentId := by
  have hb : v.storedBaseline agentId = w.storedBaseline agentId := by
    simp only [storedBaseline, ha]
  simp only [fromScratch, hb, hvoc, h.findings]

theorem fromScratch_empty_iff (hst : w.Structural) :
    (w.fromScratch now agentId).findingCount = 0 ↔ w.unanswered agentId = [] := by
  obtain ⟨hsum, hvoc⟩ := fromScratch_summarises hst now agentId
  have htally := hsum.tally
  rw [Tally.ofFindings_active] at htally
  have hactive : ∀ f ∈ w.unanswered agentId, f.active = true := fun f hf =>
    (List.mem_filter.mp hf).2
  have hcount : (w.fromScratch now agentId).findingCount = (w.unanswered agentId).length := by
    rw [← (Tally.ofFindings_counts (w.fromScratch now agentId).ruleVocabulary hactive).1]
    exact congrArg Tally.count htally
  rw [hcount, List.length_eq_zero_iff]

theorem fromScratch_of_empty (now : Instant) (hst : w.Structural) (h : w.unanswered agentId = []) :
    (w.fromScratch now agentId).tally = Tally.zero ∧ (w.fromScratch now agentId).riskScore = 0 := by
  obtain ⟨hsum, -⟩ := fromScratch_summarises hst now agentId
  have htally : (w.fromScratch now agentId).tally = Tally.zero := by
    rw [hsum.tally, Tally.ofFindings_active,
      show (w.postBaselineOf agentId).filter Finding.active = [] from h]
    rfl
  refine ⟨htally, ?_⟩
  rw [hsum.score, show (w.fromScratch now agentId).countsBySeverity = {} from
    congrArg Tally.bySeverity htally]
  rfl

theorem repair_keeps_evidence_iff {w : World} (h : w.EmptyStores) (steps : List PostureStep)
    (now assessed : Instant) (agentId : String) (agent : Agent)
    (hr : ((w.postures steps).repair now agentId).2 = .ok agent) :
    (∃ posture, ((w.postures steps).repair now agentId).1.aggregator.getPosture assessed agentId =
        .ok posture ∧
      (posture.state ≠ .healthy ∨ CountsAsRebuild posture
        (((w.postures steps).repair now agentId).1.fromScratch assessed agentId))) ↔
    ∀ f ∈ (w.postures steps).findings.ofAgent agentId,
      AgentRiskAggregate.postBaseline agentId
        ((w.postures steps).persistedBaseline agentId) f = true →
        f.active = false := by
  have hst : (w.postures steps).Structural := structural_run h steps
  generalize w.postures steps = u at hr hst
  obtain ⟨hsame, hagents, hagg⟩ := repair_resets hr
  have hscratch : (u.repair now agentId).1.fromScratch assessed agentId =
      u.fromScratch assessed agentId :=
    fromScratch_congr hsame hagents (by rw [hagg]; rfl)
  obtain ⟨hanch, -, hhealthy, -⟩ := (u.aggregator.projectionOr agentId
    (u.persistedBaseline agentId) now).resetToBaseline_summarises now (u.persistedBaseline agentId)
  have hget : (u.repair now agentId).1.aggregator.getPosture assessed agentId =
      ((u.aggregator.projectionOr agentId (u.persistedBaseline agentId) now).resetToBaseline now
        (u.persistedBaseline agentId)).1.snapshot := by
    rw [hagg]
    simp [RiskAggregator.getPosture, RiskAggregator.put]
  have hempty : (∀ f ∈ u.findings.ofAgent agentId,
      AgentRiskAggregate.postBaseline agentId (u.persistedBaseline agentId) f = true →
        f.active = false) ↔ u.unanswered agentId = [] := by
    simp only [unanswered, postBaselineOf, List.filter_eq_nil_iff, List.mem_filter, and_imp,
      Bool.not_eq_true]
  rw [hempty, hget, hanch.snapshot, hscratch]
  constructor
  · rintro ⟨posture, hp, hor⟩
    cases hp
    rcases hor with hne | hcounts
    · exact absurd hhealthy hne
    · exact (fromScratch_empty_iff hst).mp hcounts.findingCount.symm
  · intro hnone
    obtain ⟨htally, hscore⟩ := fromScratch_of_empty assessed hst hnone
    simp only [AgentRiskAggregate.tally, Tally.zero, Tally.mk.injEq] at htally
    exact ⟨_, rfl, .inr ⟨hscore.symm, htally.2.2.symm, htally.1.symm, htally.2.1.symm⟩⟩

def sampleUnrepaired : List PostureStep :=
  [sampleStep 1 (.register sampleAgent systemRegistrationActor),
   sampleStep 2 (.activate "agent-1" systemRegistrationActor),
   sampleStep 3 (.accept "agent-1" [sampleFinding "f1" .high]),
   sampleStep 4 (.assess "agent-1")]

theorem repair_zeroes_evidence :
    ((sampleStores.postures sampleUnrepaired).repair 5 "agent-1").2 =
      .ok { sampleAgent with status := .active } ∧
    ∃ posture, ((sampleStores.postures sampleUnrepaired).repair 5 "agent-1").1.aggregator.getPosture
        6 "agent-1" = .ok posture ∧
      ¬ (posture.state ≠ .healthy ∨ CountsAsRebuild posture
        (((sampleStores.postures sampleUnrepaired).repair 5 "agent-1").1.fromScratch 6
          "agent-1")) := by
  refine ⟨by decide, _, rfl, ?_⟩
  rintro (h | h)
  · exact h rfl
  · exact absurd h.findingCount (by decide)

theorem repair_keeps_evidence_sample :
    ((sampleStores.postures (sampleRecovery.take 5)).repair 7 "agent-1").2 = .ok sampleAgent ∧
    ((∃ posture, ((sampleStores.postures (sampleRecovery.take 5)).repair 7
        "agent-1").1.aggregator.getPosture 8 "agent-1" = .ok posture ∧
      (posture.state ≠ .healthy ∨ CountsAsRebuild posture
        (((sampleStores.postures (sampleRecovery.take 5)).repair 7 "agent-1").1.fromScratch 8
          "agent-1"))) ↔
    ∀ f ∈ (sampleStores.postures (sampleRecovery.take 5)).findings.ofAgent "agent-1",
      AgentRiskAggregate.postBaseline "agent-1"
        ((sampleStores.postures (sampleRecovery.take 5)).persistedBaseline "agent-1") f = true →
        f.active = false) := by
  have hr : ((sampleStores.postures (sampleRecovery.take 5)).repair 7 "agent-1").2 =
      .ok sampleAgent := by decide
  exact ⟨hr, repair_keeps_evidence_iff (w := sampleStores) ⟨rfl, rfl, rfl⟩
    (sampleRecovery.take 5) 7 8 "agent-1" sampleAgent hr⟩

end World

end AgentSecurityPlatform
