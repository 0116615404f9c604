import AgentSecurityPlatform.Posture.Invariants

namespace AgentSecurityPlatform

namespace AgentRiskAggregate

variable {p : AgentRiskAggregate} {now : Instant} {m : BaselineWatermark} {agentId : String}
  {vocabulary : List String}

theorem applyAll_summarises {stored fs : List Finding} {n : Nat}
    (h : p.Anchored agentId vocabulary m) (hn : m.baselineEvidenceSequence ≤ n)
    (hstored : ∀ g ∈ stored, g.evidenceSequence ≤ n)
    (hfs : ∀ f ∈ fs, f.agentId = agentId ∧ 0 < f.evidenceSequence)
    (hseq : fs.map (·.evidenceSequence) = List.range' (n + 1) fs.length)
    (hp : p.state = .healthy → p.Summarises m (stored.filter (postBaseline agentId m)))
    (hq : (applyAll now p fs).state = .healthy) :
    (applyAll now p fs).Summarises m ((stored ++ fs).filter (postBaseline agentId m)) := by
  induction fs generalizing p stored n with
  | nil => simpa [applyAll] using hp hq
  | cons f fs ih =>
    obtain ⟨hf, hpos⟩ := hfs f (by simp)
    have hrest : ∀ g ∈ fs, g.agentId = agentId ∧ 0 < g.evidenceSequence :=
      fun g hg => hfs g (by simp [hg])
    simp only [List.map_cons, List.length_cons, List.range'_succ, List.cons.injEq] at hseq
    obtain ⟨hfn, hseq⟩ := hseq
    have hanch : (p.applyFinding now f).1.Anchored agentId vocabulary m :=
      applyFinding_anchored h hf hpos
    have hhealthy : p.state = .healthy := by
      by_contra hs
      exact applyAll_unhealthy h hfs hs hq
    have hsum := hp hhealthy
    have hbelow : ∀ g ∈ stored.filter (postBaseline agentId m),
        g.evidenceSequence < f.evidenceSequence := by
      intro g hg
      have := hstored g (List.mem_filter.mp hg).1
      omega
    have hstep : (p.applyFinding now f).1.state = .healthy →
        (p.applyFinding now f).1.Summarises m
          ((stored ++ [f]).filter (postBaseline agentId m)) := by
      intro hst
      obtain ⟨-, ⟨-, hle⟩ | hq' | ⟨hq', -, hpost⟩⟩ :=
        applyFinding_cases h hf hpos (Prod.mk.eta.symm : p.applyFinding now f = _)
      · have := cursorOf_lt (w := m) (n := f.evidenceSequence) (by omega) hbelow
        rw [hsum.cursor] at hle
        omega
      · rw [hq'] at hst
        cases hst
      · rw [hq', List.filter_append]
        simp only [List.filter_cons, hpost, if_true, List.filter_nil]
        exact advance_summarises hsum hbelow hpos
    have hstored' : ∀ g ∈ stored ++ [f], g.evidenceSequence ≤ n + 1 := by
      intro g hg
      rcases List.mem_append.mp hg with hg | hg
      · have := hstored g hg
        omega
      · rw [List.mem_singleton.mp hg]
        omega
    have := ih hanch (by omega) hstored' hrest hseq hstep hq
    rwa [List.append_assoc, List.singleton_append] at this

end AgentRiskAggregate

namespace World

variable {w : World}

def postBaselineOf (w : World) (agentId : String) : List Finding :=
  (w.findings.ofAgent agentId).filter
    (AgentRiskAggregate.postBaseline agentId (w.persistedBaseline agentId))

def Projected (w : World) : Prop :=
  ∀ a p, w.aggregator.projections.get? a = some p → p.state = .healthy →
    p.Summarises (w.persistedBaseline a) (w.postBaselineOf a)

def ReadsPresent (w : World) (s : PostureStep) : Prop :=
  match s.op with
  | .reinstate agentId _ _ =>
    ∀ f ∈ w.findings.ofAgent agentId, ∀ t, f.recordedAt = some t → t ≤ s.now
  | .repair _ => False
  | _ => True

theorem SameBaselines.postBaselineOf {v : World} (h : SameBaselines w v) (a : String) :
    v.postBaselineOf a = w.postBaselineOf a := by
  simp only [World.postBaselineOf, h.findings, h.baseline]

theorem projected_put {v : World} {agentId : String} {q : AgentRiskAggregate} (h : w.Projected)
    (ha : v.aggregator = w.aggregator.put agentId q)
    (hb : ∀ a, agentId ≠ a → v.persistedBaseline a = w.persistedBaseline a)
    (hf : v.findings = w.findings)
    (hq : q.Summarises (v.persistedBaseline agentId) (v.postBaselineOf agentId)) : v.Projected := by
  intro a p hp hs
  rw [ha] at hp
  simp only [RiskAggregator.put, Dict.get?_set] at hp
  split at hp
  · rename_i he
    subst he
    cases hp
    exact hq
  · rename_i he
    have hsame : v.postBaselineOf a = w.postBaselineOf a := by
      simp only [postBaselineOf, hf, hb a he]
    rw [hsame, hb a he]
    exact h a p hp hs

theorem capture_excludes (h : w.Structural) {agentId : String} {t : Instant}
    (ht : ∀ f ∈ w.findings.ofAgent agentId, ∀ r, f.recordedAt = some r → r ≤ t) :
    (w.findings.ofAgent agentId).filter
      (AgentRiskAggregate.postBaseline agentId (w.captureWatermark t agentId)) = [] := by
  rw [List.filter_eq_nil_iff]
  intro f hf hpost
  have hlt := AgentRiskAggregate.postBaseline_sequence hpost
  have hle := le_capture h.sequenced hf (ht f hf)
  exact absurd hlt (not_lt.mpr hle)

theorem projected_step (hst : w.Structural) (h : w.Projected) (s : PostureStep)
    (hc : w.ReadsPresent s) : (w.posture s).Projected := by
  obtain ⟨heff, -⟩ := posture_effect hst.grounded s
  generalize w.posture s = v at heff
  cases heff with
  | quiet hsame ha =>
    intro a p hp hs
    rw [ha] at hp
    rw [hsame.postBaselineOf, hsame.baseline]
    exact h a p hp hs
  | staled agentId hsame ha =>
    intro a p hp hs
    rw [ha, markStale_projections] at hp
    obtain ⟨q, hq, rfl⟩ := Option.map_eq_some_iff.mp hp
    rw [hsame.postBaselineOf, hsame.baseline]
    split at hs
    · cases hs
    · rename_i hne
      rw [if_neg hne]
      exact h a q hq hs
  | rebuilt agentId hsame ha =>
    apply projected_put h ha (fun a _ => hsame.baseline a) hsame.findings
    have := ((w.aggregator.projectionOr agentId (w.persistedBaseline agentId)
      s.now).rebuildFromFindings_summarises s.now (w.findings.ofAgent agentId)
        (w.persistedBaseline agentId)).2.1
    rw [(projectionOr_identity hst agentId _ s.now rfl).1] at this
    rw [hsame.postBaselineOf, hsame.baseline]
    exact this
  | accepted agentId batch hop hb hv =>
    subst hv
    have hr := FindingsService.recordNewFindings_records hst.sequenced s.now batch
    obtain ⟨-, hproj⟩ := accept_projections hst s.now agentId batch
    intro a p hp hs
    rw [hproj] at hp
    obtain ⟨q, hq, rfl⟩ := Option.map_eq_some_iff.mp hp
    have hsame : (w.acceptFindings s.now agentId batch).1.postBaselineOf a =
        (w.findings.ofAgent a ++ (w.findings.recordNewFindings s.now batch).2.filter
          (fun f => f.agentId = a)).filter
          (AgentRiskAggregate.postBaseline a (w.persistedBaseline a)) := by
      simp only [postBaselineOf, acceptFindings, hr.stored a]
      rfl
    rw [hsame, hb a]
    refine AgentRiskAggregate.applyAll_summarises (hst.anchored a q hq) (hst.baseline a) ?_
      (filtered_positive hst s.now batch a) (hr.numbered a) (h a q hq) hs
    intro g hg
    obtain ⟨hg, hga⟩ := List.mem_filter.mp hg
    have := (hst.sequenced.positioned g hg).2
    rwa [show g.agentId = a by simpa using hga] at this
  | reinstated agentId actor reason hop hs hf hb ha =>
    have hba : v.persistedBaseline agentId = w.captureWatermark s.now agentId := by
      rw [hb agentId, if_pos rfl]
    have hread : ∀ f ∈ w.findings.ofAgent agentId, ∀ t, f.recordedAt = some t → t ≤ s.now := by
      simpa only [ReadsPresent, hop] using hc
    apply projected_put h ha (fun a hne => by rw [hb a, if_neg hne]) hf
    have hnil : v.postBaselineOf agentId = [] := by
      simp only [postBaselineOf, hf, hba]
      exact capture_excludes hst hread
    rw [hnil, hba]
    exact ((w.aggregator.projectionOr agentId (w.captureWatermark s.now agentId)
      s.settledAt).resetToBaseline_summarises s.settledAt (w.captureWatermark s.now agentId)).2.1
  | repaired agentId hop hsame ha =>
    simp only [ReadsPresent, hop] at hc

end World

structure MonotoneClock (steps : List PostureStep) : Prop where
  settled : ∀ s ∈ steps, s.now ≤ s.settledAt
  ordered : steps.Pairwise (fun s t => s.settledAt ≤ t.now)

namespace World

variable {w : World}

def Dated (w : World) (steps : List PostureStep) : Prop :=
  ∀ f ∈ w.findings.findings.values, ∃ s ∈ steps, f.recordedAt = some s.now

theorem dated_run (h : w.EmptyStores) (steps : List PostureStep) :
    (w.postures steps).Dated steps := by
  induction steps using List.reverseRecOn with
  | nil =>
    intro f hf
    simp [postures, h.findings, FindingsService.empty, Dict.values, Dict.empty] at hf
  | append_singleton pre s ih =>
    have hst := structural_run h pre
    rw [postures_snoc]
    obtain ⟨heff, -⟩ := posture_effect hst.grounded s
    generalize (w.postures pre).posture s = v at heff
    have hsame (hf : v.findings = (w.postures pre).findings) : v.Dated (pre ++ [s]) := by
      intro f hmem
      rw [hf] at hmem
      obtain ⟨t, ht, hrec⟩ := ih f hmem
      exact ⟨t, by simp [ht], hrec⟩
    cases heff with
    | quiet hs _ => exact hsame hs.findings
    | staled _ hs _ => exact hsame hs.findings
    | rebuilt _ hs _ => exact hsame hs.findings
    | accepted agentId batch hop hb hv =>
      subst hv
      have hr := FindingsService.recordNewFindings_records hst.sequenced s.now batch
      intro f hf
      simp only [acceptFindings, hr.values] at hf
      rcases List.mem_append.mp hf with hf | hf
      · obtain ⟨t, ht, hrec⟩ := ih f hf
        exact ⟨t, by simp [ht], hrec⟩
      · exact ⟨s, by simp, hr.stamped f hf⟩
    | reinstated _ _ _ _ _ hf _ _ => exact hsame hf
    | repaired _ _ hs _ => exact hsame hs.findings

theorem readsPresent_run (h : w.EmptyStores) {steps : List PostureStep}
    (hclock : MonotoneClock steps) (hrepair : ∀ s ∈ steps, ∀ a, s.op ≠ .repair a) :
    ∀ pre s post, steps = pre ++ s :: post → (w.postures pre).ReadsPresent s := by
  intro pre s post hsteps
  unfold ReadsPresent
  split
  · rename_i agentId actor reason hop
    intro f hf t ht
    obtain ⟨d, hd, hrec⟩ := dated_run h pre f (List.mem_filter.mp hf).1
    rw [hrec] at ht
    cases ht
    have hord := hclock.ordered
    rw [hsteps, List.pairwise_append] at hord
    exact (hclock.settled d (by simp [hsteps, hd])).trans (hord.2.2 d hd s (by simp))
  · rename_i a hop
    exact hrepair s (by simp [hsteps]) a hop
  · trivial

theorem projected_run (h : w.EmptyStores) {steps : List PostureStep}
    (hclock : MonotoneClock steps) (hrepair : ∀ s ∈ steps, ∀ a, s.op ≠ .repair a) :
    (w.postures steps).Structural ∧ (w.postures steps).Projected := by
  apply postures_invariant (I := fun v => v.Structural ∧ v.Projected)
    (C := fun v s => v.ReadsPresent s)
  · refine ⟨h.structural, ?_⟩
    intro a p hp
    rw [h.projections] at hp
    cases hp
  · intro v s hv hc
    exact ⟨structural_step hv.1 s, projected_step hv.1 hv.2 s hc⟩
  · exact readsPresent_run h hclock hrepair

def fromScratch (w : World) (now : Instant) (agentId : String) : AgentRiskAggregate :=
  ((AgentRiskAggregate.create (w.storedBaseline agentId) w.aggregator.ruleVocabulary
    now).rebuildFromFindings now (w.findings.listFindings { agentId := some agentId })
      (w.storedBaseline agentId)).1

structure MatchesRebuild (posture : AgentRiskPosture) (p : AgentRiskAggregate) : Prop where
  riskScore : posture.riskScore = p.riskScore
  riskLevel : posture.riskLevel = p.riskLevel
  findingCount : posture.findingCount = p.findingCount
  countsBySeverity : posture.countsBySeverity = p.countsBySeverity
  countsByRule : posture.countsByRule = p.countsByRule
  lastAppliedSequence : posture.lastAppliedSequence = p.lastAppliedSequence

theorem fromScratch_of_grounded (hg : w.agents.Grounded) (now : Instant) (agentId : String) :
    (w.fromScratch now agentId).Summarises (w.persistedBaseline agentId)
      (w.postBaselineOf agentId) ∧
      (w.fromScratch now agentId).ruleVocabulary = w.aggregator.ruleVocabulary := by
  unfold fromScratch
  rw [storedBaseline_eq hg, FindingsService.listFindings_agent]
  obtain ⟨ha, hs, -, -⟩ := (AgentRiskAggregate.create (w.persistedBaseline agentId)
    w.aggregator.ruleVocabulary now).rebuildFromFindings_summarises now
      (w.findings.ofAgent agentId) (w.persistedBaseline agentId)
  exact ⟨hs, ha.vocabulary⟩

theorem fromScratch_summarises (hst : w.Structural) (now : Instant) (agentId : String) :
    (w.fromScratch now agentId).Summarises (w.persistedBaseline agentId)
      (w.postBaselineOf agentId) ∧
      (w.fromScratch now agentId).ruleVocabulary = w.aggregator.ruleVocabulary :=
  fromScratch_of_grounded hst.grounded now agentId

theorem matchesRebuild_of_summarises {p q : AgentRiskAggregate} {m : BaselineWatermark}
    {post : List Finding} (hp : p.Summarises m post) (hq : q.Summarises m post)
    (hvoc : q.ruleVocabulary = p.ruleVocabulary) {posture : AgentRiskPosture}
    (hposture : p.snapshot = .ok posture) : MatchesRebuild posture q := by
  have htally : p.tally = q.tally := by rw [hp.tally, hq.tally, hvoc]
  simp only [AgentRiskAggregate.tally, Tally.mk.injEq] at htally
  have hscore : p.riskScore = q.riskScore := by rw [hp.score, hq.score, htally.1]
  simp only [AgentRiskAggregate.snapshot] at hposture
  split at hposture
  · cases hposture
  · cases hposture
    exact ⟨hscore, by rw [hp.level, hq.level, hscore], htally.2.2, htally.1, htally.2.1,
      by rw [hp.cursor, hq.cursor]⟩

theorem projection_equivalence {w : World} (h : w.EmptyStores) (steps : List PostureStep)
    (hclock : MonotoneClock steps) (hrepair : ∀ s ∈ steps, ∀ a, s.op ≠ .repair a)
    (agentId : String) (now : Instant) :
    ∃ posture, (w.postures steps).aggregator.getPosture now agentId = .ok posture ∧
      posture.baselineEvidenceSequence ≤ posture.lastAppliedSequence ∧
      (posture.state ≠ .uninitialized →
        posture.baselineAt = ((w.postures steps).storedBaseline agentId).baselineAt ∧
        posture.baselineEvidenceSequence =
          ((w.postures steps).storedBaseline agentId).baselineEvidenceSequence) ∧
      (posture.state = .healthy →
        MatchesRebuild posture ((w.postures steps).fromScratch now agentId)) := by
  obtain ⟨hst, hproj⟩ := projected_run h hclock hrepair
  unfold RiskAggregator.getPosture
  cases hp : (w.postures steps).aggregator.projections.get? agentId with
  | none => exact ⟨_, rfl, le_rfl, fun hu => absurd rfl hu, fun hs => by cases hs⟩
  | some p =>
    have hanch := hst.anchored agentId p hp
    refine ⟨_, hanch.snapshot, hanch.cursor, ?_, ?_⟩
    · intro _
      rw [storedBaseline_eq hst.grounded]
      exact ⟨hanch.baselineAt, hanch.baselineSequence⟩
    · intro hs
      obtain ⟨hscratch, hvoc⟩ := fromScratch_summarises hst now agentId
      exact matchesRebuild_of_summarises (hproj agentId p hp hs) hscratch
        (hvoc.trans hanch.vocabulary.symm) hanch.snapshot

def sampleStores : World :=
  { agents := .empty
    sessions := .empty
    findings := .empty
    aggregator := { projections := .empty }
    authority := ⟨"authority-1", 30000000, .empty, .empty, .empty⟩
    audit := [] }

def sampleAgent : Agent :=
  { agentId := "agent-1", name := "Agent", owner := "team", riskTier := .high
    approvedTools := ["file_read"] }

def sampleFinding (findingId : String) (severity : Severity) : Finding :=
  { findingId
    sessionId := "session-1"
    agentId := "agent-1"
    ruleId := "PROMPT_INJECTION"
    ruleName := "PROMPT_INJECTION"
    severity
    description := ""
    createdAt := 0 }

def sampleStep (now : Instant) (op : PostureOp) : PostureStep := ⟨now, now, "u", "c", op⟩

def sampleRecovery : List PostureStep :=
  [sampleStep 1 (.register sampleAgent systemRegistrationActor),
   sampleStep 2 (.accept "agent-1" [sampleFinding "f1" .critical]),
   sampleStep 3 (.assess "agent-1"),
   sampleStep 4 (.suspend "agent-1" "containment" none),
   sampleStep 5 (.reinstate "agent-1" "operator" "reviewed"),
   sampleStep 6 (.accept "agent-1" [sampleFinding "f1" .critical, sampleFinding "f2" .medium])]

theorem projection_equivalence_sample :
    ((sampleStores.postures sampleRecovery).aggregator.getPosture 7 "agent-1").map
      (fun posture => (posture.state, posture.findingCount, posture.riskScore)) =
        .ok (.healthy, 1, 25) ∧
    ∃ posture, (sampleStores.postures sampleRecovery).aggregator.getPosture 7 "agent-1" =
      .ok posture ∧ (posture.state = .healthy →
        MatchesRebuild posture
          ((sampleStores.postures sampleRecovery).fromScratch 7 "agent-1")) := by
  refine ⟨rfl, ?_⟩
  obtain ⟨posture, hp, -, -, hm⟩ := projection_equivalence (w := sampleStores) ⟨rfl, rfl, rfl⟩
    sampleRecovery ⟨by decide, by decide⟩ (by simp [sampleRecovery, sampleStep]) "agent-1" 7
  exact ⟨posture, hp, hm⟩

end World

end AgentSecurityPlatform
