import AgentSecurityPlatform.Posture.Steps

namespace AgentSecurityPlatform

namespace AgentRiskAggregate

variable {p : AgentRiskAggregate} {now : Instant} {m : BaselineWatermark} {agentId : String}
  {vocabulary : List String}

def applyAll (now : Instant) (p : AgentRiskAggregate) (fs : List Finding) : AgentRiskAggregate :=
  fs.foldl (fun p f => (p.applyFinding now f).1) p

theorem applyFinding_anchored {f : Finding} (h : p.Anchored agentId vocabulary m)
    (hf : f.agentId = agentId) (hpos : 0 < f.evidenceSequence) :
    (p.applyFinding now f).1.Anchored agentId vocabulary m := by
  obtain ⟨-, ⟨hq, -⟩ | hq | ⟨hq, hseq, -⟩⟩ := applyFinding_cases h hf hpos (Prod.mk.eta.symm)
  · rw [hq]
    exact h
  · rw [hq]
    exact goStale_anchored h now
  · rw [hq]
    exact advance_anchored h hseq

theorem applyFinding_unhealthy {f : Finding} (h : p.Anchored agentId vocabulary m)
    (hf : f.agentId = agentId) (hpos : 0 < f.evidenceSequence) (hs : p.state ≠ .healthy) :
    (p.applyFinding now f).1.state ≠ .healthy := by
  obtain ⟨-, ⟨hq, -⟩ | hq | ⟨hq, -, -⟩⟩ := applyFinding_cases h hf hpos (Prod.mk.eta.symm)
  · rw [hq]
    exact hs
  · rw [hq]
    simp [goStale]
  · rw [hq, advance_state]
    exact hs

theorem applyAll_anchored {fs : List Finding} (h : p.Anchored agentId vocabulary m)
    (hfs : ∀ f ∈ fs, f.agentId = agentId ∧ 0 < f.evidenceSequence) :
    (applyAll now p fs).Anchored agentId vocabulary m := by
  induction fs generalizing p with
  | nil => exact h
  | cons f fs ih =>
    obtain ⟨hf, hpos⟩ := hfs f (by simp)
    exact ih (applyFinding_anchored h hf hpos) (fun g hg => hfs g (by simp [hg]))

theorem applyAll_unhealthy {fs : List Finding} (h : p.Anchored agentId vocabulary m)
    (hfs : ∀ f ∈ fs, f.agentId = agentId ∧ 0 < f.evidenceSequence) (hs : p.state ≠ .healthy) :
    (applyAll now p fs).state ≠ .healthy := by
  induction fs generalizing p with
  | nil => exact hs
  | cons f fs ih =>
    obtain ⟨hf, hpos⟩ := hfs f (by simp)
    exact ih (applyFinding_anchored h hf hpos) (fun g hg => hfs g (by simp [hg]))
      (applyFinding_unhealthy h hf hpos hs)

end AgentRiskAggregate

namespace World

variable {w : World}

structure Structural (w : World) : Prop where
  grounded : w.agents.Grounded
  sequenced : w.findings.Sequenced
  baseline : ∀ a, (w.persistedBaseline a).baselineEvidenceSequence ≤ w.findings.getAgentSequence a
  anchored : ∀ a p, w.aggregator.projections.get? a = some p →
    p.Anchored a w.aggregator.ruleVocabulary (w.persistedBaseline a)

structure EmptyStores (w : World) : Prop where
  agents : w.agents = .empty
  findings : w.findings = .empty
  projections : w.aggregator.projections = .empty

theorem EmptyStores.structural (h : w.EmptyStores) : w.Structural := by
  refine ⟨?_, ?_, ?_, ?_⟩
  · rw [h.agents]
    intro a _
    rfl
  · rw [h.findings]
    exact FindingsService.sequenced_empty
  · intro a
    simp only [persistedBaseline, h.agents]
    exact Nat.zero_le _
  · intro a p hp
    rw [h.projections] at hp
    cases hp

theorem markStale_projections (a : RiskAggregator) (now : Instant) (agentId x : String) :
    (a.markStale now agentId).projections.get? x =
      (a.projections.get? x).map (fun p => if agentId = x then p.markStale now else p) := by
  unfold RiskAggregator.markStale
  split
  · rename_i hn
    by_cases hx : agentId = x
    · subst hx
      simp [hn]
    · simp [hx]
  · rename_i p hp
    simp only [RiskAggregator.put, Dict.get?_set]
    by_cases hx : agentId = x
    · subst hx
      simp [hp]
    · simp [hx]

theorem markStale_vocabulary (a : RiskAggregator) (now : Instant) (agentId : String) :
    (a.markStale now agentId).ruleVocabulary = a.ruleVocabulary := by
  unfold RiskAggregator.markStale
  split <;> rfl

theorem ingestAll_projections {a : RiskAggregator} {now : Instant} {agentId : String}
    {m : String → BaselineWatermark} {fs : List Finding}
    (ha : ∀ x p, a.projections.get? x = some p → p.Anchored x a.ruleVocabulary (m x))
    (hfs : ∀ f ∈ fs, 0 < f.evidenceSequence) :
    (ingestAll a now agentId fs).ruleVocabulary = a.ruleVocabulary ∧
    ∀ x, (ingestAll a now agentId fs).projections.get? x = (a.projections.get? x).map
      (fun p => p.applyAll now (fs.filter (fun f => f.agentId = x))) := by
  induction fs generalizing a with
  | nil => exact ⟨rfl, fun x => by simp [ingestAll, AgentRiskAggregate.applyAll]⟩
  | cons f fs ih =>
    have hpos := hfs f (by simp)
    have hrest : ∀ g ∈ fs, 0 < g.evidenceSequence := fun g hg => hfs g (by simp [hg])
    cases hp : a.projections.get? f.agentId with
    | none =>
      have hi : a.ingestFinding now f = (a, .ok false) := by simp [RiskAggregator.ingestFinding, hp]
      simp only [ingestAll, hi]
      refine ⟨(ih ha hrest).1, fun x => ?_⟩
      rw [(ih ha hrest).2 x]
      by_cases hx : f.agentId = x
      · subst hx
        simp [hp]
      · simp [hx]
    | some p =>
      obtain ⟨⟨b, hb⟩, -⟩ := AgentRiskAggregate.applyFinding_cases (ha _ p hp) rfl hpos
        (Prod.mk.eta.symm : p.applyFinding now f = _)
      have hi : a.ingestFinding now f = (a.put f.agentId (p.applyFinding now f).1, .ok b) := by
        simp only [RiskAggregator.ingestFinding, hp]
        rw [show p.applyFinding now f = ((p.applyFinding now f).1, .ok b) from Prod.ext rfl hb]
      simp only [ingestAll, hi]
      have ha' : ∀ x q, (a.put f.agentId (p.applyFinding now f).1).projections.get? x = some q →
          q.Anchored x a.ruleVocabulary (m x) := by
        intro x q hq
        simp only [RiskAggregator.put, Dict.get?_set] at hq
        split at hq
        · rename_i hx
          subst hx
          cases hq
          exact AgentRiskAggregate.applyFinding_anchored (ha _ p hp) rfl hpos
        · exact ha x q hq
      refine ⟨(ih ha' hrest).1, fun x => ?_⟩
      rw [(ih ha' hrest).2 x]
      by_cases hx : f.agentId = x
      · subst hx
        simp [RiskAggregator.put, hp, AgentRiskAggregate.applyAll]
      · simp [RiskAggregator.put, hx]

theorem capture_le (h : w.findings.Sequenced) (agentId : String) (t : Instant) :
    w.findings.captureEvidenceBaselineSequence agentId t ≤ w.findings.getAgentSequence agentId := by
  apply Nat.le_of_lt_succ
  apply AgentRiskAggregate.lt_foldl_max (Nat.succ_pos _)
  intro n hn
  obtain ⟨f, hf, rfl⟩ := List.mem_map.mp hn
  have hf' := (List.mem_filter.mp hf).1
  obtain ⟨hv, ha⟩ := List.mem_filter.mp hf'
  have := (h.positioned f hv).2
  rw [show f.agentId = agentId by simpa using ha] at this
  omega

theorem le_capture (h : w.findings.Sequenced) {agentId : String} {t : Instant} {f : Finding}
    (hf : f ∈ w.findings.ofAgent agentId) (ht : ∀ r, f.recordedAt = some r → r ≤ t) :
    f.evidenceSequence ≤ w.findings.captureEvidenceBaselineSequence agentId t := by
  apply (AgentRiskAggregate.foldl_max_ge _ 0).2
  refine List.mem_map.mpr ⟨f, List.mem_filter.mpr ⟨hf, ?_⟩, rfl⟩
  obtain ⟨r, hr, hrec⟩ := h.recorded f (List.mem_filter.mp hf).1
  simp [Dict.getD, hrec, ht r hr]

theorem projectionOr_identity (h : w.Structural) (agentId : String) (m : BaselineWatermark)
    (now : Instant) (hm : m.agentId = agentId) :
    (w.aggregator.projectionOr agentId m now).agentId = agentId ∧
      (w.aggregator.projectionOr agentId m now).ruleVocabulary = w.aggregator.ruleVocabulary := by
  unfold RiskAggregator.projectionOr
  cases hp : w.aggregator.projections.get? agentId with
  | none => exact ⟨hm, rfl⟩
  | some p => exact ⟨(h.anchored agentId p hp).agent, (h.anchored agentId p hp).vocabulary⟩

theorem anchored_put {v : World} {agentId : String} {q : AgentRiskAggregate}
    (h : w.Structural) (hv : v.aggregator = w.aggregator.put agentId q)
    (hb : ∀ a, agentId ≠ a → v.persistedBaseline a = w.persistedBaseline a)
    (hq : q.Anchored agentId w.aggregator.ruleVocabulary (v.persistedBaseline agentId)) :
    ∀ a p, v.aggregator.projections.get? a = some p →
      p.Anchored a v.aggregator.ruleVocabulary (v.persistedBaseline a) := by
  intro a p hp
  rw [hv] at hp ⊢
  simp only [RiskAggregator.put, Dict.get?_set] at hp
  split at hp
  · rename_i ha
    subst ha
    cases hp
    exact hq
  · rename_i ha
    rw [hb a ha]
    exact h.anchored a p hp

theorem reset_anchored (h : w.Structural) (agentId : String) (m : BaselineWatermark) (now : Instant)
    (hm : m.agentId = agentId) :
    ((w.aggregator.projectionOr agentId m now).resetToBaseline now m).1.Anchored agentId
      w.aggregator.ruleVocabulary m := by
  have := ((w.aggregator.projectionOr agentId m now).resetToBaseline_summarises now m).1
  rwa [(projectionOr_identity h agentId m now hm).1,
    (projectionOr_identity h agentId m now hm).2] at this

theorem rebuild_anchored (h : w.Structural) (agentId : String) (now : Instant) :
    ((w.aggregator.projectionOr agentId (w.persistedBaseline agentId) now).rebuildFromFindings now
      (w.findings.ofAgent agentId) (w.persistedBaseline agentId)).1.Anchored agentId
      w.aggregator.ruleVocabulary (w.persistedBaseline agentId) := by
  have := ((w.aggregator.projectionOr agentId (w.persistedBaseline agentId)
    now).rebuildFromFindings_summarises now (w.findings.ofAgent agentId)
      (w.persistedBaseline agentId)).1
  rwa [(projectionOr_identity h agentId _ now rfl).1,
    (projectionOr_identity h agentId _ now rfl).2] at this

theorem recorded_positive (h : w.Structural) (now : Instant) (batch : List Finding) :
    ∀ f ∈ (w.findings.recordNewFindings now batch).2, 0 < f.evidenceSequence := by
  intro f hf
  have hr := FindingsService.recordNewFindings_records h.sequenced now batch
  have hmem : f ∈ (w.findings.recordNewFindings now batch).1.findings.values := by
    rw [hr.values]
    exact List.mem_append_right _ hf
  exact (hr.sequenced.positioned f hmem).1

theorem accept_projections (h : w.Structural) (now : Instant) (agentId : String)
    (batch : List Finding) :
    (w.acceptFindings now agentId batch).1.aggregator.ruleVocabulary = w.aggregator.ruleVocabulary ∧
    ∀ x, (w.acceptFindings now agentId batch).1.aggregator.projections.get? x =
      (w.aggregator.projections.get? x).map (fun p => p.applyAll now
        ((w.findings.recordNewFindings now batch).2.filter (fun f => f.agentId = x))) :=
  ingestAll_projections h.anchored (recorded_positive h now batch)

theorem filtered_positive (h : w.Structural) (now : Instant) (batch : List Finding) (x : String) :
    ∀ f ∈ (w.findings.recordNewFindings now batch).2.filter (fun f => f.agentId = x),
      f.agentId = x ∧ 0 < f.evidenceSequence := by
  intro f hf
  obtain ⟨hmem, hx⟩ := List.mem_filter.mp hf
  exact ⟨by simpa using hx, recorded_positive h now batch f hmem⟩

theorem structural_step (h : w.Structural) (s : PostureStep) : (w.posture s).Structural := by
  obtain ⟨heff, hg⟩ := posture_effect h.grounded s
  generalize w.posture s = v at heff hg
  cases heff with
  | quiet hsame ha =>
    refine ⟨hg, hsame.findings ▸ h.sequenced, ?_, ?_⟩
    · intro a
      rw [hsame.baseline, hsame.findings]
      exact h.baseline a
    · intro a p hp
      rw [ha] at hp ⊢
      rw [hsame.baseline]
      exact h.anchored a p hp
  | staled agentId hsame ha =>
    refine ⟨hg, hsame.findings ▸ h.sequenced, ?_, ?_⟩
    · intro a
      rw [hsame.baseline, hsame.findings]
      exact h.baseline a
    · intro a p hp
      rw [ha, markStale_projections] at hp
      rw [ha, markStale_vocabulary, hsame.baseline]
      obtain ⟨q, hq, rfl⟩ := Option.map_eq_some_iff.mp hp
      split
      · exact AgentRiskAggregate.markStale_anchored (h.anchored a q hq) s.now
      · exact h.anchored a q hq
  | rebuilt agentId hsame ha =>
    refine ⟨hg, hsame.findings ▸ h.sequenced, ?_, ?_⟩
    · intro a
      rw [hsame.baseline, hsame.findings]
      exact h.baseline a
    · apply anchored_put h ha (fun a _ => hsame.baseline a)
      rw [hsame.baseline]
      exact rebuild_anchored h agentId s.now
  | accepted agentId batch hop hb hv =>
    have hr := FindingsService.recordNewFindings_records h.sequenced s.now batch
    obtain ⟨hvoc, hproj⟩ := accept_projections h s.now agentId batch
    subst hv
    refine ⟨hg, hr.sequenced, ?_, ?_⟩
    · intro a
      rw [hb a]
      have := hr.counter a
      have := h.baseline a
      simp only [acceptFindings]
      omega
    · intro a p hp
      rw [hproj] at hp
      rw [hvoc, hb a]
      obtain ⟨q, hq, rfl⟩ := Option.map_eq_some_iff.mp hp
      exact AgentRiskAggregate.applyAll_anchored (h.anchored a q hq)
        (filtered_positive h s.now batch a)
  | reinstated agentId actor reason hop hs hf hb ha =>
    refine ⟨hg, hf ▸ h.sequenced, ?_, ?_⟩
    · intro a
      rw [hb a, hf]
      split
      · rename_i he
        subst he
        exact capture_le h.sequenced agentId s.now
      · exact h.baseline a
    · apply anchored_put h ha
      · intro a hne
        rw [hb a, if_neg hne]
      · rw [hb agentId, if_pos rfl]
        exact reset_anchored h agentId _ s.settledAt rfl
  | repaired agentId hop hsame ha =>
    refine ⟨hg, hsame.findings ▸ h.sequenced, ?_, ?_⟩
    · intro a
      rw [hsame.baseline, hsame.findings]
      exact h.baseline a
    · apply anchored_put h ha (fun a _ => hsame.baseline a)
      rw [hsame.baseline]
      exact reset_anchored h agentId _ s.now rfl

theorem structural_run (h : w.EmptyStores) (steps : List PostureStep) :
    (w.postures steps).Structural :=
  postures_invariant (C := fun _ _ => True) h.structural
    (fun _ s hv _ => structural_step hv s) steps
    (fun _ _ _ _ => trivial)

end World

end AgentSecurityPlatform
