import AgentSecurityPlatform.Posture.Equivalence

namespace AgentSecurityPlatform

def Finding.active (f : Finding) : Bool := f.status ∈ activeStatuses

def SeverityCounts.of (c : SeverityCounts) : Severity → Nat
  | .low => c.low
  | .medium => c.medium
  | .high => c.high
  | .critical => c.critical

theorem SeverityCounts.of_bump (c : SeverityCounts) (s t : Severity) :
    (c.bump s).of t = c.of t + if s = t then 1 else 0 := by
  cases s <;> cases t <;> simp [bump, of]

namespace Tally

theorem add_inactive {vocabulary : List String} {t : Tally} {f : Finding}
    (h : f.active = false) : t.add vocabulary f = t := by
  have : f.status ∉ activeStatuses := by simpa [Finding.active] using h
  simp [add, this]

theorem ofFindings_active (vocabulary : List String) (fs : List Finding) :
    ofFindings vocabulary fs = ofFindings vocabulary (fs.filter Finding.active) := by
  induction fs using List.reverseRecOn with
  | nil => rfl
  | append_singleton fs f ih =>
    rw [ofFindings_snoc, List.filter_append]
    cases hf : f.active with
    | true =>
      simp only [List.filter_cons, hf, if_true, List.filter_nil]
      rw [ofFindings_snoc, ih]
    | false =>
      simp only [List.filter_cons, hf, Bool.false_eq_true, if_false, List.filter_nil,
        List.append_nil]
      rw [add_inactive hf, ih]

theorem ofFindings_counts (vocabulary : List String) {fs : List Finding}
    (h : ∀ f ∈ fs, f.active = true) :
    (ofFindings vocabulary fs).count = fs.length ∧
    (∀ s, (ofFindings vocabulary fs).bySeverity.of s =
      (fs.filter (fun f => f.severity = s)).length) ∧
    (ofFindings vocabulary fs).bySeverity.score = scoreFindings fs := by
  induction fs using List.reverseRecOn with
  | nil => exact ⟨rfl, fun s => by cases s <;> rfl, rfl⟩
  | append_singleton fs f ih =>
    obtain ⟨h1, h2, h3⟩ := ih (fun g hg => h g (by simp [hg]))
    have hf : f.status ∈ activeStatuses := by simpa [Finding.active] using h f (by simp)
    rw [ofFindings_snoc]
    simp only [add, hf, if_true]
    refine ⟨by simp [h1], ?_, ?_⟩
    · intro s
      rw [SeverityCounts.of_bump, h2 s, List.filter_append]
      by_cases hs : f.severity = s <;> simp [hs]
    · rw [SeverityCounts.score_bump, h3]
      simp [scoreFindings]

end Tally

namespace World

variable {w : World}

def afterBaseline (w : World) (agentId : String) : List Finding :=
  (w.findings.ofAgent agentId).filter
    (fun f => (w.persistedBaseline agentId).baselineEvidenceSequence < f.evidenceSequence)

def owed (w : World) (agentId : String) : List Finding :=
  (w.afterBaseline agentId).filter Finding.active

structure Counts (posture : AgentRiskPosture) (findings : List Finding) : Prop where
  findingCount : posture.findingCount = findings.length
  countsBySeverity : ∀ s, posture.countsBySeverity.of s =
    (findings.filter (fun f => f.severity = s)).length
  riskScore : posture.riskScore = scoreFindings findings

def Admits (w : World) (s : PostureStep) : Prop :=
  match s.op with
  | .accept _ batch => ∀ f ∈ batch, f.active = true → w.findings.findings.get? f.findingId = none →
      ∀ b, (w.persistedBaseline f.agentId).baselineAt = some b → b < s.now
  | .reinstate agentId _ _ => isSuspended (w.agents.enforcement.getState agentId) = true →
      ∀ f ∈ w.findings.ofAgent agentId, f.active = true →
        f.evidenceSequence ≤ w.findings.captureEvidenceBaselineSequence agentId s.now
  | .repair _ => False
  | _ => True

structure Tallied (w : World) (agentId : String) (p : AgentRiskAggregate) : Prop where
  tally : p.tally = Tally.ofFindings w.aggregator.ruleVocabulary (w.afterBaseline agentId)
  score : p.riskScore = p.countsBySeverity.score
  applied : p.lastAppliedSequence ≤ w.findings.getAgentSequence agentId

structure Unlaundered (w : World) : Prop where
  tallied : ∀ a p, w.aggregator.projections.get? a = some p → p.state = .healthy → w.Tallied a p
  timely : ∀ a, ∀ f ∈ w.owed a,
    AgentRiskAggregate.postBaseline a (w.persistedBaseline a) f = true

end World

namespace AgentRiskAggregate

variable {p : AgentRiskAggregate} {now : Instant} {m : BaselineWatermark} {agentId : String}
  {vocabulary : List String}

theorem advance_tally (p : AgentRiskAggregate) (now : Instant) (f : Finding)
    (hs : p.riskScore = p.countsBySeverity.score) :
    (p.advance now f).tally = p.tally.add p.ruleVocabulary f ∧
    (p.advance now f).riskScore = (p.advance now f).countsBySeverity.score ∧
    (p.advance now f).lastAppliedSequence = f.evidenceSequence := by
  unfold advance
  simp only
  split
  · rw [contribute_eq]
    exact ⟨rfl, rfl, rfl⟩
  · rename_i hinactive
    refine ⟨?_, hs, rfl⟩
    simp only [Tally.add, hinactive, if_false]
    rfl

theorem applyAll_tally {stored fs : List Finding} {n : Nat} (h : p.Anchored agentId vocabulary m)
    (hn : m.baselineEvidenceSequence ≤ n)
    (hfs : ∀ f ∈ fs, f.agentId = agentId ∧ 0 < f.evidenceSequence)
    (hseq : fs.map (·.evidenceSequence) = List.range' (n + 1) fs.length)
    (hp : p.state = .healthy → p.tally = Tally.ofFindings vocabulary stored ∧
      p.riskScore = p.countsBySeverity.score ∧ p.lastAppliedSequence ≤ n)
    (hq : (applyAll now p fs).state = .healthy) :
    (applyAll now p fs).tally = Tally.ofFindings vocabulary (stored ++ fs) ∧
      (applyAll now p fs).riskScore = (applyAll now p fs).countsBySeverity.score ∧
      (applyAll now p fs).lastAppliedSequence ≤ n + fs.length := by
  induction fs generalizing p stored n with
  | nil => simpa [applyAll] using hp hq
  | cons f fs ih =>
    obtain ⟨hf, hpos⟩ := hfs f (by simp)
    have hrest : ∀ g ∈ fs, g.agentId = agentId ∧ 0 < g.evidenceSequence :=
      fun g hg => hfs g (by simp [hg])
    simp only [List.map_cons, List.length_cons, List.range'_succ, List.cons.injEq] at hseq
    obtain ⟨hfn, hseq⟩ := hseq
    have hhealthy : p.state = .healthy := by
      by_contra hs
      exact applyAll_unhealthy h hfs hs hq
    obtain ⟨htally, hscore, hlast⟩ := hp hhealthy
    have hanch : (p.applyFinding now f).1.Anchored agentId vocabulary m :=
      applyFinding_anchored h hf hpos
    have hstep : (p.applyFinding now f).1.state = .healthy →
        (p.applyFinding now f).1.tally = Tally.ofFindings vocabulary (stored ++ [f]) ∧
        (p.applyFinding now f).1.riskScore = (p.applyFinding now f).1.countsBySeverity.score ∧
        (p.applyFinding now f).1.lastAppliedSequence ≤ n + 1 := by
      intro hst
      obtain ⟨-, ⟨-, hle⟩ | hq' | ⟨hq', -, -⟩⟩ :=
        applyFinding_cases h hf hpos (Prod.mk.eta.symm : p.applyFinding now f = _)
      · omega
      · rw [hq'] at hst
        cases hst
      · obtain ⟨h1, h2, h3⟩ := advance_tally p now f hscore
        rw [hq']
        refine ⟨?_, h2, by omega⟩
        rw [h1, htally, h.vocabulary, Tally.ofFindings_snoc]
    obtain ⟨h1, h2, h3⟩ := ih hanch (by omega) hrest hseq hstep hq
    refine ⟨?_, h2, ?_⟩
    · rwa [List.append_assoc, List.singleton_append] at h1
    · change (applyAll now (p.applyFinding now f).1 fs).lastAppliedSequence ≤ _
      simp only [List.length_cons]
      omega

end AgentRiskAggregate

namespace World

variable {w : World}

theorem recordNewFindings_source {s : FindingsService} (hs : s.Sequenced) (now : Instant)
    (batch : List Finding) : ∀ g ∈ (s.recordNewFindings now batch).2, ∃ f ∈ batch,
      s.findings.get? f.findingId = none ∧ g.status = f.status ∧ g.agentId = f.agentId := by
  induction batch generalizing s with
  | nil => simp [FindingsService.recordNewFindings]
  | cons f fs ih =>
    intro g hg
    simp only [FindingsService.recordNewFindings] at hg
    split at hg
    · obtain ⟨d, hd, h⟩ := ih hs g hg
      exact ⟨d, by simp [hd], h⟩
    · rename_i hc
      have habs : s.findings.get? f.findingId = none := by
        simpa [Dict.contains_eq_false_iff] using hc
      rw [FindingsService.recordFindingLocked_absent habs] at hg
      rcases List.mem_cons.mp hg with rfl | hg
      · exact ⟨f, by simp, habs, rfl, rfl⟩
      · obtain ⟨d, hd, hnone, h⟩ := ih (hs.insertNew habs now) g hg
        refine ⟨d, by simp [hd], ?_, h⟩
        simp only [FindingsService.insertNew, Dict.get?_set] at hnone
        split at hnone
        · cases hnone
        · exact hnone

theorem SameBaselines.afterBaseline {v : World} (h : SameBaselines w v) (a : String) :
    v.afterBaseline a = w.afterBaseline a := by
  simp only [World.afterBaseline, h.findings, h.baseline]

theorem SameBaselines.timely {v : World} (h : SameBaselines w v) (hu : w.Unlaundered) :
    ∀ a, ∀ f ∈ v.owed a,
      AgentRiskAggregate.postBaseline a (v.persistedBaseline a) f = true := by
  intro a f hf
  rw [owed, h.afterBaseline] at hf
  rw [h.baseline]
  exact hu.timely a f hf

theorem Tallied.congr {v : World} {a : String} {p : AgentRiskAggregate} (h : w.Tallied a p)
    (hvoc : v.aggregator.ruleVocabulary = w.aggregator.ruleVocabulary)
    (hafter : v.afterBaseline a = w.afterBaseline a) (hf : v.findings = w.findings) :
    v.Tallied a p :=
  ⟨by rw [h.tally, hvoc, hafter], h.score, by rw [hf]; exact h.applied⟩

theorem rebuilt_tallied (hst : w.Structural) (h : w.Unlaundered) (now : Instant)
    (agentId : String) :
    w.Tallied agentId
      ((w.aggregator.projectionOr agentId (w.persistedBaseline agentId) now).rebuildFromFindings
        now (w.findings.ofAgent agentId) (w.persistedBaseline agentId)).1 := by
  obtain ⟨hanch, hsum, -, -⟩ :=
    (w.aggregator.projectionOr agentId
      (w.persistedBaseline agentId) now).rebuildFromFindings_summarises
        now (w.findings.ofAgent agentId) (w.persistedBaseline agentId)
  obtain ⟨hid, hvoc⟩ := projectionOr_identity hst agentId (w.persistedBaseline agentId) now rfl
  rw [hid] at hsum hanch
  refine ⟨?_, hsum.score, ?_⟩
  · rw [hsum.tally, hanch.vocabulary, hvoc, Tally.ofFindings_active, Tally.ofFindings_active _
      (w.afterBaseline agentId)]
    congr 1
    rw [List.filter_filter]
    simp only [afterBaseline, List.filter_filter]
    apply List.filter_congr
    intro f hf
    cases hact : f.active with
    | false => simp
    | true =>
      simp only [Bool.true_and]
      by_cases hlt : (w.persistedBaseline agentId).baselineEvidenceSequence < f.evidenceSequence
      · have hmem : f ∈ w.owed agentId := by
          simp [owed, afterBaseline, hf, hlt, hact]
        simp [h.timely agentId f hmem, hlt]
      · have hno : AgentRiskAggregate.postBaseline agentId
          (w.persistedBaseline agentId) f = false := by
          by_contra hc
          exact hlt (AgentRiskAggregate.postBaseline_sequence (by simpa using hc))
        simp [hno, hlt]
  · rw [hsum.cursor]
    apply Nat.le_of_lt_succ
    apply AgentRiskAggregate.cursorOf_lt
    · exact Nat.lt_succ_of_le (hst.baseline agentId)
    · intro g hg
      obtain ⟨hv, ha⟩ := List.mem_filter.mp (List.mem_filter.mp hg).1
      have := (hst.sequenced.positioned g hv).2
      rw [show g.agentId = agentId by simpa using ha] at this
      omega

theorem accepted_timely (hst : w.Structural) (h : w.Unlaundered) {s : PostureStep}
    {agentId : String} {batch : List Finding} (hop : s.op = .accept agentId batch)
    (hc : w.Admits s) : ∀ a, ∀ f ∈ (w.acceptFindings s.now agentId batch).1.owed a,
      AgentRiskAggregate.postBaseline a (w.persistedBaseline a) f = true := by
  have hr := FindingsService.recordNewFindings_records hst.sequenced s.now batch
  intro a f hf
  obtain ⟨hafter, hact⟩ := List.mem_filter.mp hf
  obtain ⟨hof, hlt⟩ := List.mem_filter.mp hafter
  have hlt' : (w.persistedBaseline a).baselineEvidenceSequence < f.evidenceSequence :=
    of_decide_eq_true hlt
  simp only [acceptFindings, hr.stored a] at hof
  rcases List.mem_append.mp hof with hof | hof
  · exact h.timely a f (by simp [owed, afterBaseline, hof, hlt', hact])
  · obtain ⟨hrec, hfa⟩ := List.mem_filter.mp hof
    have hfa' : f.agentId = a := by simpa using hfa
    obtain ⟨d, hd, hnone, hstatus, hagent⟩ :=
      recordNewFindings_source hst.sequenced s.now batch f hrec
    have hread : ∀ b, (w.persistedBaseline a).baselineAt = some b → b < s.now := by
      have := hc
      simp only [Admits, hop] at this
      intro b hb
      refine this d hd ?_ hnone b ?_
      · simpa [Finding.active, hstatus] using hact
      · rw [← hagent, hfa', hb]
    have hobs : f.observedAt = s.now := by simp [Finding.observedAt, hr.stamped f hrec]
    have hany : (w.persistedBaseline a).baselineAt.any
      (fun b => decide (f.observedAt ≤ b)) = false := by
      cases hb : (w.persistedBaseline a).baselineAt with
      | none => rfl
      | some b => simpa [hobs] using hread b hb
    simp only [AgentRiskAggregate.postBaseline, hfa', hany]
    simp [hlt']

theorem accepted_afterBaseline (hst : w.Structural) (now : Instant) (agentId : String)
    (batch : List Finding) (a : String) :
    (w.acceptFindings now agentId batch).1.afterBaseline a = w.afterBaseline a ++
      (w.findings.recordNewFindings now batch).2.filter (fun f => f.agentId = a) := by
  have hr := FindingsService.recordNewFindings_records hst.sequenced now batch
  have hnew : ((w.findings.recordNewFindings now batch).2.filter (fun f => f.agentId = a)).filter
      (fun f => (w.persistedBaseline a).baselineEvidenceSequence < f.evidenceSequence) =
      (w.findings.recordNewFindings now batch).2.filter (fun f => f.agentId = a) := by
    apply List.filter_eq_self.mpr
    intro f hf
    have hseq : f.evidenceSequence ∈ List.range' (w.findings.getAgentSequence a + 1)
        ((w.findings.recordNewFindings now batch).2.filter (fun f => f.agentId = a)).length := by
      rw [← hr.numbered a]
      exact List.mem_map.mpr ⟨f, hf, rfl⟩
    have hge := (List.mem_range'_1.mp hseq).1
    have := hst.baseline a
    simp only [decide_eq_true_eq]
    omega
  simp only [afterBaseline, acceptFindings, hr.stored a, List.filter_append]
  exact congrArg₂ (· ++ ·) rfl hnew

theorem unlaundered_step (hst : w.Structural) (h : w.Unlaundered) (s : PostureStep)
    (hc : w.Admits s) : (w.posture s).Unlaundered := by
  obtain ⟨heff, -⟩ := posture_effect hst.grounded s
  generalize w.posture s = v at heff
  cases heff with
  | quiet hsame ha =>
    refine ⟨?_, hsame.timely h⟩
    intro a p hp hs
    rw [ha] at hp
    exact (h.tallied a p hp hs).congr (by rw [ha]) (hsame.afterBaseline a) hsame.findings
  | staled agentId hsame ha =>
    refine ⟨?_, hsame.timely h⟩
    intro a p hp hs
    rw [ha, markStale_projections] at hp
    obtain ⟨q, hq, rfl⟩ := Option.map_eq_some_iff.mp hp
    split at hs
    · cases hs
    · rename_i hne
      rw [if_neg hne]
      exact (h.tallied a q hq hs).congr (by rw [ha, markStale_vocabulary]) (hsame.afterBaseline a)
        hsame.findings
  | rebuilt agentId hsame ha =>
    refine ⟨?_, hsame.timely h⟩
    intro a p hp hs
    have hvoc : v.aggregator.ruleVocabulary = w.aggregator.ruleVocabulary := by rw [ha]; rfl
    rw [ha] at hp
    simp only [RiskAggregator.put, Dict.get?_set] at hp
    split at hp
    · rename_i he
      subst he
      cases hp
      exact (rebuilt_tallied hst h s.now agentId).congr hvoc (hsame.afterBaseline agentId)
        hsame.findings
    · exact (h.tallied a p hp hs).congr hvoc (hsame.afterBaseline a) hsame.findings
  | accepted agentId batch hop hb hv =>
    subst hv
    have hr := FindingsService.recordNewFindings_records hst.sequenced s.now batch
    obtain ⟨hvoc, hproj⟩ := accept_projections hst s.now agentId batch
    refine ⟨?_, ?_⟩
    · intro a p hp hs
      rw [hproj] at hp
      obtain ⟨q, hq, rfl⟩ := Option.map_eq_some_iff.mp hp
      obtain ⟨h1, h2, h3⟩ := AgentRiskAggregate.applyAll_tally (hst.anchored a q hq)
        (hst.baseline a) (filtered_positive hst s.now batch a) (hr.numbered a)
        (fun hh => ⟨(h.tallied a q hq hh).tally, (h.tallied a q hq hh).score,
          (h.tallied a q hq hh).applied⟩) hs
      refine ⟨?_, h2, ?_⟩
      · rw [h1, hvoc, accepted_afterBaseline hst s.now agentId batch a]
      · simp only [acceptFindings, hr.counter a]
        exact h3
    · intro a f hf
      rw [hb a]
      exact accepted_timely hst h hop hc a f hf
  | reinstated agentId actor reason hop hs hf hb ha =>
    have hba : v.persistedBaseline agentId = w.captureWatermark s.now agentId := by
      rw [hb agentId, if_pos rfl]
    have hcap : ∀ f ∈ w.findings.ofAgent agentId, f.active = true →
        f.evidenceSequence ≤ w.findings.captureEvidenceBaselineSequence agentId s.now := by
      have := hc
      simp only [Admits, hop] at this
      exact this hs
    have hother : ∀ a, agentId ≠ a → v.afterBaseline a = w.afterBaseline a ∧
        v.persistedBaseline a = w.persistedBaseline a := by
      intro a hne
      have : v.persistedBaseline a = w.persistedBaseline a := by rw [hb a, if_neg hne]
      exact ⟨by simp only [afterBaseline, hf, this], this⟩
    have hnone : v.owed agentId = [] := by
      simp only [owed, afterBaseline, hf, hba, List.filter_filter]
      rw [List.filter_eq_nil_iff]
      intro f hmem hboth
      simp only [Bool.and_eq_true, decide_eq_true_eq] at hboth
      exact absurd hboth.2 (not_lt.mpr (hcap f hmem hboth.1))
    have hvoc : v.aggregator.ruleVocabulary = w.aggregator.ruleVocabulary := by rw [ha]; rfl
    refine ⟨?_, ?_⟩
    · intro a p hp hst'
      rw [ha] at hp
      simp only [RiskAggregator.put, Dict.get?_set] at hp
      split at hp
      · rename_i he
        subst he
        cases hp
        refine ⟨?_, rfl, ?_⟩
        · rw [Tally.ofFindings_active,
            show (v.afterBaseline agentId).filter Finding.active = [] from
            hnone]
          rfl
        · rw [hf]
          exact capture_le hst.sequenced agentId s.now
      · rename_i hne
        exact (h.tallied a p hp hst').congr hvoc (hother a hne).1 hf
    · intro a f hmem
      by_cases he : agentId = a
      · subst he
        rw [hnone] at hmem
        cases hmem
      · rw [owed, (hother a he).1] at hmem
        rw [(hother a he).2]
        exact h.timely a f hmem
  | repaired agentId hop hsame ha =>
    simp only [Admits, hop] at hc

theorem unlaundered_run (h : w.EmptyStores) {steps : List PostureStep}
    (hadm : ∀ pre s post, steps = pre ++ s :: post → (w.postures pre).Admits s) :
    (w.postures steps).Structural ∧ (w.postures steps).Unlaundered := by
  apply postures_invariant (I := fun v => v.Structural ∧ v.Unlaundered) (C := fun v s => v.Admits s)
  · refine ⟨h.structural, ?_, ?_⟩
    · intro a p hp
      rw [h.projections] at hp
      cases hp
    · intro a f hf
      simp [owed, afterBaseline, h.findings, FindingsService.ofAgent, FindingsService.empty,
        Dict.values, Dict.empty] at hf
  · intro v s hv hc
    exact ⟨structural_step hv.1 s, unlaundered_step hv.1 hv.2 s hc⟩
  · exact hadm

theorem Tallied.counts {a : String} {p : AgentRiskAggregate} (h : w.Tallied a p)
    {posture : AgentRiskPosture} (hs : p.snapshot = .ok posture) : Counts posture (w.owed a) := by
  have hfields : posture.findingCount = p.findingCount ∧
      posture.countsBySeverity = p.countsBySeverity ∧ posture.riskScore = p.riskScore := by
    unfold AgentRiskAggregate.snapshot at hs
    split at hs
    · cases hs
    · cases hs
      exact ⟨rfl, rfl, rfl⟩
  have htally := h.tally
  rw [Tally.ofFindings_active] at htally
  have hactive : ∀ f ∈ w.owed a, f.active = true := fun f hf => (List.mem_filter.mp hf).2
  obtain ⟨h1, h2, h3⟩ := Tally.ofFindings_counts w.aggregator.ruleVocabulary hactive
  have hcount : p.findingCount = (w.owed a).length := by
    rw [← h1]
    exact congrArg Tally.count htally
  have hsev : p.countsBySeverity =
    (Tally.ofFindings w.aggregator.ruleVocabulary (w.owed a)).bySeverity :=
    congrArg Tally.bySeverity htally
  exact ⟨hfields.1.trans hcount, fun s => by rw [hfields.2.1, hsev, h2 s],
    by rw [hfields.2.2, h.score, hsev, h3]⟩

theorem assessed_healthy (hst : w.Structural) {now : Instant} {agentId : String}
    {posture : AgentRiskPosture} (hp : (w.assessAgentPosture now agentId).2 = some posture) :
    posture.state = .healthy ∧
    ((∃ p, w.aggregator.projections.get? agentId = some p ∧ p.snapshot = .ok posture ∧
      p.state = .healthy) ∨
    (((w.aggregator.projectionOr agentId (w.persistedBaseline agentId) now).rebuildFromFindings now
      (w.findings.ofAgent agentId) (w.persistedBaseline agentId)).1.snapshot = .ok posture)) := by
  unfold assessAgentPosture at hp
  split at hp
  · cases hp
  · rename_i q hq
    split at hp
    · rename_i hs
      cases hp
      refine ⟨hs, .inl ?_⟩
      unfold RiskAggregator.getPosture at hq
      split at hq
      · cases hq
        cases hs
      · rename_i p hget
        refine ⟨p, hget, hq, ?_⟩
        rw [(hst.anchored agentId p hget).snapshot] at hq
        cases hq
        exact hs
    · obtain ⟨hanch, -, -, hok⟩ := (w.aggregator.projectionOr agentId (w.persistedBaseline agentId)
        now).rebuildFromFindings_summarises now (w.findings.ofAgent agentId)
          (w.persistedBaseline agentId)
      have hrec : (w.aggregator.reconcileAgent now agentId
          (w.findings.listFindings { agentId := some agentId }) (w.storedBaseline agentId)).2 =
          ((w.aggregator.projectionOr agentId (w.persistedBaseline agentId)
            now).rebuildFromFindings now (w.findings.ofAgent agentId)
              (w.persistedBaseline agentId)).1.snapshot := by
        rw [storedBaseline_eq hst.grounded, FindingsService.listFindings_agent]
        unfold RiskAggregator.reconcileAgent
        rw [← Prod.mk.eta (p := AgentRiskAggregate.rebuildFromFindings _ _ _ _), hok]
        rfl
      unfold reconcilePosture at hp
      split at hp
      · cases hp
      · rename_i agg reconciled hr
        rw [hr] at hrec
        split at hp
        · rename_i hs
          cases hp
          exact ⟨hs, .inr hrec.symm⟩
        · cases hp

theorem evidence_counted_when_admitted {w : World} (h : w.EmptyStores) (steps : List PostureStep)
    (hadm : ∀ pre s post, steps = pre ++ s :: post → (w.postures pre).Admits s)
    (agentId : String) (now : Instant) (posture : AgentRiskPosture)
    (hp : ((w.postures steps).assessAgentPosture now agentId).2 = some posture) :
    posture.state = .healthy ∧ Counts posture ((w.postures steps).owed agentId) := by
  obtain ⟨hst, hu⟩ := unlaundered_run h hadm
  obtain ⟨hs, ⟨p, hget, hsnap, hhealthy⟩ | hsnap⟩ := assessed_healthy hst hp
  · exact ⟨hs, (hu.tallied agentId p hget hhealthy).counts hsnap⟩
  · exact ⟨hs, (rebuilt_tallied hst hu now agentId).counts hsnap⟩

theorem admits_of_prefixes {w : World} {steps : List PostureStep}
    (h : ∀ n : Fin steps.length, (w.postures (steps.take n)).Admits (steps.get n)) :
    ∀ pre s post, steps = pre ++ s :: post → (w.postures pre).Admits s := by
  intro pre s post hsteps
  subst hsteps
  simpa using h ⟨pre.length, by simp⟩

theorem evidence_counted_sample :
    ((sampleStores.postures sampleRecovery).assessAgentPosture 7 "agent-1").2.isSome ∧
    ∀ posture, ((sampleStores.postures sampleRecovery).assessAgentPosture 7 "agent-1").2 =
      some posture → posture.state = .healthy ∧
        Counts posture ((sampleStores.postures sampleRecovery).owed "agent-1") := by
  refine ⟨rfl, fun posture hp => ?_⟩
  refine evidence_counted_when_admitted (w := sampleStores) ⟨rfl, rfl, rfl⟩ sampleRecovery
    (admits_of_prefixes ?_) "agent-1" 7 posture hp
  intro n
  match n with
  | ⟨0, _⟩ => trivial
  | ⟨1, _⟩ =>
    intro f hf _ _ b hb
    obtain rfl := List.mem_singleton.mp hf
    cases hb
  | ⟨2, _⟩ => trivial
  | ⟨3, _⟩ => trivial
  | ⟨4, _⟩ =>
    intro _
    have hcap : ∀ f ∈ (sampleStores.postures (sampleRecovery.take 4)).findings.ofAgent "agent-1",
        f.active = true → f.evidenceSequence ≤ (sampleStores.postures
          (sampleRecovery.take 4)).findings.captureEvidenceBaselineSequence "agent-1" 5 := by decide
    exact hcap
  | ⟨5, _⟩ =>
    intro f hf _ hnone b hb
    have hb5 : (sampleStores.postures (sampleRecovery.take 5)).persistedBaseline "agent-1" =
        ⟨"agent-1", some 5, 1, 0⟩ := by decide
    have hid : ∀ f ∈ [sampleFinding "f1" .critical, sampleFinding "f2" .medium],
        f.agentId = "agent-1" := by decide
    have hread : ((sampleStores.postures (sampleRecovery.take 5)).persistedBaseline
        f.agentId).baselineAt = some b := hb
    rw [hid f hf, hb5] at hread
    cases hread
    change (5 : Int) < 6
    decide

def sampleEqualReadings : List PostureStep :=
  [sampleStep 1 (.register sampleAgent systemRegistrationActor),
   sampleStep 2 (.accept "agent-1" [sampleFinding "f1" .critical]),
   sampleStep 3 (.assess "agent-1"),
   sampleStep 4 (.suspend "agent-1" "containment" none),
   sampleStep 5 (.reinstate "agent-1" "operator" "reviewed"),
   sampleStep 5 (.accept "agent-1" [sampleFinding "f2" .high])]

theorem equal_readings_launder :
    ∃ posture, ((sampleStores.postures sampleEqualReadings).assessAgentPosture 6 "agent-1").2 =
      some posture ∧ posture.state = .healthy ∧ posture.findingCount = 0 ∧
      ((sampleStores.postures sampleEqualReadings).owed "agent-1").map (·.findingId) = ["f2"] ∧
      ¬ Counts posture ((sampleStores.postures sampleEqualReadings).owed "agent-1") := by
  refine ⟨_, rfl, rfl, rfl, by decide, ?_⟩
  intro h
  exact absurd h.findingCount (by decide)

end World

end AgentSecurityPlatform
