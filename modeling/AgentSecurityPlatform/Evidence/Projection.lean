import AgentSecurityPlatform.Evidence.RiskAggregate

namespace AgentSecurityPlatform

structure Tally where
  bySeverity : SeverityCounts
  byRule : Dict String Nat
  count : Nat

namespace Tally

def zero : Tally := ⟨{}, .empty, 0⟩

def add (vocabulary : List String) (t : Tally) (f : Finding) : Tally :=
  if f.status ∈ activeStatuses then
    { bySeverity := t.bySeverity.bump f.severity
      byRule :=
        if f.ruleId ≠ "" ∧ f.ruleId ∈ vocabulary then
          t.byRule.set f.ruleId (t.byRule.getD f.ruleId 0 + 1)
        else t.byRule
      count := t.count + 1 }
  else t

def ofFindings (vocabulary : List String) (findings : List Finding) : Tally :=
  findings.foldl (add vocabulary) zero

theorem ofFindings_snoc (vocabulary : List String) (findings : List Finding) (f : Finding) :
    ofFindings vocabulary (findings ++ [f]) =
      (ofFindings vocabulary findings).add vocabulary f := by
  simp [ofFindings]

end Tally

namespace AgentRiskAggregate

variable {p q : AgentRiskAggregate} {f : Finding} {now : Instant} {w : BaselineWatermark}

def tally (p : AgentRiskAggregate) : Tally := ⟨p.countsBySeverity, p.countsByRule, p.findingCount⟩

def withTally (p : AgentRiskAggregate) (t : Tally) : AgentRiskAggregate :=
  { p with countsBySeverity := t.bySeverity, countsByRule := t.byRule, findingCount := t.count }

theorem contribute_eq (p : AgentRiskAggregate) (f : Finding) :
    p.contribute f = p.withTally (p.tally.add p.ruleVocabulary f) := by
  unfold contribute Tally.add
  split <;> rfl

theorem foldl_contribute_eq (p : AgentRiskAggregate) (fs : List Finding) :
    fs.foldl contribute p = p.withTally (fs.foldl (Tally.add p.ruleVocabulary) p.tally) := by
  induction fs generalizing p with
  | nil => rfl
  | cons f fs ih =>
    rw [List.foldl_cons, ih, contribute_eq]
    rfl

structure Summarises (p : AgentRiskAggregate) (w : BaselineWatermark) (post : List Finding) :
    Prop where
  tally : p.tally = Tally.ofFindings p.ruleVocabulary post
  score : p.riskScore = p.countsBySeverity.score
  level : p.riskLevel = levelForScore p.riskScore
  cursor : p.lastAppliedSequence = cursorOf w post

structure Anchored (p : AgentRiskAggregate) (agentId : String) (vocabulary : List String)
    (w : BaselineWatermark) : Prop where
  agent : p.agentId = agentId
  vocabulary : p.ruleVocabulary = vocabulary
  baselineAt : p.baselineAt = w.baselineAt
  baselineSequence : p.baselineEvidenceSequence = w.baselineEvidenceSequence
  cursor : p.baselineEvidenceSequence ≤ p.lastAppliedSequence

theorem Anchored.snapshot {agentId : String} {vocabulary : List String}
    (h : p.Anchored agentId vocabulary w) :
    p.snapshot = .ok ⟨p.agentId, p.state, p.riskScore, p.riskLevel, p.findingCount, p.baselineAt,
      p.baselineEvidenceSequence, p.lastAppliedSequence, p.countsBySeverity, p.countsByRule,
      p.postureVersion, p.assessedAt⟩ := by
  have hc : p.cursorInvariant = true := by simpa [cursorInvariant] using h.cursor
  simp [AgentRiskAggregate.snapshot, hc]

theorem lt_foldl_max {xs : List Nat} {n b : Nat} (hb : b < n) (h : ∀ x ∈ xs, x < n) :
    xs.foldl max b < n := by
  induction xs generalizing b with
  | nil => exact hb
  | cons x xs ih =>
    exact ih (max_lt hb (h x (by simp))) (fun y hy => h y (by simp [hy]))

theorem foldl_max_ge (xs : List Nat) (b : Nat) :
    b ≤ xs.foldl max b ∧ ∀ x ∈ xs, x ≤ xs.foldl max b := by
  induction xs generalizing b with
  | nil => simp
  | cons x xs ih =>
    obtain ⟨h1, h2⟩ := ih (max b x)
    refine ⟨(le_max_left b x).trans h1, ?_⟩
    intro y hy
    rcases List.mem_cons.mp hy with rfl | hy
    · exact (le_max_right b y).trans h1
    · exact h2 y hy

theorem cursorOf_lt {post : List Finding} {n : Nat} (hw : w.baselineEvidenceSequence < n)
    (h : ∀ g ∈ post, g.evidenceSequence < n) : cursorOf w post < n := by
  unfold cursorOf
  split
  · exact hw
  · exact lt_foldl_max (by omega) (by simpa using h)

theorem cursorOf_ge {post : List Finding}
    (h : ∀ g ∈ post, w.baselineEvidenceSequence < g.evidenceSequence) :
    w.baselineEvidenceSequence ≤ cursorOf w post := by
  unfold cursorOf
  split
  · exact le_rfl
  · rename_i hne
    obtain ⟨g, post', rfl⟩ := List.exists_cons_of_ne_nil hne
    have := (foldl_max_ge ((g :: post').map (·.evidenceSequence)) 0).2 g.evidenceSequence (by simp)
    have := h g (by simp)
    omega

theorem cursorOf_snoc {post : List Finding}
    (h : ∀ g ∈ post, g.evidenceSequence < f.evidenceSequence)
    (hf : 0 < f.evidenceSequence) : cursorOf w (post ++ [f]) = f.evidenceSequence := by
  have hlt : (post.map (·.evidenceSequence)).foldl max 0 < f.evidenceSequence :=
    lt_foldl_max hf (by simpa using h)
  simp only [cursorOf, List.append_eq_nil_iff, List.cons_ne_nil, and_false, if_false,
    List.map_append, List.map_cons, List.map_nil, List.foldl_append, List.foldl_cons,
    List.foldl_nil]
  omega

theorem postBaseline_sequence {agentId : String} (h : postBaseline agentId w f = true) :
    w.baselineEvidenceSequence < f.evidenceSequence := by
  simp only [postBaseline, Bool.and_eq_true, decide_eq_true_eq] at h
  exact h.1.2

theorem rebuildFromFindings_summarises (p : AgentRiskAggregate) (now : Instant)
    (findings : List Finding) (w : BaselineWatermark) :
    Anchored (p.rebuildFromFindings now findings w).1 p.agentId p.ruleVocabulary w ∧
    Summarises (p.rebuildFromFindings now findings w).1 w
      (findings.filter (postBaseline p.agentId w)) ∧
    (p.rebuildFromFindings now findings w).1.state = .healthy ∧
    (p.rebuildFromFindings now findings w).2 = .ok () := by
  have hcursor : w.baselineEvidenceSequence ≤
      cursorOf w (findings.filter (postBaseline p.agentId w)) :=
    cursorOf_ge (fun g hg => postBaseline_sequence (List.mem_filter.mp hg).2)
  simp only [rebuildFromFindings, foldl_contribute_eq]
  refine ⟨⟨rfl, rfl, rfl, rfl, hcursor⟩, ⟨rfl, rfl, rfl, rfl⟩, trivial, ?_⟩
  simp only [cursorInvariant, recalculateScoreAndLevel, withTally]
  simp [hcursor]

theorem resetToBaseline_summarises (p : AgentRiskAggregate) (now : Instant)
    (w : BaselineWatermark) :
    Anchored (p.resetToBaseline now w).1 p.agentId p.ruleVocabulary w ∧
    Summarises (p.resetToBaseline now w).1 w [] ∧
    (p.resetToBaseline now w).1.state = .healthy ∧
    (p.resetToBaseline now w).2 = .ok () := by
  refine ⟨⟨rfl, rfl, rfl, rfl, le_rfl⟩, ⟨rfl, rfl, rfl, rfl⟩, rfl, ?_⟩
  simp [resetToBaseline, cursorInvariant]

theorem markStale_anchored {agentId : String} {vocabulary : List String}
    (h : p.Anchored agentId vocabulary w) (now : Instant) :
    (p.markStale now).Anchored agentId vocabulary w :=
  ⟨h.agent, h.vocabulary, h.baselineAt, h.baselineSequence, h.cursor⟩

theorem goStale_anchored {agentId : String} {vocabulary : List String}
    (h : p.Anchored agentId vocabulary w) (now : Instant) :
    (p.goStale now).Anchored agentId vocabulary w :=
  ⟨h.agent, h.vocabulary, h.baselineAt, h.baselineSequence, h.cursor⟩

def advance (p : AgentRiskAggregate) (now : Instant) (f : Finding) : AgentRiskAggregate :=
  let q := { p with lastAppliedSequence := f.evidenceSequence }
  let r := if f.status ∈ activeStatuses then (q.contribute f).recalculateScoreAndLevel else q
  { r with postureVersion := r.postureVersion + 1, assessedAt := now }

theorem applyFinding_cases {agentId : String} {vocabulary : List String}
    (h : p.Anchored agentId vocabulary w) (hf : f.agentId = agentId) (hpos : 0 < f.evidenceSequence)
    {r : Except ProjectionError Bool} (hr : p.applyFinding now f = (q, r)) :
    (∃ b, r = .ok b) ∧
    ((q = p ∧ f.evidenceSequence ≤ p.lastAppliedSequence) ∨
      (q = p.goStale now) ∨
      (q = p.advance now f ∧ f.evidenceSequence = p.lastAppliedSequence + 1 ∧
        postBaseline agentId w f = true)) := by
  unfold applyFinding at hr
  rw [if_neg (by rw [hf, h.agent]; simp), if_neg (by simp only [unassignedSequence]; omega)] at hr
  split at hr
  · rename_i hb
    cases hr
    exact ⟨⟨_, rfl⟩, .inl ⟨rfl, hb.trans h.cursor⟩⟩
  · rename_i hb
    split at hr
    · rename_i hl
      cases hr
      exact ⟨⟨_, rfl⟩, .inl ⟨rfl, hl⟩⟩
    · rename_i hl
      split at hr
      · cases hr
        exact ⟨⟨_, rfl⟩, .inr (.inl rfl)⟩
      · rename_i hat
        split at hr
        · cases hr
          exact ⟨⟨_, rfl⟩, .inr (.inl rfl)⟩
        · rename_i hgap
          have hinv : ({ p with lastAppliedSequence := f.evidenceSequence } :
              AgentRiskAggregate).cursorInvariant = true := by
            simp only [cursorInvariant, decide_eq_true_eq]
            omega
          simp only [hinv, Bool.not_true, Bool.false_eq_true, if_false] at hr
          cases hr
          refine ⟨⟨_, rfl⟩, .inr (.inr ⟨rfl, by omega, ?_⟩)⟩
          have hseq : w.baselineEvidenceSequence < f.evidenceSequence := by
            rw [← h.baselineSequence]
            omega
          rw [h.baselineAt] at hat
          simp [postBaseline, hf, hseq, hat]

theorem advance_anchored {agentId : String} {vocabulary : List String}
    (h : p.Anchored agentId vocabulary w) (hf : f.evidenceSequence = p.lastAppliedSequence + 1) :
    (p.advance now f).Anchored agentId vocabulary w := by
  have hc := h.cursor
  unfold advance
  simp only
  split
  · rw [contribute_eq]
    refine ⟨h.agent, h.vocabulary, h.baselineAt, h.baselineSequence, ?_⟩
    simp only [recalculateScoreAndLevel, withTally]
    omega
  · refine ⟨h.agent, h.vocabulary, h.baselineAt, h.baselineSequence, ?_⟩
    simp only
    omega

theorem advance_summarises {post : List Finding} (h : p.Summarises w post)
    (hlt : ∀ g ∈ post, g.evidenceSequence < f.evidenceSequence) (hpos : 0 < f.evidenceSequence) :
    (p.advance now f).Summarises w (post ++ [f]) := by
  have hcursor := cursorOf_snoc (w := w) hlt hpos
  unfold advance
  simp only
  split
  · rw [contribute_eq]
    refine ⟨?_, rfl, rfl, hcursor.symm⟩
    have : (p.tally).add p.ruleVocabulary f = Tally.ofFindings p.ruleVocabulary (post ++ [f]) := by
      rw [Tally.ofFindings_snoc, h.tally]
    exact this
  · rename_i hinactive
    refine ⟨?_, h.score, h.level, hcursor.symm⟩
    have : p.tally = Tally.ofFindings p.ruleVocabulary (post ++ [f]) := by
      rw [Tally.ofFindings_snoc, ← h.tally]
      simp [Tally.add, hinactive]
    exact this

theorem advance_state (p : AgentRiskAggregate) (now : Instant) (f : Finding) :
    (p.advance now f).state = p.state := by
  unfold advance
  simp only
  split
  · rw [contribute_eq]
    rfl
  · rfl

end AgentRiskAggregate

end AgentSecurityPlatform
