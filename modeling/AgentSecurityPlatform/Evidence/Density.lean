import AgentSecurityPlatform.Evidence.Sequences
import AgentSecurityPlatform.Library.Refinement

namespace AgentSecurityPlatform

namespace FindingsService

def acceptedAt (s : FindingsService) (f : Finding) : Instant :=
  s.recordedAt.getD f.findingId f.createdAt

def bootstrapOrder (s : FindingsService) (findings : List Finding) : List Finding :=
  findings.insertionSort (fun f g => s.acceptedAt f < s.acceptedAt g ∨
    (s.acceptedAt f = s.acceptedAt g ∧ (f.createdAt < g.createdAt ∨
      (f.createdAt = g.createdAt ∧ f.findingId ≤ g.findingId))))

def bootstrapUnassigned (s : FindingsService) (maxSeq : Nat) : List Finding → FindingsService × Nat
  | [] => (s, maxSeq)
  | f :: fs =>
    let updated := { f with
      evidenceSequence := maxSeq + 1
      recordedAt := some (s.acceptedAt f) }
    bootstrapUnassigned { s with findings := s.findings.set f.findingId updated } (maxSeq + 1) fs

def bootstrapAgent (s : FindingsService) (agentId : String) (agentFindings : List Finding) :
    FindingsService :=
  let assignedSeqs := (agentFindings.map (·.evidenceSequence)).filter (unassignedSequence < ·)
  let unassigned := agentFindings.filter (fun f => f.evidenceSequence = unassignedSequence)
  let (s', maxSeq) := s.bootstrapUnassigned (assignedSeqs.foldl max 0)
    (s.bootstrapOrder unassigned)
  { s' with agentSequences := s'.agentSequences.set agentId maxSeq }

def bootstrapAgents (s : FindingsService) : List (String × List Finding) → FindingsService
  | [] => s
  | (agentId, agentFindings) :: rest =>
    (s.bootstrapAgent agentId agentFindings).bootstrapAgents rest

def bootstrapSequences (s : FindingsService) : FindingsService :=
  s.bootstrapAgents ((s.findings.values.map (·.agentId)).eraseDups.map
    (fun agentId => (agentId, s.ofAgent agentId)))

end FindingsService

inductive FindingsCall where
  | recordFinding (now : Instant) (finding : Finding)
  | recordFindings (now : Instant) (findings : List Finding)
  | recordNewFindings (now : Instant) (findings : List Finding)
  | bootstrapSequences

namespace FindingsCall

def answer (s : FindingsService) : FindingsCall → FindingsService × List Finding
  | .recordFinding now finding =>
    let (s', assigned) := s.recordFindingLocked finding now
    (s', [assigned])
  | .recordFindings now findings => s.recordFindings now findings
  | .recordNewFindings now findings => s.recordNewFindings now findings
  | .bootstrapSequences => (s.bootstrapSequences, [])

def KeepsAgents (now : Instant) : FindingsService → List Finding → Prop
  | _, [] => True
  | s, f :: fs => (∀ g, s.findings.get? f.findingId = some g → g.agentId = f.agentId) ∧
      KeepsAgents now (s.recordFindingLocked f now).1 fs

def KeepsAgent (s : FindingsService) : FindingsCall → Prop
  | .recordFinding now finding => KeepsAgents now s [finding]
  | .recordFindings now findings => KeepsAgents now s findings
  | .recordNewFindings _ _ => True
  | .bootstrapSequences => True

end FindingsCall

namespace FindingsService

variable {s s' : FindingsService} {f g : Finding} {now : Instant}

structure Dense (s : FindingsService) : Prop where
  keyed : ∀ i f, s.findings.get? i = some f → f.findingId = i
  recorded : ∀ i f, s.findings.get? i = some f → f.recordedAt.isSome = true ∧
    s.recordedAt.get? i = f.recordedAt
  unrecorded : ∀ i, s.findings.get? i = none → s.recordedAt.get? i = none
  numbered : ∀ a, (s.ofAgent a).map (·.evidenceSequence) = List.range' 1 (s.ofAgent a).length
  counter : ∀ a, s.getAgentSequence a = (s.ofAgent a).length

structure Persists (s s' : FindingsService) : Prop where
  kept : ∀ i f, s.findings.get? i = some f → ∃ g, s'.findings.get? i = some g ∧
    g.agentId = f.agentId ∧ g.evidenceSequence = f.evidenceSequence ∧ g.recordedAt = f.recordedAt
  stamped : ∀ i t, s.recordedAt.get? i = some t → s'.recordedAt.get? i = some t

theorem Persists.refl (s : FindingsService) : Persists s s :=
  ⟨fun _ f h => ⟨f, h, rfl, rfl, rfl⟩, fun _ _ h => h⟩

theorem Persists.trans {u : FindingsService} (h : Persists s s') (h' : Persists s' u) :
    Persists s u := by
  refine ⟨?_, fun i t ht => h'.stamped i t (h.stamped i t ht)⟩
  intro i f hf
  obtain ⟨g, hg, ha, hs, hr⟩ := h.kept i f hf
  obtain ⟨k, hk, ha', hs', hr'⟩ := h'.kept i g hg
  exact ⟨k, hk, ha'.trans ha, hs'.trans hs, hr'.trans hr⟩

theorem dense_empty : empty.Dense :=
  ⟨by simp [empty], by simp [empty], by simp [empty],
    by simp [empty, ofAgent, Dict.values, Dict.empty], fun _ => rfl⟩

theorem Dense.insertNew (h : s.Dense) (hnone : s.findings.get? f.findingId = none) (now : Instant) :
    (s.insertNew now f).Dense := by
  have hget : ∀ i, (s.insertNew now f).findings.get? i =
      if f.findingId = i then some (s.assign now f) else s.findings.get? i := by
    intro i
    simp [FindingsService.insertNew]
  refine ⟨?_, ?_, ?_, ?_, ?_⟩
  · intro i k hk
    rw [hget] at hk
    split at hk
    · rename_i hi
      cases hk
      exact hi
    · exact h.keyed i k hk
  · intro i k hk
    rw [hget] at hk
    simp only [FindingsService.insertNew, Dict.get?_set]
    split at hk
    · rename_i hi
      cases hk
      exact ⟨rfl, if_pos hi⟩
    · rename_i hi
      rw [if_neg hi]
      exact h.recorded i k hk
  · intro i hi
    rw [hget] at hi
    split at hi
    · cases hi
    · rename_i hne
      simp only [FindingsService.insertNew, Dict.get?_set, if_neg hne]
      exact h.unrecorded i hi
  · intro a
    rw [ofAgent_insertNew hnone]
    split
    · rename_i ha
      have hseq : (s.assign now f).evidenceSequence = (s.ofAgent a).length + 1 := by
        simp only [assign, ha, h.counter]
      rw [List.map_append, h.numbered, List.map_singleton, hseq, List.length_append,
        List.length_singleton, List.range'_concat]
      simp [Nat.add_comm]
    · simpa using h.numbered a
  · intro a
    rw [getAgentSequence_insertNew, ofAgent_insertNew hnone, h.counter]
    split <;> simp

theorem Dense.persists_insertNew (h : s.Dense) (hnone : s.findings.get? f.findingId = none)
    (now : Instant) : Persists s (s.insertNew now f) := by
  have hrec := h.unrecorded _ hnone
  refine ⟨?_, ?_⟩
  · intro i g hg
    refine ⟨g, ?_, rfl, rfl, rfl⟩
    simp only [FindingsService.insertNew, Dict.get?_set]
    split
    · rename_i hi
      rw [← hi, hnone] at hg
      cases hg
    · exact hg
  · intro i t ht
    simp only [FindingsService.insertNew, Dict.get?_set]
    split
    · rename_i hi
      rw [← hi, hrec] at ht
      cases ht
    · exact ht

-- a finding recorded again keeps what the store assigned to it the first time
def reassign (f g : Finding) : Finding :=
  { f with evidenceSequence := g.evidenceSequence, recordedAt := g.recordedAt }

def restore (s : FindingsService) (f g : Finding) : FindingsService :=
  { s with findings := s.findings.set f.findingId (reassign f g) }

theorem Dense.positive (h : s.Dense) {i : String} (hg : s.findings.get? i = some g) :
    0 < g.evidenceSequence := by
  have hmem : g ∈ s.ofAgent g.agentId :=
    List.mem_filter.mpr ⟨(Dict.mem_values_iff _ _).mpr ⟨i, hg⟩, by simp⟩
  have hseq : g.evidenceSequence ∈ (s.ofAgent g.agentId).map (·.evidenceSequence) :=
    List.mem_map.mpr ⟨g, hmem, rfl⟩
  rw [h.numbered, List.mem_range'_1] at hseq
  omega

theorem recordFindingLocked_present (h : s.Dense) (hg : s.findings.get? f.findingId = some g)
    (now : Instant) : s.recordFindingLocked f now =
      (s.restore f g, reassign f g) := by
  have hpos : g.evidenceSequence > unassignedSequence := h.positive hg
  obtain ⟨hsome, hrec⟩ := h.recorded _ g hg
  have hid := h.keyed _ g hg
  obtain ⟨t, ht⟩ := Option.isSome_iff_exists.mp hsome
  rw [ht] at hrec
  have hcontains : s.recordedAt.contains f.findingId = true := by
    simp [Dict.contains, hrec]
  simp [recordFindingLocked, hg, hpos, hid, Dict.getD, hrec, hcontains, restore, reassign, ht]

theorem ofAgent_restore (hg : s.findings.get? f.findingId = some g)
    (hagent : g.agentId = f.agentId) (a : String) :
    ((s.restore f g).ofAgent a).map (·.evidenceSequence) =
        (s.ofAgent a).map (·.evidenceSequence) := by
  obtain ⟨before, after, hold, hnew⟩ :=
    s.findings.entries_set_of_present f.findingId (reassign f g) hg
  have hid : (reassign f g).agentId = g.agentId := hagent.symm
  have hseq : (reassign f g).evidenceSequence = g.evidenceSequence := rfl
  simp only [ofAgent, restore, Dict.values, hold, hnew, List.map_append, List.map_cons,
    List.filter_append, List.filter_cons, hid]
  split
  · simp only [List.map_cons, hseq]
  · rfl

theorem Dense.restore (h : s.Dense) (hg : s.findings.get? f.findingId = some g)
    (hagent : g.agentId = f.agentId) : (s.restore f g).Dense ∧ Persists s (s.restore f g) := by
  have hget : ∀ i, (s.restore f g).findings.get? i =
      if f.findingId = i then some (reassign f g) else s.findings.get? i := by
    intro i
    simp [FindingsService.restore]
  have hseqs := ofAgent_restore hg hagent
  have hlen : ∀ a, ((s.restore f g).ofAgent a).length = (s.ofAgent a).length := by
    intro a
    simpa using congrArg List.length (hseqs a)
  refine ⟨⟨?_, ?_, ?_, ?_, ?_⟩, ?_, fun i t ht => ht⟩
  · intro i k hk
    rw [hget] at hk
    split at hk
    · rename_i hi
      cases hk
      exact hi
    · exact h.keyed i k hk
  · intro i k hk
    rw [hget] at hk
    split at hk
    · rename_i hi
      cases hk
      rw [← hi]
      exact h.recorded _ g hg
    · exact h.recorded i k hk
  · intro i hi
    rw [hget] at hi
    split at hi
    · cases hi
    · exact h.unrecorded i hi
  · intro a
    rw [hseqs, hlen]
    exact h.numbered a
  · intro a
    rw [hlen]
    exact h.counter a
  · intro i k hk
    rw [hget]
    split
    · rename_i hi
      rw [← hi, hg] at hk
      cases hk
      exact ⟨_, rfl, hagent.symm, rfl, rfl⟩
    · exact ⟨k, hk, rfl, rfl, rfl⟩

theorem Dense.recordFindingLocked (h : s.Dense) (now : Instant)
    (hagent : ∀ g, s.findings.get? f.findingId = some g → g.agentId = f.agentId) :
    (s.recordFindingLocked f now).1.Dense ∧ Persists s (s.recordFindingLocked f now).1 := by
  cases hg : s.findings.get? f.findingId with
  | none =>
    rw [recordFindingLocked_absent hg]
    exact ⟨h.insertNew hg now, h.persists_insertNew hg now⟩
  | some g =>
    rw [recordFindingLocked_present h hg]
    exact h.restore hg (hagent g hg)

theorem Dense.recordFindings (h : s.Dense) (now : Instant) {fs : List Finding}
    (hagents : FindingsCall.KeepsAgents now s fs) :
    (s.recordFindings now fs).1.Dense ∧ Persists s (s.recordFindings now fs).1 := by
  induction fs generalizing s with
  | nil => exact ⟨h, .refl s⟩
  | cons f fs ih =>
    obtain ⟨hd, hp⟩ := h.recordFindingLocked now hagents.1
    obtain ⟨hd', hp'⟩ := ih hd hagents.2
    exact ⟨hd', hp.trans hp'⟩

-- what record_new_findings does to the store and returns
structure RecordsNew (s s' : FindingsService) (returned : List Finding) : Prop where
  kept : ∀ i f, s.findings.get? i = some f → s'.findings.get? i = some f
  values : s'.findings.values = s.findings.values ++ returned

theorem Dense.recordNewFindings (h : s.Dense) (now : Instant) (fs : List Finding) :
    (s.recordNewFindings now fs).1.Dense ∧ Persists s (s.recordNewFindings now fs).1 ∧
      RecordsNew s (s.recordNewFindings now fs).1 (s.recordNewFindings now fs).2 := by
  induction fs generalizing s with
  | nil => exact ⟨h, .refl s, fun _ _ hf => hf, by simp [FindingsService.recordNewFindings]⟩
  | cons f fs ih =>
    simp only [FindingsService.recordNewFindings]
    split
    · exact ih h
    · rename_i hc
      have hnone : s.findings.get? f.findingId = none := by
        simpa [Dict.contains_eq_false_iff] using hc
      rw [recordFindingLocked_absent hnone]
      obtain ⟨hd, hp, hn⟩ := ih (h.insertNew hnone now)
      refine ⟨hd, (h.persists_insertNew hnone now).trans hp, ?_, ?_⟩
      · intro i g hg
        apply hn.kept
        simp only [FindingsService.insertNew, Dict.get?_set]
        split
        · rename_i hi
          rw [← hi, hnone] at hg
          cases hg
        · exact hg
      · rw [hn.values, values_insertNew hnone]
        simp

theorem range'_foldl_max (n : Nat) : (List.range' 1 n).foldl max 0 = n := by
  induction n with
  | zero => rfl
  | succ n ih =>
    rw [List.range'_concat, List.foldl_append, ih]
    simp
    omega

theorem Dense.bootstrapAgent (h : s.Dense) {a : String} (ha : s.ofAgent a ≠ []) :
    s.bootstrapAgent a (s.ofAgent a) = s := by
  have hpos : ∀ f ∈ s.ofAgent a, 0 < f.evidenceSequence := by
    intro f hf
    obtain ⟨i, hi⟩ := (Dict.mem_values_iff _ _).mp (List.mem_filter.mp hf).1
    exact h.positive hi
  have hnone : (s.ofAgent a).filter (fun f => f.evidenceSequence = unassignedSequence) = [] := by
    rw [List.filter_eq_nil_iff]
    intro f hf
    have hne := hpos f hf
    rw [decide_eq_true_eq]
    exact Nat.ne_of_gt hne
  have hall : ((s.ofAgent a).map (·.evidenceSequence)).filter (unassignedSequence < ·) =
      List.range' 1 (s.ofAgent a).length := by
    rw [h.numbered, List.filter_eq_self]
    intro n hn
    rw [List.mem_range'_1] at hn
    rw [decide_eq_true_eq]
    exact hn.1
  have hget : s.agentSequences.get? a = some (s.ofAgent a).length := by
    have hc := h.counter a
    have hlen := List.length_pos_iff.mpr ha
    simp only [getAgentSequence, Dict.getD] at hc
    cases hs : s.agentSequences.get? a with
    | none =>
      rw [hs] at hc
      simp only [Option.getD_none] at hc
      omega
    | some n =>
      rw [hs] at hc
      simpa using hc
  have hset : s.agentSequences.set a (s.ofAgent a).length = s.agentSequences := by
    obtain ⟨before, after, hold, hnew⟩ := s.agentSequences.entries_set_of_present a
      (s.ofAgent a).length hget
    exact Dict.ext_entries (hnew.trans hold.symm)
  simp only [FindingsService.bootstrapAgent, hnone, hall, range'_foldl_max, bootstrapOrder,
    List.insertionSort_nil, bootstrapUnassigned, hset]

theorem Dense.bootstrapSequences (h : s.Dense) : s.bootstrapSequences = s := by
  have hrun : ∀ as : List String, (∀ a ∈ as, s.ofAgent a ≠ []) →
      s.bootstrapAgents (as.map (fun a => (a, s.ofAgent a))) = s := by
    intro as has
    induction as with
    | nil => rfl
    | cons a as ih =>
      simp only [List.map_cons, bootstrapAgents, h.bootstrapAgent (has a (by simp))]
      exact ih (fun b hb => has b (List.mem_cons_of_mem a hb))
  apply hrun
  intro a ha
  obtain ⟨f, hf, rfl⟩ := List.mem_map.mp (List.mem_eraseDups.mp ha)
  exact List.ne_nil_of_mem (List.mem_filter.mpr ⟨hf, by simp⟩)

end FindingsService

namespace FindingsCall

variable {s : FindingsService}

theorem answer_dense (h : s.Dense) (c : FindingsCall) (hc : c.KeepsAgent s) :
    (answer s c).1.Dense ∧ FindingsService.Persists s (answer s c).1 := by
  cases c with
  | recordFinding now f => exact h.recordFindingLocked now hc.1
  | recordFindings now fs => exact h.recordFindings now hc
  | recordNewFindings now fs =>
    obtain ⟨hd, hp, -⟩ := h.recordNewFindings now fs
    exact ⟨hd, hp⟩
  | bootstrapSequences =>
    simp only [answer, h.bootstrapSequences]
    exact ⟨h, .refl s⟩

theorem final_dense {calls : List FindingsCall} (h : s.Dense)
    (hc : Run.Meets answer (fun s c => c.KeepsAgent s) s calls) :
    (Run.final answer s calls).Dense ∧ FindingsService.Persists s (Run.final answer s calls) := by
  induction calls generalizing s with
  | nil => exact ⟨h, .refl s⟩
  | cons c calls ih =>
    obtain ⟨hd, hp⟩ := answer_dense h c hc.1
    obtain ⟨hd', hp'⟩ := ih hd hc.2
    exact ⟨hd', hp.trans hp'⟩

theorem finding_sequences_dense_permanent (pre post : List FindingsCall)
    (hc : Run.Meets answer (fun s c => c.KeepsAgent s) .empty (pre ++ post)) :
    let s := Run.final answer .empty pre
    s.Dense ∧ FindingsService.Persists s (Run.final answer .empty (pre ++ post)) ∧
      (∀ now batch, FindingsService.RecordsNew s (s.recordNewFindings now batch).1
        (s.recordNewFindings now batch).2) ∧
      s.bootstrapSequences = s := by
  intro s
  obtain ⟨hpre, hpost⟩ := Run.meets_append.mp hc
  have hs : s.Dense := (final_dense FindingsService.dense_empty hpre).1
  refine ⟨hs, ?_, fun now batch => (hs.recordNewFindings now batch).2.2, hs.bootstrapSequences⟩
  rw [Run.final_append]
  exact (final_dense hs hpost).2

def sampleFinding (findingId : String) (createdAt : Instant) : Finding :=
  { findingId := findingId, sessionId := "session-1", agentId := "agent-1", ruleId := "rule",
    ruleName := "Rule", severity := .high, description := "sample", createdAt := createdAt,
    evidenceSequence := 9 }

def sampleCalls : List FindingsCall :=
  [.recordFinding 5 (sampleFinding "first" 1), .recordFinding 8 (sampleFinding "first" 2),
    .recordNewFindings 9 [sampleFinding "second" 3, sampleFinding "first" 4], .bootstrapSequences]

theorem finding_sequences_dense_sample :
    Run.Meets answer (fun s c => c.KeepsAgent s) .empty (sampleCalls ++ [.bootstrapSequences]) ∧
      (Run.final answer .empty sampleCalls).Dense ∧
      (Run.final answer .empty sampleCalls).getAgentSequence "agent-1" = 2 := by
  have hc : Run.Meets answer (fun s c => c.KeepsAgent s) .empty
      (sampleCalls ++ [.bootstrapSequences]) := by
    refine ⟨⟨?_, trivial⟩, ⟨?_, trivial⟩, trivial, trivial, trivial, trivial⟩
    · intro g hg
      cases hg
    · intro g hg
      cases hg
      rfl
  exact ⟨hc, (finding_sequences_dense_permanent sampleCalls [.bootstrapSequences] hc).1,
    by decide +kernel⟩

end FindingsCall

end AgentSecurityPlatform
