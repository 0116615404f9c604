import AgentSecurityPlatform.Evidence.Findings

namespace AgentSecurityPlatform

namespace FindingsService

variable {s s' : FindingsService} {f : Finding} {now : Instant}

structure Sequenced (s : FindingsService) : Prop where
  keyed : ∀ k f, s.findings.get? k = some f → f.findingId = k
  positioned : ∀ f ∈ s.findings.values, 0 < f.evidenceSequence ∧
    f.evidenceSequence ≤ s.getAgentSequence f.agentId
  recorded : ∀ f ∈ s.findings.values, ∃ t, f.recordedAt = some t ∧
    s.recordedAt.get? f.findingId = some t
  increasing : ∀ agentId, (s.ofAgent agentId).Pairwise
    (fun f g => f.evidenceSequence < g.evidenceSequence)

theorem sequenced_empty : empty.Sequenced :=
  ⟨by simp [empty], by simp [empty, Dict.values, Dict.empty],
    by simp [empty, Dict.values, Dict.empty], by simp [empty, ofAgent, Dict.values, Dict.empty]⟩

def assign (s : FindingsService) (now : Instant) (f : Finding) : Finding :=
  { f with
    evidenceSequence := s.getAgentSequence f.agentId + 1
    recordedAt := some now }

def insertNew (s : FindingsService) (now : Instant) (f : Finding) : FindingsService :=
  { findings := s.findings.set f.findingId (s.assign now f)
    recordedAt := s.recordedAt.set f.findingId now
    agentSequences := s.agentSequences.set f.agentId (s.getAgentSequence f.agentId + 1) }

theorem recordFindingLocked_absent (h : s.findings.get? f.findingId = none) (now : Instant) :
    s.recordFindingLocked f now = (s.insertNew now f, s.assign now f) := by
  simp only [recordFindingLocked, h]
  rfl

theorem values_insertNew (h : s.findings.get? f.findingId = none) (now : Instant) :
    (s.insertNew now f).findings.values = s.findings.values ++ [s.assign now f] :=
  Dict.values_set_of_absent s.findings f.findingId _ h

theorem ofAgent_insertNew (h : s.findings.get? f.findingId = none) (now : Instant)
    (agentId : String) : (s.insertNew now f).ofAgent agentId =
      s.ofAgent agentId ++ if f.agentId = agentId then [s.assign now f] else [] := by
  simp only [ofAgent, values_insertNew h, List.filter_append]
  by_cases hf : f.agentId = agentId <;> simp [assign, hf]

theorem getAgentSequence_insertNew (s : FindingsService) (now : Instant) (f : Finding)
    (agentId : String) : (s.insertNew now f).getAgentSequence agentId =
      if f.agentId = agentId then s.getAgentSequence agentId + 1
        else s.getAgentSequence agentId := by
  simp only [getAgentSequence, insertNew, Dict.getD_set]
  split
  · rename_i h
    rw [h]
  · rfl

theorem Sequenced.ne_of_absent (hs : s.Sequenced) (h : s.findings.get? f.findingId = none)
    {g : Finding} (hg : g ∈ s.findings.values) : g.findingId ≠ f.findingId := by
  intro he
  obtain ⟨k, hk⟩ := (Dict.mem_values_iff _ _).mp hg
  have := hs.keyed k g hk
  rw [← this, he, h] at hk
  cases hk

theorem Sequenced.insertNew (hs : s.Sequenced) (h : s.findings.get? f.findingId = none)
    (now : Instant) : (s.insertNew now f).Sequenced := by
  refine ⟨?_, ?_, ?_, ?_⟩
  · intro k g hg
    simp only [FindingsService.insertNew, Dict.get?_set] at hg
    split at hg
    · rename_i hk
      cases hg
      exact hk
    · exact hs.keyed k g hg
  · intro g hg
    rw [values_insertNew h] at hg
    rw [getAgentSequence_insertNew]
    rcases List.mem_append.mp hg with hg | hg
    · have := hs.positioned g hg
      split <;> omega
    · rw [List.mem_singleton.mp hg]
      simp [assign]
  · intro g hg
    rw [values_insertNew h] at hg
    simp only [FindingsService.insertNew, Dict.get?_set]
    rcases List.mem_append.mp hg with hg | hg
    · obtain ⟨t, ht, hr⟩ := hs.recorded g hg
      have hne : ¬ f.findingId = g.findingId := fun he => hs.ne_of_absent h hg he.symm
      exact ⟨t, ht, by simp [hne, hr]⟩
    · rw [List.mem_singleton.mp hg]
      exact ⟨now, rfl, by simp [assign]⟩
  · intro agentId
    rw [ofAgent_insertNew h]
    split
    · rename_i hf
      refine List.pairwise_append.mpr ⟨hs.increasing agentId, by simp, ?_⟩
      intro g hg d hd
      rw [List.mem_singleton.mp hd]
      simp only [ofAgent, List.mem_filter, decide_eq_true_eq] at hg
      have := (hs.positioned g hg.1).2
      simp only [assign, hf]
      rw [hg.2] at this
      omega
    · simpa using hs.increasing agentId

structure Records (s s' : FindingsService) (now : Instant) (recorded : List Finding) : Prop where
  sequenced : s'.Sequenced
  stored : ∀ agentId, s'.ofAgent agentId =
    s.ofAgent agentId ++ recorded.filter (fun f => f.agentId = agentId)
  values : s'.findings.values = s.findings.values ++ recorded
  stamped : ∀ f ∈ recorded, f.recordedAt = some now
  numbered : ∀ agentId, (recorded.filter (fun f => f.agentId = agentId)).map
    (·.evidenceSequence) = (List.range' (s.getAgentSequence agentId + 1)
      (recorded.filter (fun f => f.agentId = agentId)).length)
  counter : ∀ agentId, s'.getAgentSequence agentId =
    s.getAgentSequence agentId + (recorded.filter (fun f => f.agentId = agentId)).length

theorem recordNewFindings_records (hs : s.Sequenced) (now : Instant) (batch : List Finding) :
    Records s (s.recordNewFindings now batch).1 now (s.recordNewFindings now batch).2 := by
  induction batch generalizing s with
  | nil => exact ⟨hs, by simp [recordNewFindings], by simp [recordNewFindings],
      by simp [recordNewFindings], by simp [recordNewFindings], by simp [recordNewFindings]⟩
  | cons f fs ih =>
    simp only [recordNewFindings]
    split
    · exact ih hs
    · rename_i hc
      have h : s.findings.get? f.findingId = none := by
        simpa [Dict.contains_eq_false_iff] using hc
      rw [recordFindingLocked_absent h]
      obtain ⟨h1, h2, h3, h4, h5, h6⟩ := ih (hs.insertNew h now)
      refine ⟨h1, ?_, ?_, ?_, ?_, ?_⟩
      · intro agentId
        rw [h2, ofAgent_insertNew h, List.filter_cons]
        by_cases hf : f.agentId = agentId <;> simp [assign, hf]
      · rw [h3, values_insertNew h]
        simp
      · intro g hg
        rcases List.mem_cons.mp hg with rfl | hg
        · rfl
        · exact h4 g hg
      · intro agentId
        have := h5 agentId
        rw [getAgentSequence_insertNew] at this
        by_cases hf : f.agentId = agentId
        · simp only [List.filter_cons, assign, hf, decide_true, if_true, List.map_cons,
            List.length_cons, List.range'_succ, List.cons.injEq, true_and]
          simpa [hf, assign] using this
        · simpa [List.filter_cons, assign, hf] using this
      · intro agentId
        have := h6 agentId
        rw [getAgentSequence_insertNew] at this
        by_cases hf : f.agentId = agentId
        · simp only [hf, if_true] at this
          simp only [List.filter_cons, assign, hf, decide_true, if_true, List.length_cons]
          omega
        · simpa [List.filter_cons, assign, hf] using this

end FindingsService

end AgentSecurityPlatform
