import AgentSecurityPlatform.Crossings.Detector
import AgentSecurityPlatform.Runtime.History

namespace AgentSecurityPlatform

namespace FindingsService

variable {s s' : FindingsService} {now : Instant} {k : Nat} {batch : List Finding}
  {r : Option (List Finding)}

def Stamps (batch : List Finding) (f : Finding) : Prop :=
  ∃ g ∈ batch, ∃ n t, f = { g with evidenceSequence := n, recordedAt := some t }

structure Extends (s s' : FindingsService) (batch : List Finding) : Prop where
  kept : ∀ i f, s.findings.get? i = some f → s'.findings.get? i = some f
  added : ∀ i f, s'.findings.get? i = some f → s.findings.get? i = some f ∨
    s.findings.get? i = none ∧ f.findingId = i ∧ Stamps batch f
  values : ∃ added, s'.findings.values = s.findings.values ++ added ∧
    ∀ f ∈ added, s.findings.get? f.findingId = none ∧ Stamps batch f

theorem Stamps.mono {f g : Finding} (h : Stamps batch f) : Stamps (g :: batch) f := by
  obtain ⟨b, hb, hf⟩ := h
  exact ⟨b, List.mem_cons_of_mem g hb, hf⟩

theorem Extends.of_eq (h : s'.findings = s.findings) : Extends s s' batch :=
  ⟨fun _ _ hf => h ▸ hf, fun _ _ hf => .inl (h ▸ hf), [], by simp [h], by simp⟩

theorem Extends.mono {f : Finding} (h : Extends s s' batch) : Extends s s' (f :: batch) := by
  refine ⟨h.kept, ?_, ?_⟩
  · intro i g hg
    rcases h.added i g hg with hold | ⟨hnone, hid, hst⟩
    · exact .inl hold
    · exact .inr ⟨hnone, hid, hst.mono⟩
  · obtain ⟨added, hv, ha⟩ := h.values
    exact ⟨added, hv, fun g hg => ⟨(ha g hg).1, (ha g hg).2.mono⟩⟩

theorem Extends.insertNew {f : Finding} (h : Extends (s.insertNew now f) s' batch)
    (hnone : s.findings.get? f.findingId = none) : Extends s s' (f :: batch) := by
  have hget : ∀ i, (s.insertNew now f).findings.get? i =
      if f.findingId = i then some (s.assign now f) else s.findings.get? i := by
    intro i
    simp [FindingsService.insertNew, Dict.get?_set]
  have hassign : Stamps (f :: batch) (s.assign now f) := ⟨f, by simp, _, _, rfl⟩
  refine ⟨?_, ?_, ?_⟩
  · intro i g hg
    apply h.kept
    rw [hget]
    split
    · rename_i hi
      rw [← hi, hnone] at hg
      cases hg
    · exact hg
  · intro i g hg
    rcases h.added i g hg with hold | ⟨habsent, hid, hst⟩
    · rw [hget] at hold
      split at hold
      · rename_i hi
        cases hold
        exact .inr ⟨hi ▸ hnone, hi, hassign⟩
      · exact .inl hold
    · rw [hget] at habsent
      split at habsent
      · cases habsent
      · exact .inr ⟨habsent, hid, hst.mono⟩
  · obtain ⟨added, hv, ha⟩ := h.values
    refine ⟨s.assign now f :: added, by rw [hv, values_insertNew hnone]; simp, ?_⟩
    intro g hg
    rcases List.mem_cons.mp hg with rfl | hg
    · exact ⟨hnone, hassign⟩
    · obtain ⟨habsent, hst⟩ := ha g hg
      rw [hget] at habsent
      split at habsent
      · cases habsent
      · exact ⟨habsent, hst.mono⟩

theorem recordNewUntil_extends (h : s.recordNewUntil now k batch = (s', r)) :
    Extends s s' batch := by
  induction batch generalizing s k r with
  | nil =>
    cases h
    exact .of_eq rfl
  | cons f fs ih =>
    simp only [recordNewUntil] at h
    split at h
    · exact (ih h).mono
    · rename_i hc
      have hnone : s.findings.get? f.findingId = none := by
        simpa [Dict.contains_eq_false_iff] using hc
      cases k with
      | zero =>
        cases h
        exact .of_eq rfl
      | succ k =>
        simp only [recordFindingLocked_absent hnone] at h
        obtain ⟨rfl, -⟩ := Prod.mk.inj h
        exact (ih Prod.mk.eta.symm).insertNew hnone

theorem recordNewUntil_holds {findings : List Finding}
    (h : s.recordNewUntil now k batch = (s', some findings)) {f : Finding} (hf : f ∈ batch) :
    ∃ g, s'.findings.get? f.findingId = some g := by
  induction batch generalizing s k findings with
  | nil => cases hf
  | cons b fs ih =>
    have hext := recordNewUntil_extends h
    simp only [recordNewUntil] at h
    split at h
    · rename_i hc
      rcases List.mem_cons.mp hf with rfl | hf
      · obtain ⟨g, hg⟩ := Option.isSome_iff_exists.mp hc
        exact ⟨g, hext.kept _ g hg⟩
      · exact ih h hf
    · rename_i hc
      have hnone : s.findings.get? b.findingId = none := by
        simpa [Dict.contains_eq_false_iff] using hc
      cases k with
      | zero => cases h
      | succ k =>
        simp only [recordFindingLocked_absent hnone] at h
        obtain ⟨hs, hr⟩ := Prod.mk.inj h
        obtain ⟨rest, hrest, -⟩ := Option.map_eq_some_iff.mp hr
        have hrun : (s.insertNew now b).recordNewUntil now k fs = (s', some rest) :=
          Prod.ext hs hrest
        rcases List.mem_cons.mp hf with rfl | hf
        · have hnew : (s.insertNew now f).findings.get? f.findingId = some (s.assign now f) := by
            simp [FindingsService.insertNew]
          exact ⟨_, (recordNewUntil_extends hrun).kept _ _ hnew⟩
        · exact ih hrun hf

theorem recordNewUntil_enough (hk : batch.length ≤ k) :
    s.recordNewUntil now k batch =
      ((s.recordNewFindings now batch).1, some (s.recordNewFindings now batch).2) := by
  induction batch generalizing s k with
  | nil => rfl
  | cons f fs ih =>
    simp only [List.length_cons] at hk
    simp only [recordNewUntil, recordNewFindings]
    split
    · exact ih (by omega)
    · cases k with
      | zero => omega
      | succ k =>
        simp only [ih (Nat.le_of_succ_le_succ hk), Option.map_some]

end FindingsService

theorem Finding.IsCrossing.stamped {h : Hashing} {f : Finding} (hf : f.IsCrossing h) (n : Nat)
    (t : Option Instant) : { f with evidenceSequence := n, recordedAt := t }.IsCrossing h :=
  ⟨hf.rule, hf.identity, hf.evidence⟩

theorem SessionRepository.mem_listEligibleEvents {sessions : SessionRepository} {q : HorizonQuery}
    {e : SessionEvent} (he : e ∈ sessions.listEligibleEvents q) :
    e ∈ sessions.events ∧ e.agentId = q.agentId ∧ 0 < e.agentSequence := by
  have hmem := (List.perm_insertionSort _ _).subset he
  simp only [List.mem_filter, eligible, Bool.and_eq_true, decide_eq_true_eq] at hmem
  obtain ⟨hevents, ⟨⟨⟨hagent, -⟩, hseq⟩, -⟩, -⟩ := hmem
  exact ⟨hevents, hagent, Nat.zero_lt_of_lt hseq⟩

end AgentSecurityPlatform
