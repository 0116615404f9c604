import AgentSecurityPlatform.Crossings.Detector
import AgentSecurityPlatform.Runtime.History

namespace AgentSecurityPlatform

namespace FindingsService

variable {s s' : FindingsService} {now : Instant} {k : Nat} {batch : List Finding}

-- what a write cut after k new findings leaves behind
structure Cut (s s' : FindingsService) (now : Instant) (k : Nat) (agentId : String)
    (added : List Finding) : Prop where
  values : s'.findings.values = s.findings.values ++ added
  length : added.length = k
  agent : ∀ f ∈ added, f.agentId = agentId
  stamped : ∀ f ∈ added, f.recordedAt = some now
  later : ∀ f ∈ added, s.getAgentSequence agentId < f.evidenceSequence

theorem recordNewUntil_cut {agentId : String} (h : s.recordNewUntil now k batch = (s', none))
    (hagent : ∀ f ∈ batch, f.agentId = agentId) : ∃ added, Cut s s' now k agentId added := by
  induction batch generalizing s k with
  | nil => cases h
  | cons f fs ih =>
    have hrest : ∀ g ∈ fs, g.agentId = agentId := fun g hg => hagent g (List.mem_cons_of_mem f hg)
    simp only [recordNewUntil] at h
    split at h
    · exact ih h hrest
    · rename_i hc
      have hnone : s.findings.get? f.findingId = none := by
        simpa [Dict.contains_eq_false_iff] using hc
      have hf := hagent f (by simp)
      cases k with
      | zero =>
        cases h
        exact ⟨[], by simp [nextSequenceForAgent], rfl, by simp, by simp, by simp⟩
      | succ k =>
        simp only [recordFindingLocked_absent hnone] at h
        obtain ⟨hs, hr⟩ := Prod.mk.inj h
        have hcut : (s.insertNew now f).recordNewUntil now k fs = (s', none) :=
          Prod.ext hs (Option.map_eq_none_iff.mp hr)
        obtain ⟨added, hadded⟩ := ih hcut hrest
        have hseq : (s.insertNew now f).getAgentSequence agentId =
          s.getAgentSequence agentId + 1 := by
          rw [getAgentSequence_insertNew, if_pos hf]
        refine ⟨s.assign now f :: added, ?_, ?_, ?_, ?_, ?_⟩
        · rw [hadded.values, values_insertNew hnone]
          simp
        · simp [hadded.length]
        · intro g hg
          rcases List.mem_cons.mp hg with rfl | hg
          · exact hf
          · exact hadded.agent g hg
        · intro g hg
          rcases List.mem_cons.mp hg with rfl | hg
          · rfl
          · exact hadded.stamped g hg
        · intro g hg
          rcases List.mem_cons.mp hg with rfl | hg
          · simp only [assign, hf]
            omega
          · have := hadded.later g hg
            omega

end FindingsService

theorem detectExcessiveDenials_agentId {h : Hashing} {windowSeconds now evaluationTime : Instant}
    {events : List SessionEvent} {priors : List Finding} {generation : Nat} {agentId : String}
    (hagent : ∀ e ∈ events, e.agentId = agentId) {f : Finding}
    (hf : f ∈ detectExcessiveDenials h windowSeconds now events evaluationTime priors generation) :
    f.agentId = agentId := by
  rw [detectExcessiveDenials_agent hagent] at hf
  simp only [denialFinding, Option.mem_toList] at hf
  split at hf
  · cases hf
  · split at hf
    · cases hf
      rfl
    · cases hf

namespace World

variable {d : Deployment} {t : Tick} {ticks : List Tick} {n : Nat} {w₀ w w' : World}
  {r : ExecuteRequest} {e e' : ExecuteThread}

structure Unrecorded (w₀ w : World) : Prop where
  agents : w.agents = w₀.agents
  findings : w.findings = w₀.findings
  aggregator : w.aggregator = w₀.aggregator

structure CutWrite (w₀ w : World) (agentId : String) (t : Tick) (k : Nat) (added : List Finding) :
    Prop where
  fault : t.evidenceFault = some k
  agents : w.agents = w₀.agents
  aggregator : w.aggregator = w₀.aggregator
  cut : FindingsService.Cut w₀.findings w.findings t.wall k agentId added

def LeftCut (w₀ : World) (r : ExecuteRequest) (ticks : List Tick) (w : World) : Prop :=
  ∃ t k added, ticks[6]? = some t ∧ CutWrite w₀ w r.agentId t k added

def Writing (w₀ : World) (r : ExecuteRequest) (ticks : List Tick) (n : Nat) (w : World) :
    ExecuteThread → Prop
  | .start q => n = 0 ∧ q = r ∧ Unrecorded w₀ w
  | .bound s => n = 1 ∧ s.request = r ∧ Unrecorded w₀ w
  | .authorized s => n = 2 ∧ s.request = r ∧ Unrecorded w₀ w
  | .captured s => n = 3 ∧ s.request = r ∧ Unrecorded w₀ w
  | .recorded s => n = 4 ∧ s.request = r ∧ Unrecorded w₀ w
  | .observed s => n = 5 ∧ s.request = r ∧ Unrecorded w₀ w ∧
      (∀ f ∈ s.contentFindings, f.agentId = r.agentId) ∧
      ∀ x ∈ s.eligibleEvents, x.agentId = r.agentId
  | .detected s => n = 6 ∧ s.request = r ∧ Unrecorded w₀ w ∧ ∀ f ∈ s.batch, f.agentId = r.agentId
  | .refusing _ reason _ => reason = .evidenceRecordingFailed → LeftCut w₀ r ticks w
  | .refused _ reason _ => reason = .evidenceRecordingFailed → LeftCut w₀ r ticks w
  | .returned result => result.refusalReason = some .evidenceRecordingFailed → LeftCut w₀ r ticks w
  | _ => True

theorem LeftCut.congr (h : LeftCut w₀ r ticks w) (hagents : w'.agents = w.agents)
    (hfindings : w'.findings = w.findings) (haggregator : w'.aggregator = w.aggregator) :
    LeftCut w₀ r ticks w' := by
  obtain ⟨t, k, added, ht, hc⟩ := h
  exact ⟨t, k, added, ht, hc.fault, hagents.trans hc.agents, haggregator.trans hc.aggregator,
    hfindings ▸ hc.cut⟩

theorem writing_observe {s : Recorded} (hs : s.request = r) (hw : Unrecorded w₀ w) :
    Writing w₀ r ticks 5 w (w.observe d t s) := by
  simp only [observe]
  split
  · trivial
  · rename_i context hc
    split
    · intro h
      cases h
    · refine ⟨rfl, hs, hw, ?_, ?_⟩
      · intro f hf
        rw [(detectionEngine_isContent hf).2.2]
        simp only [DetectionContext.construct] at hc
        split at hc
        · cases hc
          exact congrArg ExecuteRequest.agentId hs
        · cases hc
      · intro x hx
        have hmem := (List.perm_insertionSort _ _).subset hx
        simp only [List.mem_filter, SessionRepository.eligible, Bool.and_eq_true,
          decide_eq_true_eq] at hmem
        rw [hmem.2.1.1.1.1, Recorded.horizonQuery, hs]

theorem writing_accept {s : Detected} (ht : ticks[6]? = some t)
    (hw : Unrecorded w₀ w) (hbatch : ∀ f ∈ s.batch, f.agentId = r.agentId) :
    Writing w₀ r ticks 7 (w.acceptEvidence t s).1 (w.acceptEvidence t s).2 := by
  simp only [acceptEvidence]
  split
  · trivial
  · rename_i k hk
    split
    · trivial
    · rename_i stored hcut
      intro _
      obtain ⟨added, hadded⟩ := FindingsService.recordNewUntil_cut hcut hbatch
      exact ⟨t, k, added, ht, hk, hw.agents, hw.aggregator, hw.findings ▸ hadded⟩

theorem writing_step {m : Nat} (ht : ticks[m]? = some t) (hI : Writing w₀ r ticks m w e)
    (h : w.execute d t e = some (w', e')) : Writing w₀ r ticks (m + 1) w' e' := by
  cases e with
  | start q =>
    obtain ⟨rfl, rfl, hw⟩ := hI
    simp only [execute, Option.some.injEq, bindSession] at h
    split at h
    · cases h
      exact ⟨rfl, (d.prepare_spec q).1, hw.agents, hw.findings, hw.aggregator⟩
    · cases h
      split <;> trivial
  | bound s =>
    obtain ⟨rfl, hs, hw⟩ := hI
    cases h
    exact ⟨rfl, hs, hw⟩
  | bindingRefused s =>
    cases h
    intro hr
    cases hr
  | authorized s =>
    obtain ⟨rfl, hs, hw⟩ := hI
    cases h
    exact ⟨rfl, hs, hw⟩
  | captured s =>
    obtain ⟨rfl, hs, hw⟩ := hI
    simp only [execute, Option.some.injEq, recordEvent] at h
    split at h
    · cases h
      exact ⟨rfl, hs, hw.agents, hw.findings, hw.aggregator⟩
    · cases h
      trivial
  | recorded s =>
    obtain ⟨rfl, hs, hw⟩ := hI
    simp only [execute, Option.some.injEq, Prod.mk.injEq] at h
    obtain ⟨rfl, rfl⟩ := h
    exact writing_observe hs hw
  | observed s =>
    obtain ⟨rfl, hs, hw, hcontent, hevents⟩ := hI
    cases h
    refine ⟨rfl, hs, hw, ?_⟩
    intro f hf
    rcases List.mem_append.mp hf with hf | hf
    · exact hcontent f hf
    · exact detectExcessiveDenials_agentId hevents hf
  | detected s =>
    obtain ⟨rfl, -, hw, hbatch⟩ := hI
    have hnext := writing_accept ht hw hbatch
    rw [Option.some.inj h] at hnext
    exact hnext
  | accepted s =>
    simp only [execute, Option.some.injEq, Prod.mk.injEq, rate] at h
    obtain ⟨-, rfl⟩ := h
    split <;> trivial
  | rated s =>
    simp only [execute, Option.some.injEq, assess] at h
    split at h
    · cases h
      intro hr
      cases hr
    · cases h
      trivial
  | assessed s =>
    simp only [execute, Option.some.injEq] at h
    have hd := decide_decides d t w s
    rw [h] at hd
    cases hd <;> trivial
  | decided s =>
    simp only [execute, Option.some.injEq, finalize] at h
    split at h <;> cases h <;> trivial
  | finalized s =>
    simp only [execute] at h
    split at h
    · cases h
      trivial
    · cases h
      intro hr
      cases hr
  | withdrawn s =>
    simp only [execute, Option.some.injEq, contain] at h
    split at h <;> cases h <;> trivial
  | contained s =>
    cases h
    intro hr
    cases hr
  | refusing s reason findings =>
    simp only [execute, Option.some.injEq, finalizeRefusedEvent] at h
    split at h
    · cases h
      exact fun hr => (hI hr).congr rfl rfl rfl
    · cases h
      trivial
  | refused s reason findings =>
    cases h
    exact fun hr => (hI (Option.some.inj hr)).congr rfl rfl rfl
  | returned result => cases h
  | raised err => cases h

-- the tick at which an undisturbed call records its evidence
def recordingStep : Fin callLength := ⟨6, by decide⟩

theorem call_leftCut {ticks : Fin callLength → Tick} {result : RuntimeResult}
    (hcall : w.call d ticks r = (w', .returned result))
    (href : result.refusalReason = some .evidenceRecordingFailed) :
    ∃ k added, CutWrite w w' r.agentId (ticks recordingStep) k added := by
  have hrun := alone_indexed (J := Writing w r (List.ofFn ticks)) (d := d) (List.ofFn ticks) 0
    (fun m u v f v' f' hu hv hf => by
      rw [Nat.zero_add] at hv ⊢
      exact writing_step hu hv hf)
    (show Writing w r (List.ofFn ticks) 0 w (.start r) from ⟨rfl, rfl, rfl, rfl, rfl⟩)
  obtain ⟨m, hm⟩ := hrun
  rw [call] at hcall
  rw [hcall] at hm
  obtain ⟨t, k, added, ht, hcut⟩ := hm href
  have h6 : (List.ofFn ticks)[6]? = some (ticks recordingStep) := by
    simp [callLength]
    rfl
  rw [h6] at ht
  cases ht
  exact ⟨k, added, hcut⟩

def ShowsStored (w : World) (now : Instant) (agentId : String) : Prop :=
  ∃ posture, w.aggregator.getPosture now agentId = .ok posture ∧
    (posture.state ≠ .healthy ∨ MatchesRebuild posture (w.fromScratch now agentId))

theorem postBaseline_added {agentId : String} {k : Nat} {added : List Finding}
    (hst : w.Structural) (hcut : CutWrite w w' agentId t k added) :
    added.filter (AgentRiskAggregate.postBaseline agentId (w.persistedBaseline agentId)) =
      if (w.persistedBaseline agentId).baselineAt.any (fun b => t.wall ≤ b) then [] else added := by
  have hpost : ∀ f ∈ added, AgentRiskAggregate.postBaseline agentId
    (w.persistedBaseline agentId) f =
      !(w.persistedBaseline agentId).baselineAt.any (fun b => t.wall ≤ b) := by
    intro f hf
    have hlater := hcut.cut.later f hf
    have hbase := hst.baseline agentId
    have hobserved : f.observedAt = t.wall := by
      simp [Finding.observedAt, hcut.cut.stamped f hf]
    have hseq : (w.persistedBaseline agentId).baselineEvidenceSequence < f.evidenceSequence := by
      omega
    simp [AgentRiskAggregate.postBaseline, hcut.cut.agent f hf, hseq, hobserved]
  rw [List.filter_congr hpost]
  cases (w.persistedBaseline agentId).baselineAt.any (fun b => t.wall ≤ b) <;> simp

theorem postBaselineOf_cut {agentId : String} {k : Nat} {added : List Finding}
    (hcut : CutWrite w w' agentId t k added) :
    w'.persistedBaseline agentId = w.persistedBaseline agentId ∧
    w'.postBaselineOf agentId = w.postBaselineOf agentId ++
      added.filter (AgentRiskAggregate.postBaseline agentId (w.persistedBaseline agentId)) := by
  have hbase : w'.persistedBaseline agentId = w.persistedBaseline agentId := by
    simp only [persistedBaseline, hcut.agents]
  refine ⟨hbase, ?_⟩
  have hall : added.filter (fun f => f.agentId = agentId) = added := by
    rw [List.filter_eq_self]
    intro f hf
    simp [hcut.cut.agent f hf]
  simp only [postBaselineOf, hbase, FindingsService.ofAgent, hcut.cut.values, List.filter_append,
    hall]

theorem cursor_added {agentId : String} {k : Nat} {added : List Finding} (hst : w.Structural)
    (hcut : CutWrite w w' agentId t k added) (hne : added ≠ []) :
    AgentRiskAggregate.cursorOf (w.persistedBaseline agentId) (w.postBaselineOf agentId) <
      AgentRiskAggregate.cursorOf (w.persistedBaseline agentId)
        (w.postBaselineOf agentId ++ added) := by
  obtain ⟨f, hf⟩ := List.exists_mem_of_ne_nil _ hne
  have hlater := hcut.cut.later f hf
  have hbase := hst.baseline agentId
  have hold : AgentRiskAggregate.cursorOf (w.persistedBaseline agentId) (w.postBaselineOf agentId) <
      f.evidenceSequence := by
    apply AgentRiskAggregate.cursorOf_lt (by omega)
    intro g hg
    obtain ⟨hstored, hagent⟩ := List.mem_filter.mp (List.mem_filter.mp hg).1
    have hpos := (hst.sequenced.positioned g hstored).2
    rw [show g.agentId = agentId by simpa using hagent] at hpos
    omega
  refine hold.trans_le ?_
  have hmem : f.evidenceSequence ∈ (w.postBaselineOf agentId ++ added).map (·.evidenceSequence) :=
    List.mem_map.mpr ⟨f, List.mem_append_right _ hf, rfl⟩
  simp only [AgentRiskAggregate.cursorOf, List.append_eq_nil_iff, hne, and_false, if_false]
  exact (AgentRiskAggregate.foldl_max_ge _ 0).2 _ hmem

theorem partial_write_shown_iff {w : World} (hst : w.Structural) (hproj : w.Projected)
    {ticks : Fin callLength → Tick} {result : RuntimeResult}
    (hcall : w.call d ticks r = (w', .returned result))
    (href : result.refusalReason = some .evidenceRecordingFailed) (now : Instant) :
    w'.ShowsStored now r.agentId ↔
      (∀ posture, w.aggregator.getPosture now r.agentId = .ok posture → posture.state ≠ .healthy) ∨
      (ticks recordingStep).evidenceFault = some 0 ∨
      (w.persistedBaseline r.agentId).baselineAt.any
        (fun b => (ticks recordingStep).wall ≤ b) = true := by
  obtain ⟨k, added, hcut⟩ := call_leftCut hcall href
  obtain ⟨hbase, hpost⟩ := postBaselineOf_cut hcut
  rw [postBaseline_added hst hcut] at hpost
  have hposture : w'.aggregator.getPosture now r.agentId =
    w.aggregator.getPosture now r.agentId := by
    rw [hcut.aggregator]
  rw [ShowsStored, hposture, hcut.fault, Option.some.injEq, ← hcut.cut.length,
    List.length_eq_zero_iff]
  cases hp : w.aggregator.projections.get? r.agentId with
  | none =>
    simp [RiskAggregator.getPosture, hp, RiskAggregator.uninitializedPosture]
  | some p =>
    have hanch := hst.anchored r.agentId p hp
    have hget : w.aggregator.getPosture now r.agentId = p.snapshot := by
      simp [RiskAggregator.getPosture, hp]
    rw [hget]
    cases hhealthy : (p.state = .healthy : Bool) with
    | false =>
      have hne : p.state ≠ .healthy := by simpa using hhealthy
      rw [hanch.snapshot]
      simp [hne]
    | true =>
      have hs : p.state = .healthy := by simpa using hhealthy
      have hsum := hproj r.agentId p hp hs
      have hg : w'.agents.Grounded := hcut.agents ▸ hst.grounded
      obtain ⟨hscratch, hvoc⟩ := fromScratch_of_grounded hg now r.agentId
      rw [hbase, hpost] at hscratch
      have hvoc' : (w'.fromScratch now r.agentId).ruleVocabulary = p.ruleVocabulary := by
        rw [hvoc, hcut.aggregator, hanch.vocabulary]
      constructor
      · rintro ⟨posture, hget, hor⟩
        have hposture := hget
        rw [hanch.snapshot] at hposture
        cases hposture
        rcases hor with hne | hmatch
        · exact absurd hs hne
        · by_contra hcon
          rw [not_or, not_or, Bool.not_eq_true] at hcon
          obtain ⟨-, hadded, hlate⟩ := hcon
          have hcursor : p.lastAppliedSequence =
              (w'.fromScratch now r.agentId).lastAppliedSequence := hmatch.lastAppliedSequence
          rw [hsum.cursor, hscratch.cursor, hlate] at hcursor
          exact absurd hcursor (ne_of_lt (cursor_added hst hcut hadded))
      · rintro (hne | hcase)
        · exact absurd hs (hne _ hanch.snapshot)
        · refine ⟨_, hanch.snapshot, .inr ?_⟩
          apply matchesRebuild_of_summarises hsum _ hvoc' hanch.snapshot
          rcases hcase with hnil | hearly
          · simpa [hnil] using hscratch
          · simpa [hearly] using hscratch

end World

def sampleAssessment : List PostureStep :=
  [World.sampleStep 1 (.register { World.sampleAgent with approvedTools := ["ticket_read"] }
     systemRegistrationActor),
   World.sampleStep 2 (.activate "agent-1" systemRegistrationActor),
   World.sampleStep 3 (.assess "agent-1")]

def sampleAssessed : World := World.sampleStores.postures sampleAssessment

-- a call whose evidence write raises once k new findings are stored
def faultyTick (k : Nat) (n : Nat) : Tick := { sampleTick n with evidenceFault := some k }

namespace World

theorem sampleAssessed_projected : sampleAssessed.Structural ∧ sampleAssessed.Projected := by
  apply projected_run ⟨rfl, rfl, rfl⟩
  · constructor
    · decide
    · decide
  · intro s hs a
    simp only [sampleAssessment, List.mem_cons, List.not_mem_nil, or_false] at hs
    rcases hs with rfl | rfl | rfl <;> simp [sampleStep]

theorem partial_write_shown_sample :
    ∃ w' result, sampleAssessed.call sampleDeployment (fun i => faultyTick 0 i) sampleHijack =
        (w', .returned result) ∧
      result.refusalReason = some .evidenceRecordingFailed ∧ w'.ShowsStored 40 "agent-1" := by
  have hcall : (sampleAssessed.call sampleDeployment (fun i => faultyTick 0 i)
      sampleHijack).2.result.any (·.refusalReason = some .evidenceRecordingFailed) = true := by
    decide +kernel
  obtain ⟨result, hr, href⟩ := (Option.any_eq_true _ _).mp hcall
  have hc : sampleAssessed.call sampleDeployment (fun i => faultyTick 0 i) sampleHijack =
      (_, .returned result) := Prod.ext rfl (ExecuteThread.eq_returned hr)
  have href' : result.refusalReason = some .evidenceRecordingFailed := by simpa using href
  exact ⟨_, result, hc, href', (partial_write_shown_iff sampleAssessed_projected.1
    sampleAssessed_projected.2 hc href' 40).mpr (.inr (.inl rfl))⟩

theorem partial_write_hidden :
    sampleAssessed.Structural ∧ sampleAssessed.Projected ∧
    ∃ w' result, sampleAssessed.call sampleDeployment (fun i => faultyTick 1 i) sampleHijack =
        (w', .returned result) ∧
      result.refusalReason = some .evidenceRecordingFailed ∧ ¬ w'.ShowsStored 40 "agent-1" := by
  refine ⟨sampleAssessed_projected.1, sampleAssessed_projected.2, ?_⟩
  have hcall : (sampleAssessed.call sampleDeployment (fun i => faultyTick 1 i)
      sampleHijack).2.result.any (·.refusalReason = some .evidenceRecordingFailed) = true := by
    decide +kernel
  obtain ⟨result, hr, href⟩ := (Option.any_eq_true _ _).mp hcall
  refine ⟨_, result, Prod.ext rfl (ExecuteThread.eq_returned hr), by simpa using href, ?_⟩
  have hstate : let w' := (sampleAssessed.call sampleDeployment (fun i => faultyTick 1 i)
      sampleHijack).1
      (w'.aggregator.getPosture 40 "agent-1").toOption.all (fun p => p.state = .healthy &&
        p.findingCount ≠ (w'.fromScratch 40 "agent-1").findingCount) = true := by
    decide +kernel
  rintro ⟨posture, hget, hor⟩
  simp only [hget, Except.toOption, Option.all_some, Bool.and_eq_true, decide_eq_true_eq] at hstate
  rcases hor with hne | hmatch
  · exact hne hstate.1
  · exact hstate.2 hmatch.findingCount

end World

end AgentSecurityPlatform
