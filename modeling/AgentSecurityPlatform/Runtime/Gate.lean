import AgentSecurityPlatform.Authority.GrantLifecycle
import AgentSecurityPlatform.Lifecycle.AgentLifecycle
import AgentSecurityPlatform.Runtime.Platform

namespace AgentSecurityPlatform

namespace ExecutionAuthority

variable {σ : Signing} {a : ExecutionAuthority} {now : Instant} {uuid : String}

theorem closedPlanes_suspendIssuance (a : ExecutionAuthority) (agentId : String)
    (plane : IssuancePlane) (k : String) :
    (a.suspendIssuance agentId plane).1.issuanceClosedPlanes k =
      if agentId = k then insert plane (a.issuanceClosedPlanes k)
        else a.issuanceClosedPlanes k := by
  simp only [suspendIssuance, issuanceClosedPlanes, Dict.getD_set]
  split
  · rename_i h
    rw [h]
  · rfl

theorem closedPlanes_resumeIssuance (a : ExecutionAuthority) (agentId : String)
    (plane : IssuancePlane) (k : String) :
    (a.resumeIssuance agentId plane).issuanceClosedPlanes k =
      if agentId = k then (a.issuanceClosedPlanes k).erase plane else a.issuanceClosedPlanes k := by
  unfold resumeIssuance
  cases hc : a.issuanceClosed.get? agentId with
  | none =>
    by_cases hk : agentId = k
    · subst hk
      simp [issuanceClosedPlanes, Dict.getD, hc]
    · simp [hk]
  | some closed =>
    by_cases hk : agentId = k
    · subst hk
      by_cases he : closed.erase plane = ∅
      · simp [issuanceClosedPlanes, Dict.getD, hc, he]
      · simp [issuanceClosedPlanes, Dict.getD, hc, he]
    · by_cases he : closed.erase plane = ∅
      · simp [issuanceClosedPlanes, Dict.getD, he, hk]
      · simp [issuanceClosedPlanes, Dict.getD, he, hk]

theorem issue_issuanceClosed (a : ExecutionAuthority) (repository : Option EnforcementReader)
    (binding : ExecutionBinding) (decision : Decision) (agentId sessionId : String)
    (expectedEpoch : Option Nat) (profile digest : Option String) :
    (a.issue σ now uuid repository binding decision agentId sessionId expectedEpoch profile
      digest).1.issuanceClosed = a.issuanceClosed := by
  rcases issue_cases (Prod.mk.eta.symm : a.issue σ now uuid repository binding decision agentId
    sessionId expectedEpoch profile digest = _) with ⟨h, -⟩ | ⟨-, -, -, h, -⟩
  · rw [h]
  · rw [h]
    rfl

theorem claimGrant_issuanceClosed (a : ExecutionAuthority) (p : Presented)
    (requested : ExecutionBinding) :
    (a.claimGrant σ now p requested).1.issuanceClosed = a.issuanceClosed := by
  unfold claimGrant
  split
  · rfl
  · rename_i g _
    have hr := (requireClaimableLocked_outstanding (Prod.mk.eta.symm :
      a.requireClaimableLocked now g requested requested.toolId = _)).1
    have hclosed : (a.requireClaimableLocked now g requested requested.toolId).1.issuanceClosed =
        a.issuanceClosed := by
      rcases hr with h | h <;> rw [h] <;> rfl
    split <;> rename_i h <;> rw [h] at hclosed <;> exact hclosed

theorem issue_closed {repository : Option EnforcementReader} {binding : ExecutionBinding}
    {decision : Decision} {agentId sessionId : String} {expectedEpoch : Option Nat}
    {profile digest : Option String} {plane : IssuancePlane}
    (h : plane ∈ a.issuanceClosedPlanes agentId) :
    (a.issue σ now uuid repository binding decision agentId sessionId expectedEpoch profile
      digest).1 = a ∧ ∀ g, (a.issue σ now uuid repository binding decision agentId sessionId
        expectedEpoch profile digest).2 ≠ .ok (some g) := by
  rcases issue_cases (Prod.mk.eta.symm : a.issue σ now uuid repository binding decision agentId
    sessionId expectedEpoch profile digest = _) with h' | ⟨-, hopen, -⟩
  · exact h'
  · rw [hopen] at h
    simp at h

theorem issue_outstanding {repository : Option EnforcementReader} {binding : ExecutionBinding}
    {decision : Decision} {agentId sessionId : String} {expectedEpoch : Option Nat}
    {profile digest : Option String} {k : String} {o : OutstandingGrant}
    (h : (a.issue σ now uuid repository binding decision agentId sessionId expectedEpoch profile
      digest).1.outstanding.get? k = some o) :
    o.agentId = agentId ∨ a.outstanding.get? k = some o := by
  rcases issue_cases (Prod.mk.eta.symm : a.issue σ now uuid repository binding decision agentId
    sessionId expectedEpoch profile digest = _) with ⟨he, -⟩ | ⟨-, -, -, he, -⟩
  · rw [he] at h
    exact .inr h
  · rw [he] at h
    rcases createGrant_outstanding h with ⟨-, rfl⟩ | h
    · exact .inl rfl
    · exact .inr h

theorem issue_granted {repository : Option EnforcementReader} {binding : ExecutionBinding}
    {decision : Decision} {agentId sessionId : String} {expectedEpoch : Option Nat}
    {profile digest : Option String} {a' : ExecutionAuthority} {g : RuntimeExecutionGrant}
    (h : a.issue σ now uuid repository binding decision agentId sessionId expectedEpoch profile
      digest = (a', .ok (some g))) :
    decision = .allow ∧ a.issuanceClosedPlanes agentId = ∅ ∧
      epochMatches repository agentId expectedEpoch = .ok true ∧
      g.toGrantFields = a.newFields now uuid binding agentId sessionId profile digest := by
  rcases issue_cases h with ⟨-, hne⟩ | ⟨hd, hopen, he, -, hr⟩
  · exact absurd rfl (hne g)
  · refine ⟨hd, hopen, he, ?_⟩
    split at hr
    · rename_i g' hg
      cases hr
      exact (RuntimeExecutionGrant.construct_eq_some hg).1
    · cases hr

end ExecutionAuthority

def PlatformThread.withdrawing : PlatformThread → Option String
  | .execute (.withdrawn s) => some s.request.agentId
  | _ => none

def PlatformThread.resuming : PlatformThread → Option String
  | .reinstate (.reset agentId _) => some agentId
  | _ => none

namespace World

variable {d : Deployment} {t : Tick} {w w' : World} {e e' : ExecuteThread}

inductive Decides (d : Deployment) (t : Tick) (w : World) (s : Assessed) :
    World → ExecuteThread → Prop where
  | withheld (s' : Decided) (hs : s'.toAssessed = s) (hg : s'.authorization = none)
      (hr : s'.response = recommendForLevel t.wall s.posture.riskLevel s.request.sessionId
        s.request.agentId)
      (hf : s'.finalDecision = withhold (escalate s.event.decision s'.response.responseType)) :
      Decides d t w s w (.decided s')
  | granted (s' : Decided) (binding : ExecutionBinding) (profile digest : String)
      (authority : ExecutionAuthority) (grant : RuntimeExecutionGrant) (hs : s'.toAssessed = s)
      (hb : s.binding = some binding)
      (hc : d.capabilityBinding s.request.toolId = some (profile, digest))
      (hr : s'.response = recommendForLevel t.wall s.posture.riskLevel s.request.sessionId
        s.request.agentId)
      (hf : s'.finalDecision = escalate s.event.decision s'.response.responseType)
      (hi : w.issueGrant d t s binding s'.finalDecision profile digest =
        (authority, .ok (some grant)))
      (hg : s'.authorization = some grant) :
      Decides d t w s { w with authority } (.decided s')
  | failed (binding : ExecutionBinding) (profile digest : String) (authority : ExecutionAuthority)
      (error : IssueError)
      (hi : w.issueGrant d t s binding (escalate s.event.decision
        (responseTypes s.posture.riskLevel)) profile digest = (authority, .error error)) :
      Decides d t w s { w with authority } (.raised (.issue error))

theorem issueGrant_none {s : Assessed} {binding : ExecutionBinding} {decision : Decision}
    {profile digest : String} {authority : ExecutionAuthority}
    (h : w.issueGrant d t s binding decision profile digest = (authority, .ok none)) :
    authority = w.authority := by
  rcases ExecutionAuthority.issue_cases h with ⟨ha, -⟩ | ⟨-, -, -, -, hr⟩
  · exact ha
  · split at hr <;> cases hr

theorem decide_decides (d : Deployment) (t : Tick) (w : World) (s : Assessed) :
    Decides d t w s (w.decide d t s).1 (w.decide d t s).2 := by
  unfold decide
  simp only
  split
  · rename_i binding profile digest hb hc
    split
    · rename_i authority error hi
      exact .failed binding profile digest authority error hi
    · rename_i authority grant hi
      exact .granted _ binding profile digest authority grant rfl hb hc rfl rfl hi rfl
    · rename_i authority hi
      obtain rfl := issueGrant_none hi
      exact .withheld _ rfl rfl rfl rfl
  · exact .withheld _ rfl rfl rfl rfl

theorem Decides.issued {s : Assessed} {s' : Decided} {g : RuntimeExecutionGrant}
    (h : Decides d t w s w' (.decided s')) (hg : s'.authorization = some g) :
    s'.toAssessed = s ∧ s'.finalDecision = .allow ∧
    w.authority.issuanceClosedPlanes s.request.agentId = ∅ ∧
    ExecutionAuthority.epochMatches (some w.enforcementReader) s.request.agentId
      (some s.contextEpoch) = .ok true ∧
    ∃ binding profile digest, s.binding = some binding ∧
      d.capabilityBinding s.request.toolId = some (profile, digest) ∧
      g.toGrantFields = w.authority.newFields t.mono t.uuid binding s.request.agentId
        s.request.sessionId (some profile) (some digest) := by
  cases h with
  | withheld _ hs hnone =>
    rw [hnone] at hg
    cases hg
  | granted _ binding profile digest authority grant hs hb hc hr hf hi hgrant =>
    rw [hgrant] at hg
    cases hg
    obtain ⟨hallow, hopen, hepoch, hfields⟩ := ExecutionAuthority.issue_granted hi
    exact ⟨hs, hallow, hopen, hepoch, binding, profile, digest, hb, hc, hfields⟩

inductive GateEffect (d : Deployment) (t : Tick) (w : World) (e : ExecuteThread) (w' : World)
    (e' : ExecuteThread) : Prop where
  | quiet (hauth : w'.authority = w.authority) (hagents : w'.agents = w.agents)
      (hw : (PlatformThread.execute e').withdrawing = none)
  | decided (s : Assessed) (he : e = .assessed s) (hd : Decides d t w s w' e')
  | withdrew (s : Decided) (he : e = .finalized s) (hw : w' = w.withdraw s.request.agentId)
      (he' : e' = .withdrawn s)
  | contained (s : Decided) (he : e = .withdrawn s)
      (hauth : w'.authority = w.authority)
      (hagents : w'.agents = (w.agents.suspendAgent t.wall t.uuid s.request.agentId suspensionReason
        (some (suspensionTrigger s))).1)
      (hw : (PlatformThread.execute e').withdrawing = none)

structure EvidenceOnly (w w' : World) : Prop where
  agents : w'.agents = w.agents
  sessions : w'.sessions = w.sessions
  authority : w'.authority = w.authority
  audit : w'.audit = w.audit

theorem EvidenceOnly.refl (w : World) : EvidenceOnly w w := ⟨rfl, rfl, rfl, rfl⟩

theorem acceptEvidence_evidence (t : Tick) (w : World) (s : Detected) :
    EvidenceOnly w (w.acceptEvidence t s).1 ∧
    ((∃ findings, (w.acceptEvidence t s).2 = .accepted { s with findings }) ∨
      (w.acceptEvidence t s).2 = .refusing s.toRecorded .evidenceRecordingFailed []) := by
  unfold acceptEvidence
  split
  · exact ⟨⟨rfl, rfl, rfl, rfl⟩, .inl ⟨_, rfl⟩⟩
  · split
    · exact ⟨⟨rfl, rfl, rfl, rfl⟩, .inl ⟨_, rfl⟩⟩
    · exact ⟨⟨rfl, rfl, rfl, rfl⟩, .inr rfl⟩

theorem assessAgentPosture_evidence (w : World) (now : Instant) (agentId : String) :
    EvidenceOnly w (w.assessAgentPosture now agentId).1 := by
  unfold assessAgentPosture
  split
  · exact .refl w
  · split
    · exact .refl w
    · unfold reconcilePosture
      split <;> exact ⟨rfl, rfl, rfl, rfl⟩

theorem assess_evidence (t : Tick) (w : World) (s : Rated) :
    EvidenceOnly w (w.assess t s).1 ∧
    ((∃ posture, (w.assess t s).2 = .assessed { s with posture }) ∨
      (w.assess t s).2 = .refusing s.toRecorded .postureReconciliationFailed s.findings) := by
  have hw := w.assessAgentPosture_evidence t.wall s.request.agentId
  unfold assess
  split <;> rename_i h <;> rw [h] at hw
  · exact ⟨hw, .inr rfl⟩
  · exact ⟨hw, .inl ⟨_, rfl⟩⟩

theorem suspendAgent_eq {now : Instant} {uuid agentId reason : String}
    {trigger : Option EnforcementTrigger} {r : Except AgentServiceError Agent}
    (h : w.suspendAgent now uuid agentId reason trigger = (w', r)) :
    w' = { w with agents := (w.agents.suspendAgent now uuid agentId reason trigger).1 } ∧
      r = (w.agents.suspendAgent now uuid agentId reason trigger).2 := by
  unfold suspendAgent at h
  cases h
  exact ⟨rfl, rfl⟩

theorem execute_gate (h : w.execute d t e = some (w', e')) : GateEffect d t w e w' e' := by
  cases e with
  | start r =>
    simp only [execute, Option.some.injEq, bindSession] at h
    split at h
    · cases h
      exact .quiet rfl rfl rfl
    · cases h
      refine .quiet rfl rfl ?_
      split <;> rfl
  | bound s =>
    cases h
    exact .quiet rfl rfl rfl
  | bindingRefused s =>
    cases h
    exact .quiet rfl rfl rfl
  | authorized s =>
    cases h
    exact .quiet rfl rfl rfl
  | captured s =>
    simp only [execute, Option.some.injEq, recordEvent] at h
    split at h <;> cases h <;> exact .quiet rfl rfl rfl
  | recorded s =>
    simp only [execute, Option.some.injEq, Prod.mk.injEq] at h
    obtain ⟨rfl, rfl⟩ := h
    refine .quiet rfl rfl ?_
    unfold observe
    split
    · rfl
    · split <;> rfl
  | observed s =>
    cases h
    exact .quiet rfl rfl rfl
  | detected s =>
    simp only [execute, Option.some.injEq] at h
    obtain ⟨hw, he'⟩ := w.acceptEvidence_evidence t s
    rw [h] at hw he'
    refine .quiet hw.authority hw.agents ?_
    rcases he' with ⟨findings, rfl⟩ | rfl <;> rfl
  | accepted s =>
    simp only [execute, Option.some.injEq, Prod.mk.injEq] at h
    obtain ⟨rfl, rfl⟩ := h
    refine .quiet rfl rfl ?_
    unfold rate
    split <;> rfl
  | rated s =>
    simp only [execute, Option.some.injEq] at h
    obtain ⟨hw, he'⟩ := w.assess_evidence t s
    rw [h] at hw he'
    refine .quiet hw.authority hw.agents ?_
    rcases he' with ⟨posture, rfl⟩ | rfl <;> rfl
  | assessed s =>
    simp only [execute, Option.some.injEq] at h
    have hd := decide_decides d t w s
    rw [h] at hd
    exact .decided s rfl hd
  | decided s =>
    simp only [execute, Option.some.injEq, finalize] at h
    split at h <;> cases h <;> exact .quiet rfl rfl rfl
  | finalized s =>
    simp only [execute] at h
    split at h
    · cases h
      exact .withdrew s rfl rfl rfl
    · cases h
      exact .quiet rfl rfl rfl
  | withdrawn s =>
    simp only [execute, Option.some.injEq, contain] at h
    split at h <;> rename_i hs <;> obtain ⟨rfl, -⟩ := suspendAgent_eq hs <;> cases h <;>
      exact .contained s rfl rfl rfl rfl
  | contained s =>
    cases h
    exact .quiet rfl rfl rfl
  | refusing s reason findings =>
    simp only [execute, Option.some.injEq, finalizeRefusedEvent] at h
    split at h <;> cases h <;> exact .quiet rfl rfl rfl
  | refused s reason findings =>
    cases h
    exact .quiet rfl rfl rfl
  | returned r => cases h
  | raised e => cases h

end World

namespace ReinstateThread

variable {t : Tick} {p p' : Shared} {e e' : ReinstateThread}

inductive GateEffect (t : Tick) (p : Shared) (e : ReinstateThread) (p' : Shared) : Prop where
  | quiet (hauth : p'.world.authority = p.world.authority)
      (hagents : p'.world.agents = p.world.agents)
  | reinstated (agentId actor reason : String) (watermark : Option BaselineWatermark)
      (hauth : p'.world.authority = p.world.authority)
      (hagents : p'.world.agents = (p.world.agents.reinstateAgent t.wall t.uuid agentId actor reason
        watermark).1)
  | resumed (agentId : String) (agent : Agent) (he : e = .reset agentId agent)
      (hauth : p'.world.authority = p.world.authority.resumeIssuance agentId)
      (hagents : p'.world.agents = p.world.agents)

theorem step_gate (h : ReinstateThread.step t p e = some (p', e')) : GateEffect t p e p' := by
  cases e with
  | waiting agentId actor reason =>
    simp only [step] at h
    split at h
    · cases h
    · cases h
      exact .quiet rfl rfl
  | captured agentId actor reason baselineAt evidenceSequence =>
    cases h
    exact .quiet rfl rfl
  | composed agentId actor reason watermark =>
    simp only [step] at h
    split at h <;> rename_i hr <;> cases h <;>
      exact .reinstated agentId actor reason (some watermark) rfl (congrArg Prod.fst hr).symm
  | committed agentId watermark agent =>
    simp only [step] at h
    split at h <;> cases h <;> exact .quiet rfl rfl
  | reset agentId agent =>
    cases h
    exact .resumed agentId agent rfl rfl rfl
  | resumed agentId agent =>
    cases h
    exact .quiet rfl rfl
  | finished r => cases h

end ReinstateThread

namespace Platform

variable {d : Deployment} {t : Tick} {p p' : Shared} {e e' : PlatformThread}

inductive GateEffect (d : Deployment) (t : Tick) (p : Shared) (e : PlatformThread) (p' : Shared)
    (e' : PlatformThread) : Prop where
  | quiet (hauth : p'.world.authority = p.world.authority)
      (henf : p'.world.agents.enforcement = p.world.agents.enforcement)
      (hw : e'.withdrawing = none)
  | decided (s : Assessed) (c : ExecuteThread) (he : e = .execute (.assessed s))
      (he' : e' = .execute c) (hd : World.Decides d t p.world s p'.world c)
  | withdrew (s : Decided) (he : e = .execute (.finalized s))
      (hw : p'.world = p.world.withdraw s.request.agentId) (he' : e' = .execute (.withdrawn s))
  | suspended (agentId reason : String) (trigger : Option EnforcementTrigger)
      (he : e.withdrawing = some agentId ∨ e = .suspension agentId reason trigger)
      (hauth : p'.world.authority = p.world.authority)
      (hagents : p'.world.agents =
        (p.world.agents.suspendAgent t.wall t.uuid agentId reason trigger).1)
      (hw : e'.withdrawing = none)
  | reinstated (agentId actor reason : String) (watermark : Option BaselineWatermark)
      (hauth : p'.world.authority = p.world.authority)
      (hagents : p'.world.agents = (p.world.agents.reinstateAgent t.wall t.uuid agentId actor reason
        watermark).1)
      (hw : e'.withdrawing = none)
  | resumed (agentId : String) (he : e.resuming = some agentId)
      (hauth : p'.world.authority = p.world.authority.resumeIssuance agentId)
      (hagents : p'.world.agents = p.world.agents) (hw : e'.withdrawing = none)
  | claimed (hauth : p.world.authority.Shrinks p'.world.authority)
      (hclosed : p'.world.authority.issuanceClosed = p.world.authority.issuanceClosed)
      (hagents : p'.world.agents = p.world.agents) (hw : e'.withdrawing = none)

theorem Decides.agents {w w' : World} {s : Assessed} {c : ExecuteThread}
    (h : World.Decides d t w s w' c) :
    w'.agents = w.agents ∧ (PlatformThread.execute c).withdrawing = none := by
  cases h <;> exact ⟨rfl, rfl⟩

theorem step_execute {c : ExecuteThread} (h : step d t p (.execute c) = some (p', e')) :
    ∃ w' c', p.world.execute d t c = some (w', c') ∧ p' = { p with world := w' } ∧
      e' = .execute c' := by
  simp only [step] at h
  split at h
  · cases h
  · obtain ⟨⟨w', c'⟩, hr, he⟩ := Option.map_eq_some_iff.mp h
    cases he
    exact ⟨w', c', hr, rfl, rfl⟩

theorem step_gate (h : step d t p e = some (p', e')) : GateEffect d t p e p' e' := by
  cases e with
  | execute c =>
    obtain ⟨w', c', hr, rfl, rfl⟩ := step_execute h
    cases World.execute_gate hr with
    | quiet hauth hagents hw => exact .quiet hauth (by rw [hagents]) hw
    | decided s he hd => exact .decided s c' (by rw [he]) rfl hd
    | withdrew s he hw he' => exact .withdrew s (by rw [he]) hw (by rw [he'])
    | contained s he hauth hagents hw =>
      exact .suspended _ _ _ (.inl (by rw [he]; rfl)) hauth hagents hw
  | reinstate c =>
    simp only [step] at h
    obtain ⟨⟨q, c'⟩, hr, he⟩ := Option.map_eq_some_iff.mp h
    cases he
    cases ReinstateThread.step_gate hr with
    | quiet hauth hagents => exact .quiet hauth (by rw [hagents]) rfl
    | reinstated agentId actor reason watermark hauth hagents =>
      exact .reinstated agentId actor reason watermark hauth hagents rfl
    | resumed agentId agent he hauth hagents =>
      exact .resumed agentId (by rw [he]; rfl) hauth hagents rfl
  | disable agentId actor =>
    cases h
    exact .quiet rfl (p.world.agents.enterState_frame _ _ _ _ _ _ _ _).2 rfl
  | claim presented requested =>
    cases h
    exact .claimed (ExecutionAuthority.claimGrant_shrinks _ _)
      (ExecutionAuthority.claimGrant_issuanceClosed _ _ _) rfl rfl
  | suspension agentId reason trigger =>
    cases h
    exact .suspended agentId reason trigger (.inr rfl) rfl rfl rfl
  | recovery agentId actor reason watermark =>
    cases h
    exact .reinstated agentId actor reason watermark rfl rfl rfl
  | session c =>
    simp only [step] at h
    obtain ⟨r, -, he⟩ := Option.map_eq_some_iff.mp h
    cases he
    exact .quiet rfl rfl rfl
  | disabled agentId r => cases h
  | claimed r => cases h
  | transitioned r => cases h

theorem step_assessed {s : Assessed} (h : step d t p (.execute (.assessed s)) = some (p', e')) :
    ∃ c, e' = .execute c ∧ World.Decides d t p.world s p'.world c := by
  obtain ⟨w', c, hr, rfl, rfl⟩ := step_execute h
  have hd := World.decide_decides d t p.world s
  rw [Option.some.inj hr] at hd
  exact ⟨c, rfl, hd⟩

end Platform

end AgentSecurityPlatform
