import AgentSecurityPlatform.Scenario.Seclusion

namespace AgentSecurityPlatform

theorem levelForScore_critical (n : Nat) : levelForScore n = .critical ↔ 100 ≤ n := by
  unfold levelForScore
  split_ifs <;> simp <;> omega

namespace ExecutionAuthority

variable {σ : Signing} {a : ExecutionAuthority} {now : Instant} {uuid : String}
  {repository : EnforcementReader} {binding : ExecutionBinding} {decision : Decision}
  {agentId sessionId : String} {expectedEpoch : Option Nat} {profile digest : Option String}

theorem issue_authorityId :
    (a.issue σ now uuid (some repository) binding decision agentId sessionId expectedEpoch profile
      digest).1.authorityId = a.authorityId := by
  rcases issue_cases
    (Prod.mk.eta.symm : a.issue σ now uuid (some repository) binding decision agentId
    sessionId expectedEpoch profile digest = _) with ⟨ha, -⟩ | ⟨-, -, -, ha, -⟩
  · rw [ha]
  · rw [ha]
    rfl

theorem issue_total {state : Option AgentEnforcementState} (hread : repository agentId = .ok state)
    (hissuer : a.authorityId ≠ "") (hagent : agentId ≠ "") (hsession : sessionId ≠ "")
    (hsigned : ∀ payload, σ.hmac payload ≠ "") :
    ∃ g, (a.issue σ now uuid (some repository) binding decision agentId sessionId
      expectedEpoch profile digest).2 = .ok g := by
  have hgrant : ∃ g, (a.createGrant σ now uuid binding agentId sessionId profile digest).2 =
    some g := by
    have hid : "grant-" ++ uuid ≠ "" := by simp
    exact ⟨_, dif_pos ⟨hid, hissuer, hagent, hsession, hsigned _⟩⟩
  have hepoch : ∃ b, epochMatches (some repository) agentId expectedEpoch = .ok b := by
    cases expectedEpoch with
    | none => exact ⟨true, rfl⟩
    | some expected => exact ⟨_, by simp only [epochMatches, hread]; rfl⟩
  obtain ⟨g, hg⟩ := hgrant
  obtain ⟨b, hb⟩ := hepoch
  unfold issue
  split
  · exact ⟨none, rfl⟩
  · split
    · exact ⟨none, rfl⟩
    · rw [hb]
      cases b with
      | false => exact ⟨none, rfl⟩
      | true =>
        refine ⟨some g, ?_⟩
        simp only
        rw [← Prod.mk.eta (p := a.createGrant σ now uuid binding agentId sessionId profile digest),
          hg]

end ExecutionAuthority

namespace World

variable {d : Deployment} {t : Tick} {w₀ w w' : World} {r : ExecuteRequest} {e e' : ExecuteThread}
  {sessionId : String}

-- what one request adds to the stores of its pipeline
structure Grows (w₀ w : World) (toolId : String) (findings : List Finding) : Prop where
  recorded : w.recorded = w₀.recorded ++ findings
  tools : w.sessions.events.map (·.toolId) = w₀.sessions.events.map (·.toolId) ++ [toolId]

theorem Grows.congr {v : World} {toolId : String} {findings : List Finding}
    (h : Grows w₀ w toolId findings) (hf : v.findings = w.findings)
    (ht : v.sessions.events.map (·.toolId) = w.sessions.events.map (·.toolId)) :
    Grows w₀ v toolId findings :=
  ⟨(congrArg (·.findings.values) hf).trans h.recorded, ht.trans h.tools⟩

theorem recordedScore_congr {v : World} (hf : v.findings = w.findings) :
    v.recordedScore = w.recordedScore := by rw [recordedScore, recorded, hf]; rfl

theorem Rates.congr {v : World} {risk : RiskAssessment} (h : w.Rates risk)
    (hf : v.findings = w.findings) : v.Rates risk := by
  have hscore := recordedScore_congr hf
  exact ⟨h.score.trans hscore.symm, h.level.trans (congrArg levelForScore hscore.symm)⟩

theorem Grows.score_le {toolId : String} {findings : List Finding}
    (h : Grows w₀ w toolId findings) :
    w₀.recordedScore ≤ w.recordedScore := by
  simp [recordedScore, scoreFindings, h.recorded]

structure Weighed (w₀ : World) (r : ExecuteRequest) (w : World) (s : Assessed) : Prop where
  grows : Grows w₀ w r.toolId s.findings
  rates : w.Rates s.riskAssessment
  level : s.posture.riskLevel = w.recordedLevel
  session : s.event.sessionId = r.sessionId

theorem Weighed.congr {v : World} {s : Assessed} (h : Weighed w₀ r w s)
    (hf : v.findings = w.findings)
    (ht : v.sessions.events.map (·.toolId) = w.sessions.events.map (·.toolId)) :
    Weighed w₀ r v s :=
  ⟨h.grows.congr hf ht, h.rates.congr hf,
    h.level.trans (congrArg levelForScore (recordedScore_congr hf).symm), h.session⟩

-- a result read against the pipeline that returned it
structure Answers (sessionId : String) (w : World) (result : RuntimeResult) : Prop where
  session : result.event.sessionId = sessionId
  risk : ∃ a, result.riskAssessment = some a ∧ w.Rates a
  response : ∃ a, result.responseAction = some a ∧ a.responseType = responseTypes w.recordedLevel
  withheld : w.recordedLevel = .critical → result.event.finalDecision ≠ some .allow

def Replaying (w₀ : World) (r : ExecuteRequest) (w : World) : ExecuteThread → Prop
  | .start _ => True
  | .bound _ => ∃ s, w.sessions.sessions.get? r.sessionId = some s
  | .authorized _ => ∃ s, w.sessions.sessions.get? r.sessionId = some s
  | .captured _ => ∃ s, w.sessions.sessions.get? r.sessionId = some s
  | .recorded _ => Grows w₀ w r.toolId []
  | .observed s => Grows w₀ w r.toolId [] ∧ (∀ f ∈ s.contentFindings, f.InScenario r.sessionId) ∧
      ∀ x ∈ s.eligibleEvents, x.sessionId = r.sessionId ∧ x.agentId = scenarioAgentId
  | .detected s => Grows w₀ w r.toolId [] ∧ ∀ f ∈ s.batch, f.InScenario r.sessionId
  | .accepted s => Grows w₀ w r.toolId s.findings
  | .rated s => Grows w₀ w r.toolId s.findings ∧ w.Rates s.riskAssessment
  | .assessed s => Weighed w₀ r w s
  | .decided s => Weighed w₀ r w s.toAssessed
  | .finalized s => Weighed w₀ r w s.toAssessed
  | .withdrawn s => Weighed w₀ r w s.toAssessed
  | .contained s => Weighed w₀ r w s.toAssessed
  | .returned result => Grows w₀ w r.toolId result.findings ∧ Answers r.sessionId w result
  | _ => False

-- a request of a scenario, served where no store fails
structure Staged (d : Deployment) (r : ExecuteRequest) : Prop where
  agent : r.agentId = scenarioAgentId
  session : r.sessionId ≠ ""
  unpruned : d.retention = none
  signed : ∀ payload, d.signing.hmac payload ≠ ""

theorem replaying_start (w₀ : World) (t : Tick) (hr : Staged d r) (hw : w.Secluded r.sessionId) :
    (w.bindSession d t r).1.Secluded r.sessionId ∧
      Replaying w₀ r (w.bindSession d t r).1 (w.bindSession d t r).2 := by
  obtain ⟨sessions, s, hbind, hsessions, -, hbound⟩ := hw.sessions.bind t.wall
  rw [← hr.agent] at hbind
  simp only [bindSession, hbind]
  exact ⟨hw.congr rfl rfl rfl hsessions hw.issuer, hbound⟩

theorem replaying_record {s : Captured} (hr : Staged d r) (hw : w.Secluded r.sessionId)
    (hs : s.request = r) (hf : w.findings = w₀.findings)
    (he : w.sessions.events = w₀.sessions.events)
    (hbound : ∃ active, w.sessions.sessions.get? r.sessionId = some active) :
    (w.recordEvent d t s).1.Secluded r.sessionId ∧
      Replaying w₀ r (w.recordEvent d t s).1 (w.recordEvent d t s).2 := by
  subst hs
  obtain ⟨active, hactive⟩ := hbound
  obtain ⟨sessions, x, hrecord, hsessions, htools⟩ := hw.sessions.record hactive
    (e := { sessionId := s.request.sessionId, agentId := s.request.agentId,
            toolId := s.request.toolId, toolVersion := s.toolVersion, decision := s.decision,
            timestamp := t.wall }) rfl hr.agent rfl rfl
  simp only [recordEvent, hr.unpruned, hrecord]
  refine ⟨hw.congr rfl rfl rfl hsessions hw.issuer, ?_, by rw [htools, he]⟩
  rw [List.append_nil]
  exact congrArg (·.findings.values) hf

theorem replaying_observe {s : Recorded} (hr : Staged d r) (hw : w.Secluded r.sessionId)
    (ht : t.horizonFault = false) (hs : s.request = r) (hg : Grows w₀ w r.toolId []) :
    Replaying w₀ r w (w.observe d t s) := by
  subst hs
  have hne : s.request.sessionId ≠ "" ∧ s.request.agentId ≠ "" :=
    ⟨hr.session, by rw [hr.agent]; decide⟩
  simp only [observe, DetectionContext.construct, dif_pos hne, ht]
  refine ⟨hg, ?_, ?_⟩
  · intro f hf
    obtain ⟨-, hsession, hagent⟩ := detectionEngine_isContent hf
    exact ⟨hsession, hagent.trans hr.agent, detectionEngine_opened hf⟩
  · intro x hx
    obtain ⟨hmem, hagent, -⟩ := SessionRepository.mem_listEligibleEvents hx
    exact ⟨hw.sessions.events x hmem, hagent.trans hr.agent⟩

theorem replaying_accept {s : Detected} (hw : w.Secluded r.sessionId) (ht : t.evidenceFault = none)
    (hg : Grows w₀ w r.toolId []) (hbatch : ∀ f ∈ s.batch, f.InScenario r.sessionId) :
    (w.acceptEvidence t s).1.Secluded r.sessionId ∧
      Replaying w₀ r (w.acceptEvidence t s).1 (w.acceptEvidence t s).2 := by
  simp only [acceptEvidence, ht]
  obtain ⟨hsecluded, hrecorded⟩ := hw.accept t.wall s.request.agentId hbatch
  have hbefore : w.recorded = w₀.recorded := by rw [hg.recorded, List.append_nil]
  exact ⟨hsecluded, hrecorded.trans (by rw [hbefore]), hg.tools⟩

theorem replaying_rate {s : Accepted} (hr : Staged d r) (hw : w.Secluded r.sessionId)
    (hs : s.request = r) (hg : Grows w₀ w r.toolId s.findings) : Replaying w₀ r w (w.rate t s) := by
  subst hs
  obtain ⟨risk, hrisk, hrates⟩ := hw.assessSession t.wall rfl hr.agent
  simp only [rate, hrisk]
  exact ⟨hg, hrates⟩

theorem replaying_assess {s : Rated} (hr : Staged d r) (hw : w.Secluded r.sessionId)
    (hs : s.request = r) (hsession : s.event.sessionId = r.sessionId)
    (hg : Grows w₀ w r.toolId s.findings) (hrates : w.Rates s.riskAssessment) :
    (w.assess t s).1.Secluded r.sessionId ∧ Replaying w₀ r (w.assess t s).1 (w.assess t s).2 := by
  obtain ⟨posture, hposture⟩ := assessAgentPosture_some hw.structural t.wall scenarioAgentId
  obtain ⟨hsecluded, hfindings, hsessions⟩ := hw.assess t.wall
  have hanswer : w.assess t s =
      ((w.assessAgentPosture t.wall scenarioAgentId).1, .assessed { s with posture }) := by
    simp only [assess, hs, hr.agent]
    rw [← Prod.mk.eta (p := w.assessAgentPosture t.wall scenarioAgentId), hposture]
  rw [hanswer]
  refine ⟨hsecluded, hg.congr hfindings (by rw [hsessions]), hrates.congr hfindings, ?_, hsession⟩
  exact (hw.assessed hposture).trans
    (congrArg levelForScore (recordedScore_congr hfindings).symm)

theorem issueGrant_authorityId (d : Deployment) (t : Tick) (w : World) (s : Assessed)
    (binding : ExecutionBinding) (decision : Decision) (profile digest : String) :
    (w.issueGrant d t s binding decision profile digest).1.authorityId = w.authority.authorityId :=
  ExecutionAuthority.issue_authorityId

theorem issueGrant_total {s : Assessed} (hr : Staged d s.request)
    (hissuer : w.authority.authorityId ≠ "") (binding : ExecutionBinding) (decision : Decision)
    (profile digest : String) :
    ∃ g, (w.issueGrant d t s binding decision profile digest).2 = .ok g := by
  have hagent : s.request.agentId ≠ "" := by rw [hr.agent]; decide
  exact ExecutionAuthority.issue_total rfl hissuer hagent hr.session hr.signed

theorem replaying_decide {s : Assessed} (hr : Staged d r) (hw : w.Secluded r.sessionId)
    (hs : s.request = r) (h : Weighed w₀ r w s) :
    (w.decide d t s).1.Secluded r.sessionId ∧
      Replaying w₀ r (w.decide d t s).1 (w.decide d t s).2 := by
  subst hs
  have hd := decide_decides d t w s
  generalize w.decide d t s = out at hd
  obtain ⟨w', e⟩ := out
  cases hd with
  | withheld s' hs' =>
    subst hs'
    exact ⟨hw, h⟩
  | granted s' binding profile digest authority grant hs' hb hc hresp hf hi hg =>
    subst hs'
    have hissuer :=
      issueGrant_authorityId d t w s'.toAssessed binding s'.finalDecision profile digest
    rw [hi] at hissuer
    exact ⟨hw.congr rfl rfl rfl hw.sessions (hissuer ▸ hw.issuer), h.congr rfl rfl⟩
  | failed binding profile digest authority error hi =>
    obtain ⟨g, hg⟩ := issueGrant_total (t := t) hr hw.issuer binding
      (escalate s.event.decision (responseTypes s.posture.riskLevel)) profile digest
    rw [hi] at hg
    cases hg

theorem replaying_finalize {s : Decided} (hw : w.Secluded r.sessionId) (hs : s.request = r)
    (ht : InFlight d w₀ r w s.toRecorded) (h : Weighed w₀ r w s.toAssessed) :
    (w.finalize s).1.Secluded r.sessionId ∧ Replaying w₀ r (w.finalize s).1 (w.finalize s).2 := by
  obtain ⟨sessions, hupdate, hsessions, htools⟩ := hw.sessions.finalize ht.pending
    (by rw [ht.session]; exact ht.known) s.finalDecision
  rw [h.session, ← hs] at hupdate
  simp only [finalize, hupdate]
  refine ⟨hw.congr rfl rfl rfl hsessions hw.issuer, ?_⟩
  obtain ⟨hgrows, hrates, hlevel, hsession⟩ := h.congr (v := { w with sessions }) rfl htools
  exact ⟨hgrows, hrates, hlevel, hsession⟩

theorem contain_fst (t : Tick) (w : World) (s : Decided) :
    (w.contain t s).1 = (w.suspendAgent t.wall t.uuid s.request.agentId suspensionReason
      (some (suspensionTrigger s))).1 := by
  unfold contain
  split <;> rename_i hsuspend <;> rw [hsuspend]

theorem replaying_contain {s : Decided} (hw : w.Secluded r.sessionId)
    (hcontained : (w.contain t s).2 = .contained s) (h : Weighed w₀ r w s.toAssessed) :
    (w.contain t s).1.Secluded r.sessionId ∧
      Replaying w₀ r (w.contain t s).1 (w.contain t s).2 := by
  rw [hcontained, contain_fst]
  exact ⟨hw.suspend t.wall t.uuid _ _ _, h.congr rfl rfl⟩

theorem replaying_conclude {s : Decided} (hw : w.Secluded r.sessionId) (ht : Finalized d w₀ r w s)
    (h : Weighed w₀ r w s.toAssessed) :
    (w.conclude t s).1.Secluded r.sessionId ∧
      Replaying w₀ r (w.conclude t s).1 (w.conclude t s).2 := by
  have hresponse : s.response.responseType = responseTypes w.recordedLevel := by
    rw [ht.verdict.response, h.level]
  refine ⟨hw.congr rfl rfl rfl hw.sessions hw.issuer, h.grows.congr rfl rfl, h.session,
    ⟨_, rfl, h.rates.congr rfl⟩, ⟨_, rfl, hresponse⟩, ?_⟩
  intro hcritical hallow
  have hsuspend : s.response.responseType = .suspendAgent := by
    rw [hresponse, show w.recordedLevel = .critical from hcritical]
    rfl
  have hfinal : some (withhold s.event.decision) = some .allow := by
    rw [← ht.verdict.contained hsuspend, ← ht.final]
    exact hallow
  exact withhold_ne_allow _ (Option.some.inj hfinal)

theorem request_of_prepared {s : Prepared} (h : s = d.prepare r) : s.request = r := by
  rw [h, (d.prepare_spec r).1]

theorem replaying_step (hr : Staged d r) (ht : t.horizonFault = false) (hf : t.evidenceFault = none)
    (hw : w.Secluded r.sessionId) (htr : Tracks d w₀ r w e) (hI : Replaying w₀ r w e)
    (h : w.execute d t e = some (w', e')) : w'.Secluded r.sessionId ∧ Replaying w₀ r w' e' := by
  cases e with
  | start q =>
    obtain rfl := htr.1
    have hnext := replaying_start w₀ t hr hw
    rw [Option.some.inj h] at hnext
    exact hnext
  | bound s =>
    cases h
    exact ⟨hw, hI⟩
  | authorized s =>
    cases h
    exact ⟨hw, hI⟩
  | captured s =>
    obtain ⟨hp, hquiet, -⟩ := htr
    have hnext := replaying_record (t := t) hr hw (request_of_prepared hp) hquiet.findings
      hquiet.events hI
    rw [Option.some.inj h] at hnext
    exact hnext
  | recorded s =>
    cases h
    exact ⟨hw, replaying_observe hr hw ht (request_of_prepared htr.prepared) hI⟩
  | observed s =>
    cases h
    obtain ⟨hg, hcontent, hevents⟩ := hI
    refine ⟨hw, hg, ?_⟩
    intro f hmem
    rcases List.mem_append.mp hmem with hmem | hmem
    · exact hcontent f hmem
    · exact detectExcessiveDenials_inScenario hevents hmem
  | detected s =>
    have hnext := replaying_accept hw hf hI.1 hI.2
    rw [Option.some.inj h] at hnext
    exact hnext
  | accepted s =>
    cases h
    exact ⟨hw, replaying_rate hr hw (request_of_prepared htr.prepared) hI⟩
  | rated s =>
    have hnext := replaying_assess (t := t) hr hw (request_of_prepared htr.prepared) htr.session
      hI.1 hI.2
    rw [Option.some.inj h] at hnext
    exact hnext
  | assessed s =>
    have hnext := replaying_decide (t := t) hr hw (request_of_prepared htr.prepared) hI
    rw [Option.some.inj h] at hnext
    exact hnext
  | decided s =>
    have hnext := replaying_finalize hw (request_of_prepared htr.1.prepared) htr.1 hI
    rw [Option.some.inj h] at hnext
    exact hnext
  | finalized s =>
    simp only [execute] at h
    split at h
    · cases h
      exact ⟨hw.congr rfl rfl rfl hw.sessions hw.issuer, hI.congr rfl rfl⟩
    · have hnext := replaying_conclude (t := t) hw htr.1 hI
      rw [Option.some.inj h] at hnext
      exact hnext
  | withdrawn s =>
    have hnext := replaying_contain hw (tracks_withdrawn (t := t) htr).2 hI
    rw [Option.some.inj h] at hnext
    exact hnext
  | contained s =>
    have hnext := replaying_conclude (t := t) hw htr.1 hI
    rw [Option.some.inj h] at hnext
    exact hnext
  | returned result => cases h
  | raised error => cases h
  | bindingRefused s => exact hI.elim
  | refusing s reason findings => exact hI.elim
  | refused s reason findings => exact hI.elim

-- a request of a scenario is always served, whatever the clocks read
theorem call_served (ts : Fin callLength → Tick) (hr : Staged d r)
    (hts : ∀ i, (ts i).horizonFault = false ∧ (ts i).evidenceFault = none)
    (hw : w.Secluded r.sessionId) :
    ∃ w' result, w.call d ts r = (w', .returned result) ∧ w'.Secluded r.sessionId ∧
      Grows w w' r.toolId result.findings ∧ Answers r.sessionId w' result := by
  obtain ⟨-, -, hsecluded, hreplaying⟩ := alone_indexed
    (J := fun _ v f => Tracks d w r v f ∧ v.Secluded r.sessionId ∧ Replaying w r v f)
      (List.ofFn ts) 0
    (by
      rintro m t v f v' f' ht ⟨htr, hv, hI⟩ hstep
      obtain ⟨i, rfl⟩ := List.mem_ofFn.mp (List.mem_of_getElem? ht)
      exact ⟨tracks_step hstep htr, replaying_step hr (hts i).1 (hts i).2 hv htr hI hstep⟩)
    ⟨tracks_request d w r, hw, trivial⟩
  have hfinished := call_finished d ts w r
  rw [call] at hfinished ⊢
  generalize alone d (List.ofFn ts) w (.start r) = out at hfinished hsecluded hreplaying
  obtain ⟨w', e⟩ := out
  cases e with
  | returned result => exact ⟨w', result, rfl, hsecluded, hreplaying⟩
  | raised error => exact hreplaying.elim
  | _ => cases hfinished

end World

end AgentSecurityPlatform
