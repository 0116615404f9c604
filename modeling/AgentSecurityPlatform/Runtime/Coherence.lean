import AgentSecurityPlatform.Posture.Equivalence
import AgentSecurityPlatform.Runtime.Gate
import AgentSecurityPlatform.Session.EventLog

namespace AgentSecurityPlatform

theorem withhold_ne_allow (decision : Decision) : withhold decision ≠ .allow := by
  cases decision <;> simp [withhold]

theorem escalate_suspend (decision : Decision) :
    escalate decision .suspendAgent = withhold decision := by
  cases decision <;> rfl

def ExecuteThread.remaining : ExecuteThread → Nat
  | .start _ => 14
  | .bound _ => 13
  | .bindingRefused _ => 1
  | .authorized _ => 12
  | .captured _ => 11
  | .recorded _ => 10
  | .observed _ => 9
  | .detected _ => 8
  | .accepted _ => 7
  | .rated _ => 6
  | .assessed _ => 5
  | .decided _ => 4
  | .finalized _ => 3
  | .withdrawn _ => 2
  | .contained _ => 1
  | .refusing _ _ _ => 2
  | .refused _ _ _ => 1
  | .returned _ => 0
  | .raised _ => 0

structure GrantBinds (d : Deployment) (r : ExecuteRequest) (g : RuntimeExecutionGrant) : Prop where
  agentId : g.agentId = r.agentId
  sessionId : g.sessionId = r.sessionId
  toolId : g.binding.toolId = r.toolId
  version : ∃ descriptor, d.registry.resolve r.toolId = some descriptor ∧
    descriptor.version = g.binding.toolVersion ∧
    d.tools.versionIsEnabled r.toolId g.binding.toolVersion = true
  profile : ∃ c, d.capabilities.get? (profileId r.toolId) = some c ∧
    g.capabilityProfileId = some c.capabilityProfileId ∧
    g.capabilityDigest = some (c.computeDigest d.capabilityHashing)

structure Verdict (d : Deployment) (s : Decided) : Prop where
  response : s.response.responseType = responseTypes s.posture.riskLevel
  allowed : s.finalDecision = .allow ↔ s.authorization.isSome = true
  bound : ∀ g, s.authorization = some g → GrantBinds d s.request g
  contained : s.response.responseType = .suspendAgent → s.finalDecision = withhold s.event.decision

namespace World

variable {d : Deployment} {t : Tick} {w₀ w w' : World} {r : ExecuteRequest} {e e' : ExecuteThread}

theorem execute_remaining (h : w.execute d t e = some (w', e')) : e'.remaining < e.remaining := by
  cases e with
  | start r =>
    simp only [execute, Option.some.injEq, bindSession] at h
    split at h <;> cases h
    · simp [ExecuteThread.remaining]
    · split <;> simp [ExecuteThread.remaining]
  | captured s =>
    simp only [execute, Option.some.injEq, recordEvent] at h
    split at h <;> cases h <;> simp [ExecuteThread.remaining]
  | recorded s =>
    simp only [execute, Option.some.injEq, Prod.mk.injEq, observe] at h
    obtain ⟨-, rfl⟩ := h
    split
    · simp [ExecuteThread.remaining]
    · split <;> simp [ExecuteThread.remaining]
  | detected s =>
    simp only [execute, Option.some.injEq] at h
    have he' := (w.acceptEvidence_evidence t s).2
    rw [h] at he'
    rcases he' with ⟨findings, rfl⟩ | rfl <;> simp [ExecuteThread.remaining]
  | accepted s =>
    simp only [execute, Option.some.injEq, Prod.mk.injEq, rate] at h
    obtain ⟨-, rfl⟩ := h
    split <;> simp [ExecuteThread.remaining]
  | rated s =>
    simp only [execute, Option.some.injEq] at h
    have he' := (w.assess_evidence t s).2
    rw [h] at he'
    rcases he' with ⟨posture, rfl⟩ | rfl <;> simp [ExecuteThread.remaining]
  | assessed s =>
    simp only [execute, Option.some.injEq] at h
    have hd := decide_decides d t w s
    rw [h] at hd
    cases hd <;> simp [ExecuteThread.remaining]
  | decided s =>
    simp only [execute, Option.some.injEq, finalize] at h
    split at h <;> cases h <;> simp [ExecuteThread.remaining]
  | finalized s =>
    simp only [execute] at h
    split at h <;> cases h <;> simp [ExecuteThread.remaining]
  | withdrawn s =>
    simp only [execute, Option.some.injEq, contain] at h
    split at h <;> cases h <;> simp [ExecuteThread.remaining]
  | refusing s reason findings =>
    simp only [execute, Option.some.injEq, finalizeRefusedEvent] at h
    split at h <;> cases h <;> simp [ExecuteThread.remaining]
  | returned r => cases h
  | raised e => cases h
  | _ =>
    cases h
    simp [ExecuteThread.remaining]

theorem finished_of_execute_none (h : w.execute d t e = none) : e.finished = true := by
  cases e with
  | returned r => rfl
  | raised e => rfl
  | finalized s =>
    simp only [execute] at h
    split at h <;> cases h
  | _ => cases h

theorem alone_finished (ts : List Tick) (h : e.remaining ≤ ts.length) :
    (alone d ts w e).2.finished = true := by
  induction ts generalizing w e with
  | nil =>
    have h0 : e.remaining = 0 := Nat.le_zero.mp h
    cases e with
    | returned r => rfl
    | raised e => rfl
    | _ => cases h0
  | cons t ts ih =>
    simp only [alone]
    split
    · rename_i hnone
      exact finished_of_execute_none hnone
    · rename_i w' e' hs
      have hlt := execute_remaining hs
      simp only [List.length_cons] at h
      exact ih (by omega)

theorem call_finished (d : Deployment) (ts : Fin callLength → Tick) (w : World)
    (r : ExecuteRequest) :
    (w.call d ts r).2.finished = true := by
  apply alone_finished
  rw [List.length_ofFn]
  exact le_refl _

structure Quiet (w₀ w : World) : Prop where
  agents : w.agents = w₀.agents
  findings : w.findings = w₀.findings
  aggregator : w.aggregator = w₀.aggregator
  authority : w.authority = w₀.authority
  audit : w.audit = w₀.audit
  events : w.sessions.events = w₀.sessions.events

structure InFlight (d : Deployment) (w₀ : World) (r : ExecuteRequest) (w : World) (s : Recorded) :
    Prop where
  prepared : s.toPrepared = d.prepare r
  agents : w.agents = w₀.agents
  audit : w.audit = w₀.audit
  known : w.sessions.Known r.sessionId
  session : s.event.sessionId = r.sessionId
  agent : s.event.agentId = r.agentId
  pending : SessionRepository.Pending w.sessions.events s.event

structure Stored (events : List SessionEvent) (e : SessionEvent) : Prop where
  mem : e ∈ events
  unique : ∀ x ∈ events, x.sessionId = e.sessionId → x.sequenceNumber = e.sequenceNumber → x = e

structure Finalized (d : Deployment) (w₀ : World) (r : ExecuteRequest) (w : World) (s : Decided) :
    Prop where
  prepared : s.toPrepared = d.prepare r
  verdict : Verdict d s
  audit : w.audit = w₀.audit
  stored : Stored w.sessions.events s.event
  final : s.event.finalDecision = some s.finalDecision

def Contains (w₀ w : World) (agentId : String) : Prop :=
  (w₀.agents.agents.get agentId).isSome = true → w₀.agents.isDisabled agentId = false →
    isSuspended (w.agents.enforcement.getState agentId) = true

structure Concluded (d : Deployment) (w₀ : World) (r : ExecuteRequest) (w : World)
    (result : RuntimeResult) : Prop where
  audited : ∃ a, w.audit = w₀.audit ++ [a] ∧ a.eventId = result.auditEventId ∧
    a.sessionId = r.sessionId ∧ a.agentId = r.agentId ∧ a.requestedToolId = r.toolId ∧
    result.event.finalDecision = some a.decision
  allowed : result.event.finalDecision = some .allow ↔ result.authorization.isSome = true
  bound : ∀ g, result.authorization = some g → GrantBinds d r g
  stored : result.refusalReason ≠ some .sessionBindingInvalid →
    Stored w.sessions.events result.event
  refused : result.refusalReason.isSome = true →
    result.event.finalDecision = some .deny ∧ result.authorization = none
  inert : result.refusalReason = some .sessionBindingInvalid →
    w.sessions.events = w₀.sessions.events ∧ w.findings = w₀.findings ∧
    w.aggregator = w₀.aggregator ∧ w.agents = w₀.agents ∧ w.authority = w₀.authority
  contained : ∀ a, result.responseAction = some a → a.responseType = .suspendAgent →
    result.event.finalDecision = some (withhold result.event.decision) ∧
    .enforcement ∈ w.authority.issuanceClosedPlanes r.agentId ∧ Contains w₀ w r.agentId

def Tracks (d : Deployment) (w₀ : World) (r : ExecuteRequest) (w : World) : ExecuteThread → Prop
  | .start q => q = r ∧ Quiet w₀ w
  | .bound s => s = d.prepare r ∧ Quiet w₀ w ∧ w.sessions.Known r.sessionId
  | .bindingRefused s => s = d.prepare r ∧ Quiet w₀ w
  | .authorized s => s.toPrepared = d.prepare r ∧ Quiet w₀ w ∧ w.sessions.Known r.sessionId
  | .captured s => s.toPrepared = d.prepare r ∧ Quiet w₀ w ∧ w.sessions.Known r.sessionId
  | .recorded s => InFlight d w₀ r w s
  | .observed s => InFlight d w₀ r w s.toRecorded
  | .detected s => InFlight d w₀ r w s.toRecorded
  | .accepted s => InFlight d w₀ r w s.toRecorded
  | .rated s => InFlight d w₀ r w s.toRecorded
  | .assessed s => InFlight d w₀ r w s.toRecorded
  | .decided s => InFlight d w₀ r w s.toRecorded ∧ Verdict d s
  | .finalized s => Finalized d w₀ r w s ∧ w.agents = w₀.agents
  | .withdrawn s => Finalized d w₀ r w s ∧ w.agents = w₀.agents ∧
      s.response.responseType = .suspendAgent ∧
      .enforcement ∈ w.authority.issuanceClosedPlanes r.agentId
  | .contained s => Finalized d w₀ r w s ∧
      .enforcement ∈ w.authority.issuanceClosedPlanes r.agentId ∧ Contains w₀ w r.agentId
  | .refusing s reason _ => InFlight d w₀ r w s ∧ reason ≠ .sessionBindingInvalid
  | .refused s reason _ => s.toPrepared = d.prepare r ∧ w.audit = w₀.audit ∧
      Stored w.sessions.events s.event ∧ s.event.finalDecision = some .deny ∧
      reason ≠ .sessionBindingInvalid
  | .returned result => Concluded d w₀ r w result
  | .raised _ => w.audit = w₀.audit

theorem InFlight.evidence {s : Recorded} (h : InFlight d w₀ r w s) (hw : EvidenceOnly w w') :
    InFlight d w₀ r w' s :=
  ⟨h.prepared, hw.agents.trans h.agents, hw.audit.trans h.audit, hw.sessions ▸ h.known, h.session,
    h.agent, hw.sessions ▸ h.pending⟩

theorem InFlight.request {s : Recorded} (h : InFlight d w₀ r w s) : s.request = r := by
  rw [h.prepared, (d.prepare_spec r).1]

theorem stored_dropLast {events : List SessionEvent} {x : SessionEvent} {decision : Decision}
    (h : SessionRepository.Pending events x) :
    Stored (events.dropLast ++ [{ x with finalDecision := some decision }])
      { x with finalDecision := some decision } := by
  obtain ⟨before, rfl, hbefore⟩ := h.last
  refine ⟨by simp, ?_⟩
  intro y hy hs hn
  rw [List.dropLast_concat] at hy
  rcases List.mem_append.mp hy with hy | hy
  · exact absurd hn (hbefore y hy hs)
  · exact List.mem_singleton.mp hy

theorem verdict_of_decides {s : Assessed} {s' : Decided} (hp : s.toPrepared = d.prepare r)
    (h : Decides d t w s w' (.decided s')) : Verdict d s' := by
  have hrequest : s.request = r := by rw [hp, (d.prepare_spec r).1]
  cases h with
  | withheld _ hs hg hr hf =>
    have hresponse : s'.response.responseType = responseTypes s.posture.riskLevel := by rw [hr]; rfl
    subst hs
    refine ⟨hresponse, ?_, by simp [hg], ?_⟩
    · simp [hf, hg, withhold_ne_allow]
    · intro hsuspend
      rw [hf, hsuspend, escalate_suspend]
      cases s'.event.decision <;> rfl
  | granted _ binding profile digest authority grant hs hb hc hr hf hi hg =>
    have hresponse : s'.response.responseType = responseTypes s.posture.riskLevel := by rw [hr]; rfl
    subst hs
    obtain ⟨hallow, -, -, hfields⟩ := ExecutionAuthority.issue_granted hi
    refine ⟨hresponse, by simp [hallow, hg], ?_, ?_⟩
    · intro g hgrant
      rw [hg] at hgrant
      cases hgrant
      obtain ⟨htool, hversion⟩ := (d.prepare_spec r).2.2 binding (by rw [← hp]; exact hb)
      have hbinding : grant.binding = binding := congrArg GrantFields.binding hfields
      obtain ⟨c, hcap, hpair⟩ := Option.map_eq_some_iff.mp hc
      cases hpair
      rw [hrequest] at hfields hcap ⊢
      exact ⟨congrArg GrantFields.agentId hfields, congrArg GrantFields.sessionId hfields,
        by rw [hbinding, htool], by rw [hbinding]; exact Deployment.resolvedVersion_some hversion,
        c, hcap, congrArg GrantFields.capabilityProfileId hfields,
        congrArg GrantFields.capabilityDigest hfields⟩
    · intro hsuspend
      rw [hf, hsuspend, escalate_suspend] at hallow
      exact absurd hallow (withhold_ne_allow _)

theorem tracks_decides {s : Assessed} (ht : Tracks d w₀ r w (.assessed s))
    (h : Decides d t w s w' e') : Tracks d w₀ r w' e' := by
  have hflight : InFlight d w₀ r w s.toRecorded := ht
  have hv : ∀ s', e' = .decided s' → Verdict d s' := by
    rintro s' rfl
    exact verdict_of_decides hflight.prepared h
  cases h with
  | withheld s' hs =>
    subst hs
    exact ⟨hflight, hv s' rfl⟩
  | granted s' _ _ _ _ _ hs =>
    subst hs
    exact ⟨⟨hflight.prepared, hflight.agents, hflight.audit, hflight.known, hflight.session,
      hflight.agent, hflight.pending⟩, hv s' rfl⟩
  | failed => exact hflight.audit

theorem tracks_start (h : Tracks d w₀ r w (.start r)) :
    Tracks d w₀ r (w.bindSession d t r).1 (w.bindSession d t r).2 := by
  obtain ⟨-, hq⟩ := h
  obtain ⟨hevents, hknown⟩ :=
    SessionService.bindOrValidate_cases w.sessions r.sessionId r.agentId t.wall
  unfold bindSession
  split
  · rename_i sessions s hb
    rw [hb] at hevents hknown
    exact ⟨rfl, ⟨hq.agents, hq.findings, hq.aggregator, hq.authority, hq.audit,
      hevents.trans hq.events⟩, hknown s rfl⟩
  · rename_i sessions error hb
    rw [hb] at hevents
    split
    · exact ⟨rfl, hq.agents, hq.findings, hq.aggregator, hq.authority, hq.audit,
        hevents.trans hq.events⟩
    · exact hq.audit

theorem tracks_captured {s : Captured} (h : Tracks d w₀ r w (.captured s)) :
    Tracks d w₀ r (w.recordEvent d t s).1 (w.recordEvent d t s).2 := by
  obtain ⟨hp, hq, -⟩ := h
  have hrequest : s.request = r := by rw [hp, (d.prepare_spec r).1]
  unfold recordEvent
  split
  · rename_i sessions event hrec
    obtain ⟨hpending, hknown, hevent⟩ := SessionService.recordEvent_pending hrec rfl
    rw [hrequest] at hknown hevent
    exact ⟨hp, hq.agents, hq.audit, hknown, by rw [hevent], by rw [hevent], hpending⟩
  · exact hq.audit

theorem tracks_observe {s : Recorded} (h : InFlight d w₀ r w s) :
    Tracks d w₀ r w (w.observe d t s) := by
  unfold observe
  split
  · exact h.audit
  · split
    · exact ⟨h, by simp⟩
    · exact h

theorem updated_pending {s : Recorded} (h : InFlight d w₀ r w s) (decision : Decision) :
    (∃ sessions, w.sessions.updateEventFinalDecision s.request.sessionId s.event.sequenceNumber
        decision = (sessions, .ok ()) ∧ w.sessions.getTombstone r.sessionId = none ∧
        Stored sessions.events { s.event with finalDecision := some decision }) ∨
      ∃ error t, w.sessions.updateEventFinalDecision s.request.sessionId s.event.sequenceNumber
        decision = (w.sessions, .error error) ∧ w.sessions.getTombstone r.sessionId = some t := by
  rw [h.request]
  cases ht : w.sessions.getTombstone r.sessionId with
  | some t =>
    exact .inr ⟨_, t, SessionRepository.updateEventFinalDecision_terminal ht, rfl⟩
  | none =>
    rw [← h.session] at ht ⊢
    obtain ⟨sessions, hu, hevents⟩ :=
      SessionRepository.updateEventFinalDecision_pending decision h.pending
        (by rw [h.session]; exact h.known) ht
    exact .inl ⟨sessions, hu, rfl, by rw [hevents]; exact stored_dropLast h.pending⟩

theorem tracks_decided {s : Decided} (h : Tracks d w₀ r w (.decided s)) :
    Tracks d w₀ r (w.finalize s).1 (w.finalize s).2 := by
  obtain ⟨hflight, hv⟩ := h
  unfold finalize
  rcases updated_pending hflight s.finalDecision with ⟨sessions, hu, -, hstored⟩ | ⟨err, t, hu, -⟩
  · rw [hu]
    exact ⟨⟨hflight.prepared, ⟨hv.response, hv.allowed, hv.bound, hv.contained⟩, hflight.audit,
      hstored, rfl⟩, hflight.agents⟩
  · rw [hu]
    exact hflight.audit

theorem tracks_refusing {s : Recorded} {reason : RefusalReason} {findings : List Finding}
    (h : Tracks d w₀ r w (.refusing s reason findings)) :
    Tracks d w₀ r (w.finalizeRefusedEvent s reason findings).1
      (w.finalizeRefusedEvent s reason findings).2 := by
  obtain ⟨hflight, hreason⟩ := h
  unfold finalizeRefusedEvent
  rcases updated_pending hflight .deny with ⟨sessions, hu, -, hstored⟩ | ⟨err, t, hu, -⟩
  · rw [hu]
    exact ⟨hflight.prepared, hflight.audit, hstored, rfl, hreason⟩
  · rw [hu]
    exact hflight.audit

theorem suspendAgent_contains (hw : w.agents = w₀.agents) (now : Instant)
    (uuid agentId reason : String) (trigger : Option EnforcementTrigger) :
    Contains w₀ (w.suspendAgent now uuid agentId reason trigger).1 agentId ∧
    ((∃ agent, (w.suspendAgent now uuid agentId reason trigger).2 = .ok agent) ∨
      (w.suspendAgent now uuid agentId reason trigger).2 = .error (.agentNotFound agentId)) := by
  simp only [suspendAgent, Contains, ← hw]
  rcases AgentService.suspendAgent_cases (Prod.mk.eta.symm : w.agents.suspendAgent now uuid agentId
    reason trigger = _) with ⟨he, hnone, hr⟩ | ⟨he, hor, hr⟩ | ⟨-, -, hc, hr⟩
  · refine ⟨?_, .inr hr⟩
    intro hsome
    rw [hnone] at hsome
    cases hsome
  · refine ⟨?_, .inl hr⟩
    intro _ hd
    rw [he]
    rcases hor with hs | hs
    · exact hs
    · rw [hd] at hs
      cases hs
  · refine ⟨?_, .inl hr⟩
    intro _ _
    rw [hc.getState, if_pos rfl]
    rfl

theorem tracks_withdrawn {s : Decided} (h : Tracks d w₀ r w (.withdrawn s)) :
    Tracks d w₀ r (w.contain t s).1 (w.contain t s).2 ∧ (w.contain t s).2 = .contained s := by
  obtain ⟨hf, hagents, -, hclosed⟩ := h
  have hrequest : s.request = r := by rw [hf.prepared, (d.prepare_spec r).1]
  obtain ⟨hcontains, hr⟩ := suspendAgent_contains hagents t.wall t.uuid s.request.agentId
    suspensionReason (some (suspensionTrigger s))
  rw [← hrequest] at hclosed ⊢
  unfold contain
  split
  · rename_i w₁ agent hs
    rw [hs] at hcontains
    obtain ⟨rfl, -⟩ := suspendAgent_eq hs
    exact ⟨⟨⟨hrequest ▸ hf.prepared, hf.verdict, hf.audit, hf.stored, hf.final⟩,
      hclosed, hcontains⟩, rfl⟩
  · rename_i w₁ agentId hs
    rw [hs] at hcontains
    obtain ⟨rfl, -⟩ := suspendAgent_eq hs
    exact ⟨⟨⟨hrequest ▸ hf.prepared, hf.verdict, hf.audit, hf.stored, hf.final⟩,
      hclosed, hcontains⟩, rfl⟩
  · rename_i w₁ error hne hs
    rw [hs] at hr
    rcases hr with ⟨agent, hr⟩ | hr
    · cases hr
    · cases hr
      exact (hne _ rfl).elim

theorem concluded_conclude {s : Decided} (hf : Finalized d w₀ r w s)
    (hc : s.response.responseType = .suspendAgent →
      .enforcement ∈ w.authority.issuanceClosedPlanes r.agentId ∧ Contains w₀ w r.agentId) :
    Tracks d w₀ r (w.conclude t s).1 (w.conclude t s).2 := by
  have hrequest : s.request = r := by rw [hf.prepared, (d.prepare_spec r).1]
  constructor
  case audited =>
    refine ⟨_, congrArg (· ++ _) hf.audit, rfl, congrArg ExecuteRequest.sessionId hrequest,
      congrArg ExecuteRequest.agentId hrequest, congrArg ExecuteRequest.toolId hrequest, hf.final⟩
  case allowed =>
    simp only [hf.final, Option.some.injEq]
    exact hf.verdict.allowed
  case bound =>
    intro g hg
    rw [← hrequest]
    exact hf.verdict.bound g hg
  case stored => exact fun _ => hf.stored
  case refused => exact fun h => by cases h
  case inert => exact fun h => by cases h
  case contained =>
    intro a ha hsuspend
    cases ha
    exact ⟨by rw [hf.final, hf.verdict.contained hsuspend], hc hsuspend⟩

theorem concluded_refuseSessionBinding {s : Prepared} (hs : s = d.prepare r) (hq : Quiet w₀ w) :
    Tracks d w₀ r (w.refuseSessionBinding t s).1 (w.refuseSessionBinding t s).2 := by
  have hrequest : s.request = r := by rw [hs, (d.prepare_spec r).1]
  constructor
  case audited =>
    refine ⟨_, congrArg (· ++ _) hq.audit, rfl, congrArg ExecuteRequest.sessionId hrequest,
      congrArg ExecuteRequest.agentId hrequest, congrArg ExecuteRequest.toolId hrequest, rfl⟩
  case allowed => simp
  case bound => exact fun g hg => by cases hg
  case stored => exact fun h => (h rfl).elim
  case refused => exact fun _ => ⟨rfl, rfl⟩
  case inert => exact fun _ => ⟨hq.events, hq.findings, hq.aggregator, hq.agents, hq.authority⟩
  case contained => exact fun a ha => by cases ha

theorem concluded_concludeRefusal {s : Recorded} {reason : RefusalReason} {findings : List Finding}
    (h : Tracks d w₀ r w (.refused s reason findings)) :
    Tracks d w₀ r (w.concludeRefusal t s reason findings).1
      (w.concludeRefusal t s reason findings).2 := by
  obtain ⟨hp, haudit, hstored, hfinal, hreason⟩ := h
  have hrequest : s.request = r := by rw [hp, (d.prepare_spec r).1]
  constructor
  case audited =>
    refine ⟨_, congrArg (· ++ _) haudit, rfl, congrArg ExecuteRequest.sessionId hrequest,
      congrArg ExecuteRequest.agentId hrequest, congrArg ExecuteRequest.toolId hrequest, hfinal⟩
  case allowed => simp [hfinal]
  case bound => exact fun g hg => by cases hg
  case stored => exact fun _ => hstored
  case refused => exact fun _ => ⟨hfinal, rfl⟩
  case inert => exact fun h => (hreason (Option.some.inj h)).elim
  case contained => exact fun a ha => by cases ha

theorem tracks_step (h : w.execute d t e = some (w', e')) (ht : Tracks d w₀ r w e) :
    Tracks d w₀ r w' e' := by
  cases e with
  | start q =>
    obtain rfl := ht.1
    simp only [execute, Option.some.injEq] at h
    have hs := tracks_start ht (t := t)
    rw [h] at hs
    exact hs
  | bound s =>
    cases h
    exact ht
  | bindingRefused s =>
    cases h
    exact concluded_refuseSessionBinding ht.1 ht.2
  | authorized s =>
    cases h
    exact ht
  | captured s =>
    simp only [execute, Option.some.injEq] at h
    have hs := tracks_captured ht (t := t)
    rw [h] at hs
    exact hs
  | recorded s =>
    cases h
    exact tracks_observe ht
  | observed s =>
    cases h
    exact ht
  | detected s =>
    simp only [execute, Option.some.injEq] at h
    obtain ⟨hw, he'⟩ := w.acceptEvidence_evidence t s
    rw [h] at hw he'
    rcases he' with ⟨findings, rfl⟩ | rfl
    · exact InFlight.evidence ht hw
    · exact ⟨InFlight.evidence ht hw, by simp⟩
  | accepted s =>
    cases h
    unfold rate
    split
    · exact ht.audit
    · exact ht
  | rated s =>
    simp only [execute, Option.some.injEq] at h
    obtain ⟨hw, he'⟩ := w.assess_evidence t s
    rw [h] at hw he'
    rcases he' with ⟨posture, rfl⟩ | rfl
    · exact InFlight.evidence ht hw
    · exact ⟨InFlight.evidence ht hw, by simp⟩
  | assessed s =>
    simp only [execute, Option.some.injEq] at h
    have hd := decide_decides d t w s
    rw [h] at hd
    exact tracks_decides ht hd
  | decided s =>
    simp only [execute, Option.some.injEq] at h
    have hs := tracks_decided ht
    rw [h] at hs
    exact hs
  | finalized s =>
    obtain ⟨hf, hagents⟩ := ht
    have hrequest : s.request = r := by rw [hf.prepared, (d.prepare_spec r).1]
    simp only [execute] at h
    split at h
    · rename_i hsuspend
      cases h
      refine ⟨⟨hf.prepared, hf.verdict, hf.audit, hf.stored, hf.final⟩, hagents, hsuspend, ?_⟩
      simp [withdraw, hrequest, ExecutionAuthority.closedPlanes_suspendIssuance]
    · rename_i hne
      cases h
      exact concluded_conclude hf (fun hs => (hne hs).elim)
  | withdrawn s =>
    simp only [execute, Option.some.injEq] at h
    have hs := (tracks_withdrawn ht (t := t)).1
    rw [h] at hs
    exact hs
  | contained s =>
    cases h
    exact concluded_conclude ht.1 (fun _ => ht.2)
  | refusing s reason findings =>
    simp only [execute, Option.some.injEq] at h
    have hs := tracks_refusing ht
    rw [h] at hs
    exact hs
  | refused s reason findings =>
    cases h
    exact concluded_concludeRefusal ht
  | returned r => cases h
  | raised e => cases h

theorem tracks_alone (ts : List Tick) (ht : Tracks d w₀ r w e) :
    Tracks d w₀ r (alone d ts w e).1 (alone d ts w e).2 := by
  induction ts generalizing w e with
  | nil => exact ht
  | cons t ts ih =>
    simp only [alone]
    split
    · exact ht
    · rename_i w' e' h
      exact ih (tracks_step h ht)

theorem tracks_request (d : Deployment) (w : World) (r : ExecuteRequest) :
    Tracks d w r w (.start r) := ⟨rfl, rfl, rfl, rfl, rfl, rfl, rfl⟩

theorem decision_evidence_authority_agree {ts : Fin callLength → Tick} {result : RuntimeResult}
    (h : w.call d ts r = (w', .returned result)) : Concluded d w r w' result := by
  have ht := tracks_alone (List.ofFn ts) (tracks_request d w r)
  rw [call] at h
  rw [h] at ht
  exact ht

end World

def sampleCapabilities : ExecutionCapabilities :=
  { capabilityProfileId := "profile-ticket_read"
    filesystem := { workspaceRoot := "/srv/tickets" } }

def sampleDeployment : Deployment :=
  { registry :=
      ⟨.set .empty "ticket_read" (.set .empty "1.0.0" ⟨"ticket_read", "1.0.0", "helpdesk"⟩)⟩
    tools := ⟨.set .empty ("ticket_read", "1.0.0") ⟨"ticket_read", "1.0.0", .low, true⟩⟩
    capabilities := .set .empty "profile-ticket_read" sampleCapabilities
    capabilityHashing := ⟨PythonJson.FloatText.ofMicroseconds, fun text => "sha256:" ++ text⟩
    workspaces := fun _ => none
    rules := [.promptInjection, .sensitiveFileAccess, .dataExfiltration]
    windowSeconds := defaultExcessiveDenialsWindowSeconds
    window_pos := by decide
    retention := some (.fromDetectionWindow defaultExcessiveDenialsWindowSeconds 30000000
      (by decide) (by decide))
    hashing := ⟨fun space name => space ++ ":" ++ name, id⟩
    signing := .reference }

def sampleRegistered : World :=
  World.sampleStores.postures
    [World.sampleStep 1 (.register { World.sampleAgent with approvedTools := ["ticket_read"] }
       systemRegistrationActor),
     World.sampleStep 2 (.activate "agent-1" systemRegistrationActor)]

def sampleCritical : World :=
  sampleRegistered.postures
    [World.sampleStep 3 (.accept "agent-1" [World.sampleFinding "f1" .critical]),
     World.sampleStep 4 (.assess "agent-1")]

def sampleRequest (sessionId : String) : ExecuteRequest :=
  { sessionId, agentId := "agent-1", toolId := "ticket_read" }

def sampleTick (n : Nat) : Tick := { wall := 10 + n, mono := 10 + n, uuid := toString n }

namespace World

theorem decision_evidence_authority_sample :
    ∃ w' result, sampleRegistered.call sampleDeployment (fun i => sampleTick i)
      (sampleRequest "session-1") =
        (w', .returned result) ∧ result.authorization.isSome = true ∧
      Concluded sampleDeployment sampleRegistered (sampleRequest "session-1") w' result := by
  have hcall : (sampleRegistered.call sampleDeployment (fun i => sampleTick i)
      (sampleRequest "session-1")).2.result.any (·.authorization.isSome) = true := by
    decide +kernel
  obtain ⟨result, hr, hg⟩ := (Option.any_eq_true _ _).mp hcall
  have hc : sampleRegistered.call sampleDeployment (fun i => sampleTick i)
    (sampleRequest "session-1") =
      (_, .returned result) := Prod.ext rfl (ExecuteThread.eq_returned hr)
  exact ⟨_, result, hc, hg, decision_evidence_authority_agree hc⟩

end World

end AgentSecurityPlatform
