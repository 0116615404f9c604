import AgentSecurityPlatform.Runtime.GrantUse

namespace AgentSecurityPlatform

def AuditEvent.allows (o : Operation) (a : AuditEvent) : Bool :=
  a.decision = .allow && (a.sessionId, a.agentId, a.requestedToolId) = o

section Evaluation

variable {d : Deployment} {t : Tick} {w w' : World} {r : ExecuteRequest} {e e' : ExecuteThread}
  {seen : World → Prop}

-- seen holds of the worlds that the run has gone through
def Authorized.Evaluates (d : Deployment) (seen : World → Prop) (r : ExecuteRequest)
    (s : Authorized) :
    Prop :=
  ∃ w, seen w ∧ s = w.authorize d (d.prepare r)

structure Recorded.Recounts (d : Deployment) (seen : World → Prop) (r : ExecuteRequest)
    (s : Recorded) :
    Prop where
  evaluates : s.toAuthorized.Evaluates d seen r
  decision : s.event.decision = s.decision

structure Allows (d : Deployment) (seen : World → Prop) (r : ExecuteRequest)
    (g : RuntimeExecutionGrant) :
    Prop where
  binds : GrantBinds d r g
  evaluated : (d.prepare r).binding = some g.binding
  allowed : ∃ w, seen w ∧ (w.authorize d (d.prepare r)).decision = .allow

structure Sanctions (d : Deployment) (seen : World → Prop) (r : ExecuteRequest)
    (decision : Decision) (grant : Option RuntimeExecutionGrant) : Prop where
  allowed : decision = .allow ↔ grant.isSome = true
  bound : ∀ g, grant = some g → Allows d seen r g

theorem Authorized.Evaluates.prepared {s : Authorized} (h : s.Evaluates d seen r) :
    s.toPrepared = d.prepare r := by
  obtain ⟨w, -, rfl⟩ := h
  rfl

theorem Authorized.Evaluates.request {s : Authorized} (h : s.Evaluates d seen r) :
    s.request = r := by
  rw [h.prepared, (d.prepare_spec r).1]

theorem escalate_eq_allow {decision : Decision} {response : ResponseType}
    (h : escalate decision response = .allow) : decision = .allow := by
  cases decision <;> cases response <;> simp [escalate] at h ⊢

theorem sanctions_denied (d : Deployment) (seen : World → Prop) (r : ExecuteRequest) :
    Sanctions d seen r .deny none :=
  ⟨by simp, by simp⟩

namespace ExecuteThread

-- what a request's own thread keeps whatever the other threads do to the world
def Serves (d : Deployment) (seen : World → Prop) (r : ExecuteRequest) : ExecuteThread → Prop
  | .start q => q = r
  | .bound s => s = d.prepare r
  | .bindingRefused s => s = d.prepare r
  | .authorized s => s.Evaluates d seen r
  | .captured s => s.toAuthorized.Evaluates d seen r
  | .recorded s => s.Recounts d seen r
  | .observed s => s.toRecorded.Recounts d seen r
  | .detected s => s.toRecorded.Recounts d seen r
  | .accepted s => s.toRecorded.Recounts d seen r
  | .rated s => s.toRecorded.Recounts d seen r
  | .assessed s => s.toRecorded.Recounts d seen r
  | .decided s => s.request = r ∧ Sanctions d seen r s.finalDecision s.authorization
  | .finalized s => s.request = r ∧ Sanctions d seen r s.finalDecision s.authorization ∧
      s.event.finalDecision = some s.finalDecision
  | .withdrawn s => s.request = r ∧ Sanctions d seen r s.finalDecision s.authorization ∧
      s.event.finalDecision = some s.finalDecision
  | .contained s => s.request = r ∧ Sanctions d seen r s.finalDecision s.authorization ∧
      s.event.finalDecision = some s.finalDecision
  | .refusing _ _ _ => True
  | .refused s _ _ => s.event.finalDecision = some .deny
  | .returned result => ∃ decision, result.event.finalDecision = some decision ∧
      Sanctions d seen r decision result.authorization
  | .raised _ => True

end ExecuteThread

namespace World

theorem sanctions_decides {s : Assessed} {s' : Decided} (hs : s.toRecorded.Recounts d seen r)
    (h : Decides d t w s w' (.decided s')) :
    s'.request = r ∧ Sanctions d seen r s'.finalDecision s'.authorization := by
  have hp := hs.evaluates.prepared
  have hv := verdict_of_decides hp h
  have heq : s'.toAssessed = s := by cases h <;> assumption
  have hr : s'.request = r := by rw [heq, hs.evaluates.request]
  refine ⟨hr, hv.allowed, ?_⟩
  intro g hg
  obtain ⟨-, hallow, -, -, binding, profile, digest, hb, -, hfields⟩ := h.issued hg
  have hbinding : g.binding = binding := congrArg GrantFields.binding hfields
  refine ⟨hr ▸ hv.bound g hg, by rw [hbinding, ← hb, ← hp], ?_⟩
  have hevent : s.event.decision = .allow := by
    cases h with
    | withheld _ _ hnone =>
      rw [hnone] at hg
      cases hg
    | granted _ _ _ _ _ _ _ _ _ _ hf =>
      rw [hf] at hallow
      exact escalate_eq_allow hallow
  obtain ⟨w₁, hseen, hauthorize⟩ := hs.evaluates
  have hdecision := hs.decision
  rw [hevent, hauthorize] at hdecision
  exact ⟨w₁, hseen, hdecision.symm⟩

theorem serves_step (h : w.execute d t e = some (w', e')) (hw : seen w) (he : e.Serves d seen r) :
    e'.Serves d seen r := by
  cases e with
  | start q =>
    obtain rfl : q = r := he
    simp only [execute, Option.some.injEq, bindSession] at h
    split at h
    · cases h
      exact rfl
    · cases h
      split
      · exact rfl
      · trivial
  | bound s =>
    cases h
    obtain rfl : s = d.prepare r := he
    exact ⟨w, hw, rfl⟩
  | bindingRefused s =>
    cases h
    exact ⟨.deny, rfl, sanctions_denied d seen r⟩
  | authorized s =>
    cases h
    exact he
  | captured s =>
    simp only [execute, Option.some.injEq, recordEvent] at h
    split at h
    · rename_i sessions event hrec
      cases h
      obtain ⟨-, -, hevent⟩ := SessionService.recordEvent_pending hrec rfl
      exact ⟨he, by rw [hevent]⟩
    · cases h
      trivial
  | recorded s =>
    simp only [execute, Option.some.injEq, Prod.mk.injEq, observe] at h
    obtain ⟨-, rfl⟩ := h
    split
    · trivial
    · split
      · trivial
      · exact he
  | observed s =>
    cases h
    exact he
  | detected s =>
    simp only [execute, Option.some.injEq] at h
    have he' := (w.acceptEvidence_evidence t s).2
    rw [h] at he'
    rcases he' with ⟨findings, rfl⟩ | rfl
    · exact he
    · trivial
  | accepted s =>
    simp only [execute, Option.some.injEq, Prod.mk.injEq, rate] at h
    obtain ⟨-, rfl⟩ := h
    split
    · trivial
    · exact he
  | rated s =>
    simp only [execute, Option.some.injEq] at h
    have he' := (w.assess_evidence t s).2
    rw [h] at he'
    rcases he' with ⟨posture, rfl⟩ | rfl
    · exact he
    · trivial
  | assessed s =>
    have hd := decide_decides d t w s
    rw [Option.some.inj h] at hd
    cases e' with
    | decided s' => exact sanctions_decides he hd
    | raised error => trivial
    | _ => cases hd
  | decided s =>
    simp only [execute, Option.some.injEq, finalize] at h
    split at h <;> cases h
    · exact ⟨he.1, he.2, rfl⟩
    · trivial
  | finalized s =>
    simp only [execute] at h
    split at h <;> cases h
    · exact he
    · exact ⟨s.finalDecision, he.2.2, he.2.1⟩
  | withdrawn s =>
    simp only [execute, Option.some.injEq, contain] at h
    split at h <;> cases h
    · exact he
    · exact he
    · trivial
  | contained s =>
    cases h
    exact ⟨s.finalDecision, he.2.2, he.2.1⟩
  | refusing s reason findings =>
    simp only [execute, Option.some.injEq, finalizeRefusedEvent] at h
    split at h <;> cases h
    · exact rfl
    · trivial
  | refused s reason findings =>
    cases h
    exact ⟨.deny, he, sanctions_denied d seen r⟩
  | returned r => cases h
  | raised e => cases h

inductive AuditEffect (t : Tick) (w : World) (e : ExecuteThread) (w' : World) (e' : ExecuteThread) :
    Prop where
  | quiet (haudit : w'.audit = w.audit) (he' : e'.result = none)
  | concluded (s : Decided) (he : e = .finalized s ∨ e = .contained s)
      (hw : w' = (w.conclude t s).1) (he' : e' = (w.conclude t s).2)
  | denied (a : AuditEvent) (result : RuntimeResult) (haudit : w'.audit = w.audit ++ [a])
      (he' : e' = .returned result) (hg : result.authorization = none)

theorem execute_audit (h : w.execute d t e = some (w', e')) : AuditEffect t w e w' e' := by
  cases e with
  | start q =>
    simp only [execute, Option.some.injEq, bindSession] at h
    split at h <;> cases h
    · exact .quiet rfl rfl
    · refine .quiet rfl ?_
      split <;> rfl
  | bindingRefused s =>
    cases h
    exact .denied _ _ rfl rfl rfl
  | captured s =>
    simp only [execute, Option.some.injEq, recordEvent] at h
    split at h <;> cases h <;> exact .quiet rfl rfl
  | recorded s =>
    simp only [execute, Option.some.injEq, Prod.mk.injEq, observe] at h
    obtain ⟨rfl, rfl⟩ := h
    refine .quiet rfl ?_
    split
    · rfl
    · split <;> rfl
  | detected s =>
    simp only [execute, Option.some.injEq] at h
    obtain ⟨hw, he'⟩ := w.acceptEvidence_evidence t s
    rw [h] at hw he'
    refine .quiet hw.audit ?_
    rcases he' with ⟨findings, rfl⟩ | rfl <;> rfl
  | accepted s =>
    simp only [execute, Option.some.injEq, Prod.mk.injEq, rate] at h
    obtain ⟨rfl, rfl⟩ := h
    refine .quiet rfl ?_
    split <;> rfl
  | rated s =>
    simp only [execute, Option.some.injEq] at h
    obtain ⟨hw, he'⟩ := w.assess_evidence t s
    rw [h] at hw he'
    refine .quiet hw.audit ?_
    rcases he' with ⟨posture, rfl⟩ | rfl <;> rfl
  | assessed s =>
    have hd := decide_decides d t w s
    rw [Option.some.inj h] at hd
    cases hd <;> exact .quiet rfl rfl
  | decided s =>
    simp only [execute, Option.some.injEq, finalize] at h
    split at h <;> cases h <;> exact .quiet rfl rfl
  | finalized s =>
    simp only [execute] at h
    split at h <;> cases h
    · exact .quiet rfl rfl
    · exact .concluded s (.inl rfl) rfl rfl
  | withdrawn s =>
    simp only [execute, Option.some.injEq, contain] at h
    split at h <;> rename_i hs <;> obtain ⟨rfl, -⟩ := suspendAgent_eq hs <;> cases h <;>
      exact .quiet rfl rfl
  | contained s =>
    cases h
    exact .concluded s (.inr rfl) rfl rfl
  | refusing s reason findings =>
    simp only [execute, Option.some.injEq, finalizeRefusedEvent] at h
    split at h <;> cases h <;> exact .quiet rfl rfl
  | refused s reason findings =>
    cases h
    exact .denied _ _ rfl rfl rfl
  | returned r => cases h
  | raised e => cases h
  | _ =>
    cases h
    exact .quiet rfl rfl

theorem AuditEffect.grows (h : AuditEffect t w e w' e') :
    ∃ events, w'.audit = w.audit ++ events := by
  cases h with
  | quiet haudit he' => exact ⟨[], by rw [haudit, List.append_nil]⟩
  | concluded s he hw he' => exact ⟨_, by rw [hw]; rfl⟩
  | denied a result haudit => exact ⟨[a], haudit⟩

-- a grant leaves a call together with the event that allows its operation
theorem AuditEffect.allows {result : RuntimeResult} (h : AuditEffect t w e w' (.returned result))
    (he : e.Serves d seen r) (hg : result.authorization.isSome = true) :
    ∃ a, w'.audit = w.audit ++ [a] ∧ a.allows (r.sessionId, r.agentId, r.toolId) = true := by
  cases h with
  | quiet haudit he' => cases he'
  | denied a result haudit he' hnone =>
    cases he'
    rw [hnone] at hg
    cases hg
  | concluded s hfrom hw he' =>
    obtain ⟨hr, hs⟩ : s.request = r ∧ Sanctions d seen r s.finalDecision s.authorization := by
      rcases hfrom with rfl | rfl <;> exact ⟨he.1, he.2.1⟩
    cases he'
    refine ⟨_, by rw [hw]; rfl, ?_⟩
    simp [AuditEvent.allows, hs.allowed.mpr hg, hr]

end World

end Evaluation

theorem Platform.step_audit {d : Deployment} {t : Tick} {p p' : Shared} {e e' : PlatformThread}
    (h : Platform.step d t p e = some (p', e')) :
    ∃ events, p'.world.audit = p.world.audit ++ events := by
  have hsame (haudit : p'.world.audit = p.world.audit) :
      ∃ events, p'.world.audit = p.world.audit ++ events := ⟨[], by rw [haudit, List.append_nil]⟩
  cases e with
  | execute c =>
    obtain ⟨w', c', hr, rfl, -⟩ := step_execute h
    exact (World.execute_audit hr).grows
  | reinstate c =>
    simp only [step] at h
    obtain ⟨⟨q, c'⟩, hr, he⟩ := Option.map_eq_some_iff.mp h
    cases he
    apply hsame
    cases c with
    | waiting agentId actor reason =>
      simp only [ReinstateThread.step] at hr
      split at hr <;> cases hr
      rfl
    | composed agentId actor reason watermark =>
      simp only [ReinstateThread.step] at hr
      split at hr <;> cases hr <;> rfl
    | committed agentId watermark agent =>
      simp only [ReinstateThread.step] at hr
      split at hr <;> cases hr <;> rfl
    | finished r => cases hr
    | _ =>
      cases hr
      rfl
  | session c =>
    simp only [step] at h
    obtain ⟨r, -, he⟩ := Option.map_eq_some_iff.mp h
    cases he
    exact hsame rfl
  | disabled agentId r => cases h
  | claimed r => cases h
  | transitioned r => cases h
  | _ =>
    cases h
    exact hsame rfl

namespace DefaultToolExecutor

variable {ω : Type} {x : DefaultToolExecutor ω} {t : ExecutorTick} {a : ExecutionAuthority}
  {g : RuntimeExecutionGrant} {parameters : Parameters} {context : Option RuntimeContext}
  {plan : ExecutionPlan}

-- the plan of a presented grant: the descriptor registered for the version the grant names
structure Materialises (registry : ExecutableRegistry) (g : RuntimeExecutionGrant)
    (parameters : Parameters) (plan : ExecutionPlan) (descriptor : ExecutableDescriptor) :
    Prop where
  resolved : registry.resolveVersion g.binding.toolId g.binding.toolVersion = .ok descriptor
  enabled : descriptor.enabled = true
  plan : plan =
    { toolId := descriptor.toolId
      toolVersion := descriptor.version
      parameters
      grant := some g
      context := none
      tool := instantiate descriptor
      implementationId := descriptor.implementationId }

theorem plan_materialises {registry : ExecutableRegistry} (hr : x.toolRegistry = some registry)
    (h : x.plan (.execute (some g) parameters none) = .ok plan) :
    ∃ descriptor, Materialises registry g parameters plan descriptor := by
  simp only [DefaultToolExecutor.plan, resolveDescriptor, hr] at h
  cases hd : registry.resolveVersion g.binding.toolId g.binding.toolVersion with
  | error e =>
    rw [hd] at h
    cases h
  | ok descriptor =>
    rw [hd] at h
    simp only [ExecutionPlan.ofDescriptor] at h
    cases he : descriptor.enabled with
    | false =>
      rw [he] at h
      cases h
    | true =>
      rw [he] at h
      cases h
      exact ⟨descriptor, hd, he, rfl⟩

theorem plan_grantless (h : x.plan (.execute none parameters context) = .ok plan) : False := by
  cases h

end DefaultToolExecutor

namespace AgentRuntimeService

variable {ω : Type}

-- verifying, claiming and running with nothing in between
def executed (d : Deployment) (s : AgentRuntimeService ω) (t : ExecutorTick) (p : AgentShared)
    (grant : Option RuntimeExecutionGrant) (parameters : Parameters) (responseType : ResponseType) :
    AgentShared × AgentRuntimeThread ω :=
  match s.verify d t p grant parameters responseType with
  | (verified, .verified plan v responseType) =>
    match s.claim d t verified plan v responseType with
    | (claimed, .prepared plan g capabilities responseType) =>
      s.run d t claimed plan g capabilities responseType
    | r => r
  | r => r

theorem executed_eq (d : Deployment) (s : AgentRuntimeService ω) (t : ExecutorTick)
    (p : AgentShared)
    (grant : Option RuntimeExecutionGrant) (parameters : Parameters) (responseType : ResponseType) :
    s.executed d t p grant parameters responseType =
      ({ toShared := p.withAuthority
           ((s.executor d).execute t p.world.authority grant parameters none).authority
         sandboxed := p.sandboxed ++
           requests ((s.executor d).execute t p.world.authority grant parameters none).calls },
        answer responseType
          ((s.executor d).execute t p.world.authority grant parameters none).result) := by
  have hserve := DefaultToolExecutor.serve_eq (s.executor d) t p.world.authority
    (.execute grant parameters none)
  rw [DefaultToolExecutor.serve] at hserve
  rw [hserve, executed, verify]
  cases (s.executor d).plan (.execute grant parameters none) with
  | error e => simp [answer, requests, Shared.withAuthority]
  | ok plan =>
    have hverified := DefaultToolExecutor.requests_verify (s.executor d) t p.world.authority plan
    simp only [DefaultToolExecutor.carryOut, DefaultToolExecutor.prepare_eq]
    cases hv : ((s.executor d).verify t p.world.authority plan).result with
    | error e => simp [answer, hverified]
    | ok v =>
      have hclaimed := DefaultToolExecutor.requests_claim (s.executor d) t
        ((s.executor d).verify t p.world.authority plan).authority v
      simp only [claim]
      cases hc : ((s.executor d).claim t
        ((s.executor d).verify t p.world.authority plan).authority v).result with
      | error e =>
        simp [answer, Shared.withAuthority, DefaultToolExecutor.requests_append, hverified,
          hclaimed, hc]
      | ok r =>
        simp only [run]
        cases htool : plan.tool with
        | error e =>
          simp [answer, Shared.withAuthority, DefaultToolExecutor.requests_append, hverified,
            hclaimed, hc, htool]
        | ok tool =>
          simp [Shared.withAuthority, DefaultToolExecutor.requests_append, hverified, hclaimed, hc,
            htool]

end AgentRuntimeService

-- what the sandbox was asked to run is the operation the request evaluated and the grant covers
structure Mediates {ω : Type} (d : Deployment) (seen : World → Prop) (s : AgentRuntimeService ω)
    (query : String) (q : SandboxRequest) (i : ToolInvocation) (b : ExecutionBinding) : Prop where
  invoked : s.agent.invoke query = .ok i
  agent : q.provenance.agentId = s.agent.agentId
  evaluated : (d.prepare (AgentRuntimeService.request s.agent.agentId query q.provenance.sessionId
    i)).binding = some b
  allowed :
    ∃ w, seen w ∧ (World.authorize d w (d.prepare (AgentRuntimeService.request s.agent.agentId
    query q.provenance.sessionId i))).decision = .allow
  tool : q.provenance.toolId = i.toolId ∧ b.toolId = i.toolId
  version : d.resolvedVersion i.toolId = some b.toolVersion ∧ q.toolVersion = b.toolVersion
  parameters : q.parameters = b.parametersDict
  resource : b.resource = b.parameters.lookup resourceParameter
  implementation : ∃ descriptor, s.toolRegistry.resolveVersion i.toolId b.toolVersion =
    .ok descriptor ∧
    descriptor.toolId = i.toolId ∧ descriptor.version = b.toolVersion ∧ descriptor.enabled = true ∧
    descriptor.implementationId = some q.implementationId ∧ instantiate descriptor = .ok q.tool
  capabilities : ∃ c, d.capabilities.get? (profileId i.toolId) = some c ∧
    d.capabilities.get? c.capabilityProfileId = some q.capabilities ∧
    q.capabilities.capabilityProfileId = c.capabilityProfileId ∧
    q.capabilities.computeDigest d.capabilityHashing = c.computeDigest d.capabilityHashing

structure Covers {ω : Type} (d : Deployment) (seen : World → Prop) (s : AgentRuntimeService ω)
    (query : String) (i : ToolInvocation) (g : RuntimeExecutionGrant) : Prop where
  invoked : s.agent.invoke query = .ok i
  allows : Allows d seen (AgentRuntimeService.request s.agent.agentId query g.sessionId i) g

-- the authority still held the grant for exactly this operation when it was claimed
def Claimed (d : Deployment) (seen : World → Prop) (g : RuntimeExecutionGrant) : Prop :=
  ∃ w now, seen w ∧ ExecutionAuthority.Claimable d.signing w.authority now g g.binding

-- the grant a sandboxed request was run for
structure Spends {ω : Type} (d : Deployment) (seen : World → Prop) (s : AgentRuntimeService ω)
    (query : String) (q : SandboxRequest) (i : ToolInvocation) (b : ExecutionBinding)
    (g : RuntimeExecutionGrant) : Prop where
  covers : Covers d seen s query i g
  claimed : Claimed d seen g
  binding : g.binding = b
  grantId : q.provenance.grantId = g.grantId

structure Readies {ω : Type} (d : Deployment) (s : AgentRuntimeService ω)
    (g : RuntimeExecutionGrant)
    (plan : ExecutionPlan) (capabilities : ExecutionCapabilities) : Prop where
  materialises : ∃ descriptor, DefaultToolExecutor.Materialises s.toolRegistry g
    g.binding.parametersDict plan descriptor
  rebuilt :
    ExecutionBinding.fromOperation plan.toolId plan.toolVersion g.binding.parametersDict none =
    some g.binding
  admitted : (s.executor d).resolveCapabilities g plan.toolId = .ok capabilities

namespace AgentRuntimeService

variable {ω : Type} {d : Deployment} {s : AgentRuntimeService ω} {query : String} {t : AgentTick}
  {p p' : AgentShared} {c c' : AgentRuntimeThread ω} {seen : World → Prop}

def Tracks (d : Deployment) (seen : World → Prop) (s : AgentRuntimeService ω) (query : String) :
    AgentRuntimeThread ω → Prop
  | .start _ q => q = query
  | .evaluating e => ∃ i sessionId, s.agent.invoke query = .ok i ∧
      e.Serves d seen (request s.agent.agentId query sessionId i)
  | .authorized grant parameters _ => ∀ g, grant = some g →
      (∃ i, Covers d seen s query i g) ∧ parameters = g.binding.parametersDict
  | .verified plan v _ => (∃ i, Covers d seen s query i v.grant) ∧
      Readies d s v.grant plan v.capabilities ∧ v.requested = v.grant.binding
  | .prepared plan g capabilities _ => (∃ i, Covers d seen s query i g) ∧
      Readies d s g plan capabilities ∧ Claimed d seen g
  | .finished _ => True
  | .raised _ => True

theorem tracks_begin (d : Deployment) (seen : World → Prop) (s : AgentRuntimeService ω)
    (sessionId : String) (agentId : Option String) (query : String) :
    s.Tracks d seen query (s.begin sessionId agentId query) := by
  unfold begin
  split
  · trivial
  · rename_i hagent
    have hid : (nonEmpty agentId).getD s.agent.agentId = s.agent.agentId := by
      cases agentId with
      | none => rfl
      | some a =>
        have ha : a = s.agent.agentId := by simpa using hagent
        by_cases hne : s.agent.agentId = "" <;> simp [nonEmpty, Option.filter, ha, hne]
    split
    · trivial
    · rename_i i hi
      exact ⟨i, sessionId, hi, by rw [hid]; rfl⟩

theorem tracks_conclude {i : ToolInvocation} {sessionId : String} {result : RuntimeResult}
    (hi : s.agent.invoke query = .ok i)
    (he : (ExecuteThread.returned result).Serves d seen
      (request s.agent.agentId query sessionId i)) :
    s.Tracks d seen query (conclude result) := by
  obtain ⟨decision, hfinal, hs⟩ := he
  unfold conclude
  simp only
  split
  · trivial
  · intro g hg
    have hallows := hs.bound g hg
    have hsession : g.sessionId = sessionId := hallows.binds.sessionId
    refine ⟨⟨i, hi, by rw [hsession]; exact hallows⟩, ?_⟩
    simp [RuntimeResult.authorizedParameters, hg]

theorem tracks_verify {t : ExecutorTick} {grant : Option RuntimeExecutionGrant}
    {parameters : Parameters} {responseType : ResponseType}
    (h : s.Tracks d seen query (.authorized grant parameters responseType)) :
    s.Tracks d seen query (s.verify d t p grant parameters responseType).2 := by
  unfold verify
  split
  · trivial
  · rename_i plan hplan
    cases grant with
    | none => exact (DefaultToolExecutor.plan_grantless hplan).elim
    | some g =>
      obtain ⟨hcovers, rfl⟩ := h g rfl
      obtain ⟨descriptor, hm⟩ := DefaultToolExecutor.plan_materialises rfl hplan
      have hcases := DefaultToolExecutor.verify_verifies (s.executor d) t p.world.authority plan
      simp only
      generalize (s.executor d).verify t p.world.authority plan = attempt at hcases ⊢
      cases hcases with
      | unexamined e => trivial
      | unverified g requested verified e hv => trivial
      | unadmitted g requested verified e hv => trivial
      | verified v verified hg hr hv ha =>
        obtain ⟨-, -, hpresentable⟩ :=
          ExecutionAuthority.verifyGrant_ok_iff.mp (congrArg Prod.snd hv)
        have hop := hr
        rw [hm.plan] at hg hop
        obtain rfl : g = v.grant := Option.some.inj hg
        rw [hpresentable.binding] at hop
        exact ⟨hcovers, ⟨⟨descriptor, hm⟩, by rw [hm.plan]; exact hop,
          DefaultToolExecutor.admission_ok ha⟩, hpresentable.binding⟩

theorem tracks_claim {t : ExecutorTick} {plan : ExecutionPlan} {v : Verification}
    {responseType : ResponseType} (hw : seen p.world)
    (h : s.Tracks d seen query (.verified plan v responseType)) :
    s.Tracks d seen query (s.claim d t p plan v responseType).2 := by
  obtain ⟨hcovers, hreadies, hbinding⟩ := h
  unfold claim
  rcases DefaultToolExecutor.claim_cases (s.executor d) t p.world.authority v with
    ⟨claimed, e, -, hc⟩ | ⟨claimed, hr, hc⟩ <;> rw [hc]
  · trivial
  · have hverified := congrArg Prod.snd hr
    rw [ExecutionAuthority.claimGrant_verifyGrant, hbinding] at hverified
    exact ⟨hcovers, hreadies, p.world, t.claimedAt, hw, ExecutionAuthority.verifyGrant_ok hverified⟩

theorem tracks_answer (d : Deployment) (seen : World → Prop) (s : AgentRuntimeService ω)
    (query : String) (responseType : ResponseType)
    (r : Except ExecutorError (Option ω)) : s.Tracks d seen query (answer responseType r) := by
  cases r <;> trivial

theorem tracks_step (h : s.step d t p c = some (p', c')) (hw : seen p.world)
    (hc : s.Tracks d seen query c) :
    s.Tracks d seen query c' := by
  cases c with
  | start agentId q =>
    cases h
    obtain rfl : q = query := hc
    exact tracks_begin d seen s _ agentId q
  | evaluating e =>
    obtain ⟨i, sessionId, hi, he⟩ := hc
    simp only [step] at h
    split at h
    · cases h
      cases e with
      | returned result => exact tracks_conclude hi he
      | raised error => trivial
      | _ => exact ⟨i, sessionId, hi, he⟩
    · split at h
      · cases h
      · obtain ⟨⟨w', e'⟩, hr, heq⟩ := Option.map_eq_some_iff.mp h
        cases heq
        exact ⟨i, sessionId, hi, World.serves_step hr hw he⟩
  | authorized grant parameters responseType =>
    have hc' : (s.verify d t.executor p grant parameters responseType).2 = c' :=
      congrArg Prod.snd (Option.some.inj h)
    exact hc' ▸ tracks_verify hc
  | verified plan v responseType =>
    have hc' : (s.claim d t.executor p plan v responseType).2 = c' :=
      congrArg Prod.snd (Option.some.inj h)
    exact hc' ▸ tracks_claim hw hc
  | prepared plan g capabilities responseType =>
    have hc' : (s.run d t.executor p plan g capabilities responseType).2 = c' :=
      congrArg Prod.snd (Option.some.inj h)
    rw [← hc']
    unfold run
    split
    · trivial
    · exact tracks_answer d seen s query responseType _
  | finished r => cases h
  | raised e => cases h

theorem mediates {q : SandboxRequest} {i : ToolInvocation} {g : RuntimeExecutionGrant}
    {plan : ExecutionPlan} {capabilities : ExecutionCapabilities} {tool : BaseTool}
    (hc : Covers d seen s query i g) (hr : Readies d s g plan capabilities)
    (htool : plan.tool = .ok tool)
    (hq : DefaultToolExecutor.Asks q g tool plan.parameters capabilities plan.implementationId) :
    Mediates d seen s query q i g.binding := by
  obtain ⟨hop, -, ht, hparameters, hcapabilities, himplementation, hversion⟩ := hq
  obtain ⟨descriptor, hresolved, henabled, hplan⟩ := hr.materialises
  have hrebuilt := hr.rebuilt
  rw [hplan] at htool hparameters himplementation hrebuilt
  obtain ⟨hid, hv, hresource⟩ := (ExecutionBinding.rebuilt_iff _ _ _).mp hrebuilt
  simp only [SandboxRequest.operation, RuntimeExecutionGrant.operation, Prod.mk.injEq] at hop
  obtain ⟨hsession, hagent, hname⟩ := hop
  have hi : g.binding.toolId = i.toolId := hc.allows.binds.toolId
  obtain ⟨-, hbinding⟩ := ((d.prepare_spec _).2.2 g.binding hc.allows.evaluated)
  obtain ⟨-, -, ⟨profiles, hprofiles, hget⟩, hprofile, hdigest⟩ :=
    DefaultToolExecutor.resolveCapabilities_ok_iff.mp hr.admitted
  cases hprofiles
  obtain ⟨c, hpc, hcprofile, hcdigest⟩ := hc.allows.binds.profile
  have hsame : capabilities.capabilityProfileId = c.capabilityProfileId :=
    Option.some.inj (hprofile.symm.trans hcprofile)
  constructor
  case invoked => exact hc.invoked
  case agent => exact hagent.trans hc.allows.binds.agentId
  case evaluated =>
    rw [hsession]
    exact hc.allows.evaluated
  case allowed =>
    rw [hsession]
    exact hc.allows.allowed
  case tool => exact ⟨hname.trans hi, hi⟩
  case version => exact ⟨hbinding, hversion⟩
  case parameters => exact hparameters
  case resource => exact hresource
  case implementation =>
    rw [← hi]
    exact ⟨descriptor, hresolved, hid, hv, henabled, himplementation, by rw [ht]; exact htool⟩
  case capabilities =>
    rw [hcapabilities]
    exact ⟨c, hpc, hsame ▸ hget, hsame, Option.some.inj (hdigest.symm.trans hcdigest)⟩

end AgentRuntimeService

def AgentRuntimeThread.grant {ω : Type} : AgentRuntimeThread ω → Option RuntimeExecutionGrant
  | .evaluating (.returned result) => result.authorization
  | .authorized grant _ _ => grant
  | .verified _ v _ => some v.grant
  | .prepared _ g _ _ => some g
  | _ => none

-- one for a call that holds a grant for the operation it has not spent yet
def AgentRuntimeThread.unspent {ω : Type} (o : Operation) (c : AgentRuntimeThread ω) : Nat :=
  if c.grant.any (·.operation = o) then 1 else 0

def Balances {ω : Type} (o : Operation) (c c' : AgentRuntimeThread ω)
    (ran : List SandboxRequest) (events : List AuditEvent) : Prop :=
  ran.countP (·.operation = o) + c'.unspent o ≤ c.unspent o + events.countP (AuditEvent.allows o)

namespace AgentRuntimeService

variable {ω : Type} {d : Deployment} {s : AgentRuntimeService ω} {query : String} {t : AgentTick}
  {p p' : AgentShared} {c c' : AgentRuntimeThread ω} {o : Operation} {seen : World → Prop}

theorem unspent_none (h : c.grant = none) : c.unspent o = 0 := by
  simp [AgentRuntimeThread.unspent, h]

theorem unspent_le (h : ∀ g, c'.grant = some g → c.grant = some g) :
    c'.unspent o ≤ c.unspent o := by
  cases hg : c'.grant with
  | none =>
    rw [unspent_none hg]
    exact Nat.zero_le _
  | some g => simp [AgentRuntimeThread.unspent, hg, h g hg]

theorem unspent_le_one (c : AgentRuntimeThread ω) : c.unspent o ≤ 1 := by
  unfold AgentRuntimeThread.unspent
  split <;> simp

theorem balances_idle (h : ∀ g, c'.grant = some g → c.grant = some g) (events : List AuditEvent) :
    Balances o c c' [] events := by
  have hle := unspent_le (o := o) h
  simp only [Balances, List.countP_nil]
  omega

theorem begin_grant (s : AgentRuntimeService ω) (sessionId : String) (agentId : Option String)
    (query : String) : (s.begin sessionId agentId query).grant = none := by
  unfold begin
  split
  · rfl
  · split <;> rfl

theorem leave_grant {e : ExecuteThread} {g : RuntimeExecutionGrant}
    (h : (leave e : AgentRuntimeThread ω).grant = some g) :
    (AgentRuntimeThread.evaluating e : AgentRuntimeThread ω).grant = some g := by
  cases e with
  | returned result =>
    simp only [leave, conclude] at h
    split at h
    · cases h
    · exact h
  | raised error => cases h
  | _ => cases h

theorem answer_grant (responseType : ResponseType) (r : Except ExecutorError (Option ω)) :
    (answer responseType r).grant = none := by
  cases r <;> rfl

theorem verify_quiet {t : ExecutorTick} {grant : Option RuntimeExecutionGrant}
    {parameters : Parameters} {responseType : ResponseType}
    (h : s.verify d t p grant parameters responseType = (p', c')) :
    p'.world.audit = p.world.audit ∧ p'.sandboxed = p.sandboxed ∧
      ∀ g, c'.grant = some g → grant = some g := by
  unfold verify at h
  split at h
  · cases h
    exact ⟨rfl, rfl, fun g hg => by cases hg⟩
  · rename_i plan hplan
    have hcases := DefaultToolExecutor.verify_verifies (s.executor d) t p.world.authority plan
    cases h
    refine ⟨rfl, rfl, ?_⟩
    intro g hg
    generalize (s.executor d).verify t p.world.authority plan = attempt at hcases hg
    cases hcases with
    | unexamined e => cases hg
    | unverified g requested verified e hv => cases hg
    | unadmitted g requested verified e hv => cases hg
    | verified v verified hv hr hverify ha =>
      cases hg
      exact (DefaultToolExecutor.plan_grant hplan).symm.trans hv

theorem claim_quiet {t : ExecutorTick} {plan : ExecutionPlan} {v : Verification}
    {responseType : ResponseType} (h : s.claim d t p plan v responseType = (p', c')) :
    p'.world.audit = p.world.audit ∧ p'.sandboxed = p.sandboxed ∧
      ∀ g, c'.grant = some g → g = v.grant := by
  unfold claim at h
  rcases DefaultToolExecutor.claim_cases (s.executor d) t p.world.authority v with
    ⟨claimed, e, -, hc⟩ | ⟨claimed, -, hc⟩ <;> rw [hc] at h <;> cases h
  · exact ⟨rfl, rfl, fun g hg => by cases hg⟩
  · exact ⟨rfl, rfl, fun g hg => (Option.some.inj hg).symm⟩

theorem balances_evaluating {w w' : World} {e e' : ExecuteThread} {i : ToolInvocation}
    {sessionId : String} (hr : w.execute d t.platform e = some (w', e')) (hw : seen w)
    (he : e.Serves d seen (request s.agent.agentId query sessionId i)) :
    ∃ events, w'.audit = w.audit ++ events ∧ ∀ o,
      Balances o (.evaluating e : AgentRuntimeThread ω) (.evaluating e') [] events := by
  have heffect := World.execute_audit hr
  cases hresult : (AgentRuntimeThread.evaluating e' : AgentRuntimeThread ω).grant with
  | none =>
    obtain ⟨events, haudit⟩ := heffect.grows
    exact ⟨events, haudit, fun o => balances_idle (by simp [hresult]) events⟩
  | some g =>
    cases e' with
    | returned result =>
      obtain ⟨decision, -, hs⟩ := World.serves_step hr hw he
      have hbinds := (hs.bound g hresult).binds
      obtain ⟨a, haudit, ha⟩ :=
        heffect.allows he (by rw [show result.authorization = some g from hresult]; rfl)
      refine ⟨[a], haudit, ?_⟩
      intro o
      unfold Balances
      have hop : g.operation = (sessionId, s.agent.agentId, i.toolId) := by
        simp [RuntimeExecutionGrant.operation, hbinds.sessionId, hbinds.agentId,
          hbinds.toolId, request]
      by_cases ho : (sessionId, s.agent.agentId, i.toolId) = o
      · have hle := unspent_le_one (o := o) (.evaluating (.returned result) : AgentRuntimeThread ω)
        subst ho
        have hone : [a].countP (AuditEvent.allows (sessionId, s.agent.agentId, i.toolId)) = 1 := by
          rw [List.countP_singleton]
          exact if_pos ha
        rw [hone, List.countP_nil]
        omega
      · have hzero : (.evaluating (.returned result) : AgentRuntimeThread ω).unspent o = 0 := by
          simp [AgentRuntimeThread.unspent, hresult, hop, ho]
        rw [hzero, List.countP_nil]
        exact Nat.zero_le _
    | _ => cases hresult

structure StepEffect (d : Deployment) (seen : World → Prop) (s : AgentRuntimeService ω)
    (query : String) (p : AgentShared) (c : AgentRuntimeThread ω) (p' : AgentShared)
    (c' : AgentRuntimeThread ω) (events : List AuditEvent) (ran : List SandboxRequest) : Prop where
  audited : p'.world.audit = p.world.audit ++ events
  sandboxed : p'.sandboxed = p.sandboxed ++ ran
  balances : ∀ o, Balances o c c' ran events
  mediated : ∀ q ∈ ran, ∃ i b g, Mediates d seen s query q i b ∧ Spends d seen s query q i b g

theorem stepEffect_idle (haudit : p'.world.audit = p.world.audit)
    (hran : p'.sandboxed = p.sandboxed)
    (hg : ∀ g, c'.grant = some g → c.grant = some g) : StepEffect d seen s query p c p' c' [] [] :=
  ⟨by rw [haudit, List.append_nil], by rw [hran, List.append_nil], fun _ => balances_idle hg [],
    by simp⟩

theorem stepEffect_run {t : ExecutorTick} {plan : ExecutionPlan} {g : RuntimeExecutionGrant}
    {capabilities : ExecutionCapabilities} {responseType : ResponseType}
    (h : s.run d t p plan g capabilities responseType = (p', c'))
    (hc : s.Tracks d seen query (.prepared plan g capabilities responseType)) :
    ∃ ran, StepEffect d seen s query p
      (.prepared plan g capabilities responseType) p' c' [] ran := by
  obtain ⟨⟨i, hcovers⟩, hreadies, hclaimed⟩ := hc
  unfold run at h
  split at h
  · cases h
    exact ⟨[], stepEffect_idle rfl rfl (fun g hg => by cases hg)⟩
  · rename_i tool htool
    cases h
    rcases DefaultToolExecutor.requests_run (s.executor d) t tool plan.parameters capabilities g
      plan.context plan.implementationId with hran | ⟨q, hran, hq⟩
    · refine ⟨[], stepEffect_idle rfl (by simp only [hran, List.append_nil]) ?_⟩
      simp [answer_grant]
    · refine ⟨[q], by rw [List.append_nil], by simp only [hran], ?_, ?_⟩
      · intro o
        unfold Balances
        rw [unspent_none (answer_grant _ _), AgentRuntimeThread.unspent, List.countP_singleton,
          hq.operation]
        simp [AgentRuntimeThread.grant]
      · intro q' hq'
        rw [List.mem_singleton.mp hq']
        exact ⟨i, g.binding, g, mediates hcovers hreadies htool hq, hcovers, hclaimed, rfl,
          hq.grantId⟩

theorem step_effect (h : s.step d t p c = some (p', c')) (hw : seen p.world)
    (hc : s.Tracks d seen query c) :
    ∃ events ran, StepEffect d seen s query p c p' c' events ran := by
  cases c with
  | start agentId q =>
    cases h
    exact ⟨[], [], stepEffect_idle rfl rfl (by simp [begin_grant])⟩
  | evaluating e =>
    obtain ⟨i, sessionId, hi, he⟩ := hc
    simp only [step] at h
    split at h
    · cases h
      exact ⟨[], [], stepEffect_idle rfl rfl (fun g hg => leave_grant hg)⟩
    · split at h
      · cases h
      · obtain ⟨⟨w', e'⟩, hr, heq⟩ := Option.map_eq_some_iff.mp h
        cases heq
        obtain ⟨events, haudit, hbalances⟩ := balances_evaluating hr hw he
        exact ⟨events, [], haudit, by rw [List.append_nil], hbalances, by simp⟩
  | authorized grant parameters responseType =>
    obtain ⟨haudit, hsandboxed, hgrant⟩ := verify_quiet (Option.some.inj h)
    exact ⟨[], [], stepEffect_idle haudit hsandboxed hgrant⟩
  | verified plan v responseType =>
    obtain ⟨haudit, hsandboxed, hgrant⟩ := claim_quiet (Option.some.inj h)
    exact ⟨[], [], stepEffect_idle haudit hsandboxed (fun g hg => by rw [hgrant g hg]; rfl)⟩
  | prepared plan g capabilities responseType =>
    exact ⟨[], stepEffect_run (Option.some.inj h) hc⟩
  | finished r => cases h
  | raised e => cases h

end AgentRuntimeService

namespace AgentRuntime

variable {ω : Type} {d : Deployment} {initial : List (AgentPlatformThread ω)}
  {p q : Pool AgentShared (AgentPlatformThread ω)} {seen : World → Prop}

def Starts : AgentPlatformThread ω → Prop
  | .agent _ (.start _ _) => True
  | .agent _ _ => False
  | .platform _ => True

def Tracked (d : Deployment) (seen : World → Prop) (initial : List (AgentPlatformThread ω)) :
    AgentPlatformThread ω → Prop
  | .agent s c => ∃ agentId query, .agent s (.start agentId query) ∈ initial ∧
    s.Tracks d seen query c
  | .platform _ => True

def unspent (o : Operation) : AgentPlatformThread ω → Nat
  | .agent _ c => c.unspent o
  | .platform _ => 0

structure Mediated (d : Deployment) (seen : World → Prop) (initial : List (AgentPlatformThread ω))
    (before : List AuditEvent) (p : Pool AgentShared (AgentPlatformThread ω)) : Prop where
  threads : ∀ c ∈ p.threads, Tracked d seen initial c
  runs : ∀ q ∈ p.shared.sandboxed, ∃ s agentId query, .agent s (.start agentId query) ∈ initial ∧
    ∃ i b g, Mediates d seen s query q i b ∧ Spends d seen s query q i b g
  counted : ∃ events, p.shared.world.audit = before ++ events ∧ ∀ o,
    p.shared.sandboxed.countP (·.operation = o) + (p.threads.map (unspent o)).sum ≤
      events.countP (AuditEvent.allows o)

theorem Mediated.fire {before : List AuditEvent} {l : Nat × AgentTick}
    (h : Mediated d seen initial before p) (hw : seen p.shared.world)
    (hf : Pool.fire (step d) p l = some q) : Mediated d seen initial before q := by
  obtain ⟨c, c', hget, hstep, hthreads⟩ := Pool.fire_eq_some hf
  obtain ⟨events, haudit, hcounted⟩ := h.counted
  have hsum (o : Operation) : ((p.threads.set l.1 c').map (unspent o)).sum + unspent o c =
      (p.threads.map (unspent o)).sum + unspent o c' := sum_set (unspent o) hget c'
  have hmem := List.mem_of_getElem? hget
  cases c with
  | platform e =>
    obtain ⟨⟨p', e'⟩, hr, heq⟩ := Option.map_eq_some_iff.mp hstep
    obtain ⟨new, hnew⟩ := Platform.step_audit hr
    simp only [Prod.mk.injEq] at heq
    obtain ⟨hshared, rfl⟩ := heq
    constructor
    case threads =>
      intro b hb
      rw [hthreads] at hb
      rcases List.mem_or_eq_of_mem_set hb with hb | rfl
      · exact h.threads b hb
      · trivial
    case runs =>
      rw [← hshared]
      exact h.runs
    case counted =>
      refine ⟨events ++ new,
        by rw [← hshared]; exact hnew.trans (by rw [haudit, List.append_assoc]), ?_⟩
      intro o
      have ho := hcounted o
      have hs := hsum o
      simp only [unspent, Nat.add_zero] at hs
      rw [hthreads, hs, ← hshared, List.countP_append]
      exact ho.trans (Nat.le_add_right _ _)
  | agent s c =>
    obtain ⟨⟨p', c''⟩, hr, heq⟩ := Option.map_eq_some_iff.mp hstep
    simp only [Prod.mk.injEq] at heq
    obtain ⟨rfl, rfl⟩ := heq
    obtain ⟨agentId, query, hinitial, htracks⟩ := h.threads _ hmem
    obtain ⟨new, ran, he⟩ := AgentRuntimeService.step_effect hr hw htracks
    constructor
    case threads =>
      intro b hb
      rw [hthreads] at hb
      rcases List.mem_or_eq_of_mem_set hb with hb | rfl
      · exact h.threads b hb
      · exact ⟨agentId, query, hinitial, AgentRuntimeService.tracks_step hr hw htracks⟩
    case runs =>
      intro q' hq'
      rw [he.sandboxed] at hq'
      rcases List.mem_append.mp hq' with hq' | hq'
      · exact h.runs q' hq'
      · exact ⟨s, agentId, query, hinitial, he.mediated q' hq'⟩
    case counted =>
      refine ⟨events ++ new, by rw [he.audited, haudit, List.append_assoc], ?_⟩
      intro o
      have ho := hcounted o
      have hs := hsum o
      have hb := he.balances o
      simp only [unspent, Balances] at hs hb
      rw [hthreads, he.sandboxed, List.countP_append, List.countP_append]
      omega

def started (world : World) (threads : List (AgentPlatformThread ω)) :
    Pool AgentShared (AgentPlatformThread ω) :=
  ⟨⟨⟨world, []⟩, []⟩, threads⟩

def Visited (d : Deployment) (ls : List (Nat × AgentTick))
    (p : Pool AgentShared (AgentPlatformThread ω)) (w : World) : Prop :=
  ∃ before after q, ls = before ++ after ∧ Pool.run (step d) before p = some q ∧ q.shared.world = w

-- the requests served since the start, against the calls made, the grants issued for them and the
-- audit events recorded
structure MediatedRuns (d : Deployment) (seen : World → Prop) (ls : List (Nat × AgentTick))
    (world : World) (threads : List (AgentPlatformThread ω)) (p : AgentShared) : Prop where
  operations : ∀ q ∈ p.sandboxed, ∃ s agentId query, .agent s (.start agentId query) ∈ threads ∧
    ∃ i b g, Mediates d seen s query q i b ∧ Spends d seen s query q i b g
  once : FreshGrants ls world.authority → (p.sandboxed.map (·.provenance.grantId)).Nodup
  audited : ∃ events, p.world.audit = world.audit ++ events ∧ ∀ o,
    p.sandboxed.countP (·.operation = o) ≤ events.countP (AuditEvent.allows o)

theorem unspent_starts {c : AgentPlatformThread ω} (h : Starts c) (o : Operation) :
    unspent o c = 0 := by
  cases c with
  | platform e => rfl
  | agent s c =>
    cases c with
    | start agentId query => rfl
    | _ => exact h.elim

theorem holds_starts {c : AgentPlatformThread ω} (h : Starts c) (k : String) : holds k c = 0 := by
  cases c with
  | platform e => rfl
  | agent s c =>
    cases c with
    | start agentId query => rfl
    | _ => exact h.elim

theorem sum_starts (f : AgentPlatformThread ω → Nat) (hf : ∀ c, Starts c → f c = 0)
    {threads : List (AgentPlatformThread ω)} (hstarts : ∀ c ∈ threads, Starts c) :
    (threads.map f).sum = 0 := by
  rw [List.sum_eq_zero_iff]
  intro n hn
  obtain ⟨c, hc, rfl⟩ := List.mem_map.mp hn
  exact hf c (hstarts c hc)

theorem mediated_started (d : Deployment) (seen : World → Prop) (world : World)
    {threads : List (AgentPlatformThread ω)} (hstarts : ∀ c ∈ threads, Starts c) :
    Mediated d seen threads world.audit (started world threads) := by
  constructor
  case threads =>
    intro c hc
    cases c with
    | platform e => trivial
    | agent s c =>
      cases c with
      | start agentId query => exact ⟨agentId, query, hc, rfl⟩
      | _ => exact (hstarts _ hc).elim
  case runs => simp [started]
  case counted =>
    refine ⟨[], by simp [started], ?_⟩
    intro o
    have hnone : (threads.map (unspent o)).sum = 0 :=
      sum_starts _ (fun _ hc => unspent_starts hc o) hstarts
    simp [started, hnone]

theorem mediated_run (world : World) (threads : List (AgentPlatformThread ω))
    (hstarts : ∀ c ∈ threads, Starts c) {ls : List (Nat × AgentTick)}
    (h : Pool.run (step d) ls (started world threads) = some q) :
    Mediated d (Visited d ls (started world threads)) threads world.audit q :=
  Pool.run_invariant_of_steps _
    (Mediated d (Visited d ls (started world threads)) threads world.audit)
    (fun p l q hv hI hf => hI.fire (by
      obtain ⟨before, after, hls, hr⟩ := hv
      exact ⟨before, after, p, hls, hr, rfl⟩) hf)
    (Pool.allSteps_visited (step d) ls (started world threads))
      (mediated_started d _ world hstarts) h

theorem tools_run_mediated (world : World) (threads : List (AgentPlatformThread ω))
    (hstarts : ∀ c ∈ threads, Starts c) {ls : List (Nat × AgentTick)}
    (h : Pool.run (step d) ls (started world threads) = some q) :
    MediatedRuns d (Visited d ls (started world threads)) ls world threads q.shared := by
  have hm := mediated_run world threads hstarts h
  obtain ⟨events, haudit, hcounted⟩ := hm.counted
  constructor
  case operations => exact hm.runs
  case once =>
    intro hfresh
    exact grants_spent_once hfresh rfl
      (fun k => sum_starts _ (fun _ hc => holds_starts hc k) hstarts) h
  case audited => exact ⟨events, haudit, fun o => (Nat.le_add_right _ _).trans (hcounted o)⟩

def ticketDeployment : Deployment :=
  { sampleDeployment with capabilityHashing :=
      ⟨PythonJson.FloatText.ofMicroseconds, fun _ => "digest"⟩ }

def ticketAgent : EnterpriseAgent :=
  { agentId := "agent-1"
    invoke := fun _ => .ok { toolId := "ticket_read", parameters := .empty } }

def ticketService : AgentRuntimeService Nat :=
  { agent := ticketAgent
    toolRegistry := DefaultToolExecutor.ticketRegistry
    sandbox := fun _ => .returned { success := true, output := some 7 }
    evidenceStore := none
    sha256 := fun text => "sha256:" ++ text.text
    computeOutputDigest := fun n => some (toString n) }

def ticketThreads : List (AgentPlatformThread Nat) :=
  [.agent ticketService (.start none "read the ticket"), .agent ticketService (.start none "again")]

def ticketSchedule : List (Nat × AgentTick) :=
  (List.range 17).map (fun n =>
    (0, { platform := sampleTick n, executor := DefaultToolExecutor.sampleTick }))

theorem ticketThreads_start : ∀ c ∈ ticketThreads, Starts c := by
  intro c hc
  simp only [ticketThreads, List.mem_cons, List.not_mem_nil, or_false] at hc
  rcases hc with rfl | rfl <;> trivial

theorem ticketSchedule_runs : (Pool.run (step ticketDeployment) ticketSchedule
    (started sampleRegistered ticketThreads)).any (·.shared.sandboxed.length = 1) = true := by
  decide +kernel

theorem ticketSchedule_fresh : FreshGrants ticketSchedule sampleRegistered.authority :=
  ⟨by decide +kernel, by decide +kernel⟩

theorem tools_run_mediated_sample :
    ∃ q, Pool.run (step ticketDeployment) ticketSchedule (started sampleRegistered ticketThreads) =
        some q ∧ q.shared.sandboxed.length = 1 ∧
      FreshGrants ticketSchedule sampleRegistered.authority ∧
      MediatedRuns ticketDeployment (Visited ticketDeployment ticketSchedule
        (started sampleRegistered ticketThreads)) ticketSchedule sampleRegistered ticketThreads
        q.shared := by
  obtain ⟨q, hq, hlength⟩ := (Option.any_eq_true _ _).mp ticketSchedule_runs
  exact ⟨q, hq, of_decide_eq_true hlength, ticketSchedule_fresh,
    tools_run_mediated sampleRegistered ticketThreads ticketThreads_start hq⟩

end AgentRuntime

end AgentSecurityPlatform
