import AgentSecurityPlatform.Authority.Persistence
import AgentSecurityPlatform.Executor.Preparation
import AgentSecurityPlatform.Executor.Rebinding
import AgentSecurityPlatform.Runtime.Coherence

namespace AgentSecurityPlatform

open ExecutionAuthority

def RuntimeResult.authorizedParameters (r : RuntimeResult) : Option Parameters :=
  r.authorization.map (fun g => g.binding.parametersDict)

def ExecuteThread.authorization : ExecuteThread → Option RuntimeExecutionGrant
  | .decided s => s.authorization
  | .finalized s => s.authorization
  | .withdrawn s => s.authorization
  | .contained s => s.authorization
  | .returned r => r.authorization
  | _ => none

def ExecuteThread.undecided (e : ExecuteThread) : Bool := 5 ≤ e.remaining

structure Issued (d : Deployment) (r : ExecuteRequest) (a : ExecutionAuthority)
    (g : RuntimeExecutionGrant) : Prop where
  binding : (d.prepare r).binding = some g.binding
  signature : d.signing.sign g.toGrantFields = g.signature
  held : Held a g

namespace World

variable {d : Deployment} {t : Tick} {w₀ w w' : World} {r : ExecuteRequest} {e e' : ExecuteThread}

structure Keeps (d : Deployment) (w₀ : World) (r : ExecuteRequest) (w : World) (e : ExecuteThread) :
    Prop where
  untouched : e.undecided = true → w.authority = w₀.authority
  issued : ∀ g, e.authorization = some g → Issued d r w.authority g

theorem execute_authorization (h : w.execute d t e = some (w', e'))
    (hne : ∀ s, e ≠ .assessed s) {g : RuntimeExecutionGrant} (hg : e'.authorization = some g) :
    e.authorization = some g := by
  cases e with
  | start r =>
    simp only [execute, Option.some.injEq, bindSession] at h
    split at h
    · cases h
      cases hg
    · cases h
      split at hg <;> cases hg
  | captured s =>
    simp only [execute, Option.some.injEq, recordEvent] at h
    split at h <;> cases h <;> cases hg
  | recorded s =>
    simp only [execute, Option.some.injEq, Prod.mk.injEq, observe] at h
    obtain ⟨-, rfl⟩ := h
    split at hg
    · cases hg
    · split at hg <;> cases hg
  | detected s =>
    simp only [execute, Option.some.injEq] at h
    have he' := (w.acceptEvidence_evidence t s).2
    rw [h] at he'
    rcases he' with ⟨findings, rfl⟩ | rfl <;> cases hg
  | accepted s =>
    simp only [execute, Option.some.injEq, Prod.mk.injEq, rate] at h
    obtain ⟨-, rfl⟩ := h
    split at hg <;> cases hg
  | rated s =>
    simp only [execute, Option.some.injEq] at h
    have he' := (w.assess_evidence t s).2
    rw [h] at he'
    rcases he' with ⟨posture, rfl⟩ | rfl <;> cases hg
  | assessed s => exact absurd rfl (hne s)
  | decided s =>
    simp only [execute, Option.some.injEq, finalize] at h
    split at h <;> cases h
    · exact hg
    · cases hg
  | finalized s =>
    simp only [execute] at h
    split at h <;> cases h <;> exact hg
  | withdrawn s =>
    simp only [execute, Option.some.injEq, contain] at h
    split at h <;> cases h
    · exact hg
    · exact hg
    · cases hg
  | contained s =>
    cases h
    exact hg
  | refusing s reason findings =>
    simp only [execute, Option.some.injEq, finalizeRefusedEvent] at h
    split at h <;> cases h <;> cases hg
  | returned r => cases h
  | raised e => cases h
  | _ =>
    cases h
    cases hg

theorem execute_undecided (h : w.execute d t e = some (w', e')) (he : e'.undecided = true) :
    e.undecided = true := by
  have hlt := execute_remaining h
  simp only [ExecuteThread.undecided, decide_eq_true_eq] at he ⊢
  omega

theorem issued_of_issue {repository : Option EnforcementReader} {binding : ExecutionBinding}
    {decision : Decision} {agentId sessionId : String} {expectedEpoch : Option Nat}
    {profile digest : Option String} {a a' : ExecutionAuthority} {g : RuntimeExecutionGrant}
    {now : Instant} {uuid : String}
    (h : a.issue d.signing now uuid repository binding decision agentId sessionId expectedEpoch
      profile digest = (a', .ok (some g)))
    (hb : (d.prepare r).binding = some binding)
    (hfresh : a.revoked.get? ("grant-" ++ uuid) = none) : Issued d r a' g := by
  rcases issue_cases h with ⟨-, hne⟩ | ⟨-, -, -, ha, hr⟩
  · exact absurd rfl (hne g)
  · split at hr
    · rename_i g' hg
      cases hr
      obtain ⟨hfields, hsignature⟩ := RuntimeExecutionGrant.construct_eq_some hg
      refine ⟨?_, ?_, ?_, ?_, ?_⟩
      · rw [hb, congrArg GrantFields.binding hfields]
        rfl
      · rw [hfields, hsignature]
      · rw [ha, congrArg GrantFields.authorityId hfields]
        rfl
      · rw [ha, congrArg GrantFields.grantId hfields, congrArg GrantFields.expiresAt hfields,
          congrArg GrantFields.agentId hfields, congrArg GrantFields.sessionId hfields]
        simp [createGrant, newFields]
      · rw [ha, congrArg GrantFields.grantId hfields]
        simp [createGrant, newFields, ExecutionAuthority.prune, hfresh]
    · cases hr

theorem keeps_assessed {s : Assessed} (h : w.execute d t (.assessed s) = some (w', e'))
    (ht : Tracks d w₀ r w (.assessed s))
    (hfresh : w₀.authority.revoked.get? ("grant-" ++ t.uuid) = none)
    (hk : Keeps d w₀ r w (.assessed s)) : Keeps d w₀ r w' e' := by
  have hprepared : s.toPrepared = d.prepare r := InFlight.prepared ht
  have hauthority := hk.untouched rfl
  have hundecided : e'.undecided = false := by
    have hlt : e'.remaining < 5 := execute_remaining h
    simp [ExecuteThread.undecided, hlt]
  refine ⟨fun he => absurd he (by simp [hundecided]), ?_⟩
  intro g hg
  simp only [execute, Option.some.injEq] at h
  have hd := decide_decides d t w s
  rw [h] at hd
  cases hd with
  | withheld s' hs hnone =>
    simp only [ExecuteThread.authorization, hnone] at hg
    cases hg
  | granted s' binding profile digest authority grant hs hb hc hr hf hi hgrant =>
    simp only [ExecuteThread.authorization, hgrant, Option.some.injEq] at hg
    subst hg
    exact issued_of_issue hi (by rw [← hprepared]; exact hb) (by rw [hauthority]; exact hfresh)
  | failed => cases hg

theorem keeps_step (h : w.execute d t e = some (w', e')) (ht : Tracks d w₀ r w e)
    (hfresh : w₀.authority.revoked.get? ("grant-" ++ t.uuid) = none) (hk : Keeps d w₀ r w e) :
    Keeps d w₀ r w' e' := by
  by_cases hassessed : ∃ s, e = .assessed s
  · obtain ⟨s, rfl⟩ := hassessed
    exact keeps_assessed h ht hfresh hk
  · have hne : ∀ s, e ≠ .assessed s := fun s he => hassessed ⟨s, he⟩
    have hsame (hauth : w'.authority = w.authority) : Keeps d w₀ r w' e' := by
      refine ⟨fun he => hauth.trans (hk.untouched (execute_undecided h he)), ?_⟩
      intro g hg
      rw [hauth]
      exact hk.issued g (execute_authorization h hne hg)
    cases execute_gate h with
    | quiet hauth hagents hw => exact hsame hauth
    | decided s he hd => exact absurd he (hne s)
    | withdrew s he hw he' =>
      subst he he'
      obtain ⟨hf, -, hsuspend, -⟩ := tracks_step h ht
      refine ⟨fun he => absurd he (by simp [ExecuteThread.undecided, ExecuteThread.remaining]), ?_⟩
      intro g hg
      have hallowed := hf.verdict.allowed.mpr (by rw [show s.authorization = some g from hg]; rfl)
      rw [hf.verdict.contained hsuspend] at hallowed
      exact absurd hallowed (withhold_ne_allow _)
    | contained s he hauth hagents hw => exact hsame hauth

theorem keeps_alone (ts : List Tick) (ht : Tracks d w₀ r w e)
    (hfresh : ∀ t ∈ ts, w₀.authority.revoked.get? ("grant-" ++ t.uuid) = none)
    (hk : Keeps d w₀ r w e) : Keeps d w₀ r (alone d ts w e).1 (alone d ts w e).2 := by
  induction ts generalizing w e with
  | nil => exact hk
  | cons t ts ih =>
    simp only [alone]
    split
    · exact hk
    · rename_i w' e' h
      exact ih (tracks_step h ht) (fun t' ht' => hfresh t' (by simp [ht']))
        (keeps_step h ht (hfresh t (by simp)) hk)

theorem call_issued {ts : Fin callLength → Tick} {result : RuntimeResult}
    {g : RuntimeExecutionGrant} (h : w.call d ts r = (w', .returned result))
    (hg : result.authorization = some g)
    (hfresh : ∀ i, w.authority.revoked.get? ("grant-" ++ (ts i).uuid) = none) :
    Issued d r w'.authority g ∧ GrantBinds d r g := by
  have htracks := tracks_alone (List.ofFn ts) (tracks_request d w r)
  have hkeeps := keeps_alone (List.ofFn ts) (tracks_request d w r) (by
    intro t ht
    obtain ⟨i, rfl⟩ := List.mem_ofFn.mp ht
    exact hfresh i) ⟨fun _ => rfl, fun g hg => by cases hg⟩
  rw [call] at h
  rw [h] at htracks hkeeps
  exact ⟨hkeeps.issued g hg, Concluded.bound htracks g hg⟩

end World

structure Deployment.SelfNamed (d : Deployment) (toolId : String) : Prop where
  registered : ∀ descriptor, d.registry.resolve toolId = some descriptor →
    descriptor.toolId = toolId
  profiled : ∃ c c', d.capabilities.get? (profileId toolId) = some c ∧ c.capabilityProfileId ≠ "" ∧
    d.capabilities.get? c.capabilityProfileId = some c' ∧
    c'.capabilityProfileId = c.capabilityProfileId ∧
    c'.computeDigest d.capabilityHashing = c.computeDigest d.capabilityHashing

namespace DefaultToolExecutor

variable {ω : Type} {x : DefaultToolExecutor ω} {d : Deployment} {registry : ExecutableRegistry}
  {r : ExecuteRequest} {result : RuntimeResult} {g : RuntimeExecutionGrant} {t : ExecutorTick}
  {a : ExecutionAuthority}

structure Shares (x : DefaultToolExecutor ω) (d : Deployment) (registry : ExecutableRegistry) :
    Prop where
  authority : x.hasAuthority = true
  signing : x.signing = d.signing
  hashing : x.capabilityHashing = d.capabilityHashing
  capabilities : x.capabilityRegistry = some d.capabilities
  tools : x.toolRegistry = some registry
  passive : registry.passive = d.registry

def Executable (x : DefaultToolExecutor ω) (t : ExecutorTick) (a : ExecutionAuthority)
    (result : RuntimeResult) (g : RuntimeExecutionGrant) : Prop :=
  ∃ parameters descriptor, result.authorizedParameters = some parameters ∧
    x.resolveDescriptor (some g) = .ok descriptor ∧
    ExecutionBinding.fromOperation descriptor.toolId descriptor.version parameters none =
      some g.binding ∧
    ∃ capabilities, (x.verifyAndPrepare t a descriptor.toolId descriptor.version parameters (some g)
      none).result = .ok (g, capabilities)

theorem Shares.resolves (hx : x.Shares d registry) (hg : GrantBinds d r g) :
    ∃ descriptor, x.resolveDescriptor (some g) = .ok descriptor ∧
      d.registry.resolve r.toolId = some descriptor.toToolDescriptor ∧
      descriptor.version = g.binding.toolVersion := by
  obtain ⟨passive, hresolve, hversion, -⟩ := hg.version
  rw [← hx.passive] at hresolve
  obtain ⟨descriptor, hr, rfl⟩ := ExecutableRegistry.resolveVersion_of_resolve hresolve
  refine ⟨descriptor, ?_, by rw [← hx.passive]; exact hresolve, hversion⟩
  rw [← hg.toolId, hversion] at hr
  simp only [resolveDescriptor, hx.tools, hr]

theorem Shares.admits_iff (hx : x.Shares d registry) (hg : GrantBinds d r g) (toolId : String) :
    (∃ capabilities, x.admission g none toolId = .ok capabilities) ↔
      x.sandbox.isSome = true ∧ ∃ c c', d.capabilities.get? (profileId r.toolId) = some c ∧
        c.capabilityProfileId ≠ "" ∧ d.capabilities.get? c.capabilityProfileId = some c' ∧
        c'.capabilityProfileId = c.capabilityProfileId ∧
        c'.computeDigest d.capabilityHashing = c.computeDigest d.capabilityHashing := by
  obtain ⟨c, hc, hprofile, hdigest⟩ := hg.profile
  simp only [admission_none, resolveCapabilities_ok_iff, hx.capabilities, hx.hashing,
    hprofile, hdigest, Option.some.injEq]
  constructor
  · rintro ⟨c', hs, hne, ⟨profiles, rfl, hget⟩, hid, hd⟩
    refine ⟨hs, c, c', hc, ?_, ?_, hid.symm, hd.symm⟩
    · rw [hid]
      exact hne
    · rw [hid]
      exact hget
  · rintro ⟨hs, c₀, c', hc₀, hne, hget, hid, hd⟩
    rw [hc] at hc₀
    cases hc₀
    refine ⟨c', hs, ?_, ⟨d.capabilities, rfl, ?_⟩, hid.symm, hd.symm⟩
    · rw [hid]
      exact hne
    · rw [hid]
      exact hget

theorem Executable.needs (h : x.Executable t a result g) (hg : result.authorization = some g)
    (hissued : Issued d r a g) (hbinds : GrantBinds d r g) (hx : x.Shares d registry) :
    (r.resource = none ∨ r.parameters.contains (.text resourceParameter) = true) ∧
      d.SelfNamed r.toolId ∧ x.sandbox.isSome = true := by
  obtain ⟨parameters, descriptor, hp, hd, hrebuilt, capabilities, hresult⟩ := h
  obtain ⟨descriptor', hresolve, hregistered, -⟩ := hx.resolves hbinds
  rw [hresolve] at hd
  cases hd
  simp only [RuntimeResult.authorizedParameters, hg, Option.map_some, Option.some.injEq] at hp
  subst hp
  obtain ⟨htool, -, hresource⟩ := (ExecutionBinding.rebuilt_iff _ _ _).mp hrebuilt
  obtain ⟨-, -, hadmission⟩ := prepare_claims (x := x) (a := a) (t := t) (p :=
    ⟨descriptor.toolId, descriptor.version, g.binding.parametersDict, some g, none,
      instantiate descriptor, descriptor.implementationId⟩) hresult
  obtain ⟨hsandbox, hprofiled⟩ :=
    (hx.admits_iff hbinds descriptor.toolId).mp ⟨capabilities, hadmission⟩
  refine ⟨(Deployment.prepare_resource hissued.binding).mp hresource, ⟨?_, hprofiled⟩, hsandbox⟩
  intro passive hpassive
  rw [hregistered] at hpassive
  cases hpassive
  exact htool.trans hbinds.toolId

theorem executable_of (hg : result.authorization = some g) (hissued : Issued d r a g)
    (hbinds : GrantBinds d r g) (hx : x.Shares d registry) (ht : t.verifiedAt ≤ t.claimedAt)
    (hlive : t.claimedAt < g.expiresAt)
    (hresource : r.resource = none ∨ r.parameters.contains (.text resourceParameter) = true)
    (hnamed : d.SelfNamed r.toolId) (hsandbox : x.sandbox.isSome = true) :
    x.Executable t a result g := by
  obtain ⟨descriptor, hresolve, hregistered, hversion⟩ := hx.resolves hbinds
  have hparameters : result.authorizedParameters = some g.binding.parametersDict := by
    simp [RuntimeResult.authorizedParameters, hg]
  have htool : descriptor.toolId = g.binding.toolId :=
    (hnamed.registered _ hregistered).trans hbinds.toolId.symm
  have hrebuilt : ExecutionBinding.fromOperation descriptor.toolId descriptor.version
      g.binding.parametersDict none = some g.binding :=
    (ExecutionBinding.rebuilt_iff _ _ _).mpr
      ⟨htool, hversion, (Deployment.prepare_resource hissued.binding).mpr hresource⟩
  have hverifies : (a.verifyGrant x.signing t.verifiedAt (.grant g) g.binding).2 = .ok () := by
    rw [hx.signing]
    exact verifyGrant_ok_iff.mpr
      ⟨hissued.held.authority, hissued.signature, hissued.held.presentable (ht.trans_lt hlive)⟩
  have hclaims : Claims x t a ⟨descriptor.toolId, descriptor.version, g.binding.parametersDict,
      some g, none, instantiate descriptor, descriptor.implementationId⟩ g g.binding :=
    ⟨hx.authority, rfl, hrebuilt, hverifies,
      (hx.admits_iff hbinds descriptor.toolId).mpr ⟨hsandbox, hnamed.profiled⟩, hlive⟩
  obtain ⟨capabilities, -, hresult, -, -⟩ := hclaims.prepares ht hissued.held.recordsExpiry
  exact ⟨_, descriptor, hparameters, hresolve, hrebuilt, capabilities, hresult⟩

theorem allow_executable_iff {w w' : World} {ts : Fin World.callLength → Tick}
    (h : w.call d ts r = (w', .returned result)) (hg : result.authorization = some g)
    (hfresh : ∀ i, w.authority.revoked.get? ("grant-" ++ (ts i).uuid) = none)
    {between : List AuthorityCall}
    (hbetween : ∀ e ∈ SingleUse.events d.signing w'.authority between,
      SingleUse.Leaves d.signing g e)
    (hx : x.Shares d registry) (ht : t.verifiedAt ≤ t.claimedAt)
    (hlive : t.claimedAt < g.expiresAt) :
    x.Executable t (SingleUse.after d.signing w'.authority between) result g ↔
      (r.resource = none ∨ r.parameters.contains (.text resourceParameter) = true) ∧
        d.SelfNamed r.toolId ∧ x.sandbox.isSome = true := by
  obtain ⟨hissued, hbinds⟩ := World.call_issued h hg hfresh
  have hpresented : Issued d r (SingleUse.after d.signing w'.authority between) g :=
    ⟨hissued.binding, hissued.signature, SingleUse.held_run hissued.held hbetween⟩
  constructor
  · intro hexecutable
    exact hexecutable.needs hg hpresented hbinds hx
  · rintro ⟨hresource, hnamed, hsandbox⟩
    exact executable_of hg hpresented hbinds hx ht hlive hresource hnamed hsandbox

def ticketRegistry : ExecutableRegistry :=
  { descriptors := .set .empty "ticket_read" (.set .empty "1.0.0"
      { toolId := "ticket_read"
        version := "1.0.0"
        category := "helpdesk"
        instanceTool := some ⟨"ticket_read", "1.0.0"⟩
        implementationId := some "ticket_read" })
    keyed := by
      intro toolId versions version descriptor hversions hdescriptor
      simp only [Dict.get?_set, Dict.get?_empty, Option.ite_none_right_eq_some,
        Option.some.injEq] at hversions
      rw [← hversions.2] at hdescriptor
      simp only [Dict.get?_set, Dict.get?_empty, Option.ite_none_right_eq_some,
        Option.some.injEq] at hdescriptor
      rw [← hdescriptor.2]
      exact hdescriptor.1 }

def ticketExecutor : DefaultToolExecutor Nat :=
  { sampleExecutor none with
    capabilityRegistry := some sampleDeployment.capabilities
    toolRegistry := some ticketRegistry
    signing := sampleDeployment.signing
    capabilityHashing := sampleDeployment.capabilityHashing }

theorem ticketExecutor_shares : ticketExecutor.Shares sampleDeployment ticketRegistry :=
  ⟨rfl, rfl, rfl, rfl, rfl, rfl⟩

def ticketCall (resource : Option String) : World × ExecuteThread :=
  sampleRegistered.call sampleDeployment (fun i => AgentSecurityPlatform.sampleTick i)
    { sampleRequest "session-1" with resource }

theorem ticketCall_fresh (i : Fin World.callLength) :
    sampleRegistered.authority.revoked.get?
      ("grant-" ++ (AgentSecurityPlatform.sampleTick i).uuid) = none := by
  have hrevoked : sampleRegistered.authority.revoked = .empty := by decide +kernel
  rw [hrevoked]
  rfl

theorem ticketCall_granted (resource : Option String)
    (h : (ticketCall resource).2.result.any (fun result =>
      result.authorization.any (fun g => sampleTick.claimedAt < g.expiresAt)) = true) :
    ∃ result g, ticketCall resource = ((ticketCall resource).1, .returned result) ∧
      result.authorization = some g ∧ sampleTick.claimedAt < g.expiresAt := by
  obtain ⟨result, hr, hany⟩ := (Option.any_eq_true _ _).mp h
  obtain ⟨g, hg, hlive⟩ := (Option.any_eq_true _ _).mp hany
  exact ⟨result, g, Prod.ext rfl (ExecuteThread.eq_returned hr), hg, by simpa using hlive⟩

theorem sampleDeployment_selfNamed : sampleDeployment.SelfNamed "ticket_read" := by
  refine ⟨?_, sampleCapabilities, sampleCapabilities, rfl, by decide, rfl, rfl, rfl⟩
  intro descriptor h
  cases h
  rfl

theorem ticketCall_plain : (ticketCall none).2.result.any (fun result =>
    result.authorization.any (fun g => sampleTick.claimedAt < g.expiresAt)) = true := by
  decide +kernel

theorem allow_executable_sample :
    ∃ result g, ticketCall none = ((ticketCall none).1, .returned result) ∧
      result.authorization = some g ∧
      ticketExecutor.Executable sampleTick (ticketCall none).1.authority result g := by
  obtain ⟨result, g, hcall, hg, hlive⟩ := ticketCall_granted none ticketCall_plain
  refine ⟨result, g, hcall, hg, ?_⟩
  have hquiet : ∀ e ∈ SingleUse.events sampleDeployment.signing (ticketCall none).1.authority [],
      SingleUse.Leaves sampleDeployment.signing g e := by
    simp [Run.history]
  have hiff := allow_executable_iff hcall hg ticketCall_fresh hquiet ticketExecutor_shares
    (by decide) hlive
  exact hiff.mpr ⟨.inl rfl, sampleDeployment_selfNamed, rfl⟩

theorem ticketCall_explicit : (ticketCall (some "T-1")).2.result.any (fun result =>
    result.authorization.any (fun g => sampleTick.claimedAt < g.expiresAt)) = true := by
  decide +kernel

theorem explicit_resource_unexecutable :
    ∃ result g, ticketCall (some "T-1") = ((ticketCall (some "T-1")).1, .returned result) ∧
      result.authorization = some g ∧ sampleTick.claimedAt < g.expiresAt ∧
      ticketExecutor.Shares sampleDeployment ticketRegistry ∧
      ¬ ticketExecutor.Executable sampleTick (ticketCall (some "T-1")).1.authority result g := by
  obtain ⟨result, g, hcall, hg, hlive⟩ := ticketCall_granted (some "T-1") ticketCall_explicit
  refine ⟨result, g, hcall, hg, hlive, ticketExecutor_shares, ?_⟩
  intro hexecutable
  obtain ⟨hissued, hbinds⟩ := World.call_issued hcall hg ticketCall_fresh
  obtain ⟨hresource, -⟩ := hexecutable.needs hg hissued hbinds ticketExecutor_shares
  rcases hresource with hnone | hpath
  · cases hnone
  · exact absurd hpath (by decide)

end DefaultToolExecutor

end AgentSecurityPlatform
