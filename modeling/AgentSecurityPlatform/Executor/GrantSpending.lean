import AgentSecurityPlatform.Executor.Preparation

namespace AgentSecurityPlatform

open ExecutionAuthority SingleUse

def ExecutorError.isRefusal : ExecutorError → Bool
  | .binding _ => true
  | .toolDisabled _ => true
  | .sandboxUnavailable _ _ => true
  | .capabilityProfileNotFound _ _ => true
  | .capabilityDigestMismatch _ _ _ _ => true
  | .noHandle _ => true
  | .factory _ => true
  | _ => false

def Attempt.Refused {ω : Type} (r : Attempt ω) : Prop :=
  (∃ e, r.result = .error e ∧ e.isRefusal = true) ∧ ∀ s ok, .recordStarted s ok ∉ r.calls

namespace DefaultToolExecutor

variable {ω : Type} {x : DefaultToolExecutor ω} {t : ExecutorTick} {a : ExecutionAuthority}
  {p : ExecutionPlan} {req : ExecutorRequest}

theorem instantiate_refusal {descriptor : ExecutableDescriptor} {e : ExecutorError}
    (h : instantiate descriptor = .error e) : e.isRefusal = true := by
  unfold instantiate at h
  split at h
  · cases h
    rfl
  · split at h <;> cases h <;> rfl

theorem ofDescriptor_refusal {descriptor : ExecutableDescriptor} {parameters : Parameters}
    {context : Option RuntimeContext} {grant : Option RuntimeExecutionGrant} {e : ExecutorError}
    (h : ExecutionPlan.ofDescriptor descriptor parameters context grant = .ok p)
    (he : p.tool = .error e) : e.isRefusal = true := by
  unfold ExecutionPlan.ofDescriptor at h
  split at h
  · cases h
  · cases h
    exact instantiate_refusal he

theorem plan_refusal {e : ExecutorError} (h : x.plan req = .ok p) (he : p.tool = .error e) :
    e.isRefusal = true := by
  cases req with
  | execute grant parameters context =>
    simp only [plan] at h
    split at h
    · cases h
    · exact ofDescriptor_refusal h he
  | executeDescriptor descriptor parameters context grant => exact ofDescriptor_refusal h he
  | executeTool tool parameters context grant implementationId =>
    cases h
    cases he

-- what follows the claim refuses
def Unusable (p : ExecutionPlan) : Prop :=
  (∃ e, p.tool = .error e) ∨ nonEmpty p.implementationId = none

theorem concludeRaised_not_refusal {l : Launch} {r : RaisedException} {e : ExecutorError}
    (h : (x.concludeRaised t l r).2 = .error e) : e.isRefusal = false := by
  simp only [concludeRaised, raisedError, Except.error.injEq] at h
  subst h
  split <;> rfl

theorem concludeReturned_not_refusal {l : Launch} {r : SandboxExecutionResult ω} {e : ExecutorError}
    (h : (x.concludeReturned t l r).2 = .error e) : e.isRefusal = false := by
  unfold concludeReturned at h
  split at h
  · split at h
    · cases h
      rfl
    · cases h
  · simp only [failureError, Except.error.injEq] at h
    subst h
    rfl

theorem recordStarted_not_refusal {l : Launch} {s : StartedRecord} {e : ExecutorError}
    (h : (x.recordStarted l s).2 = some e) : e.isRefusal = false := by
  unfold recordStarted at h
  split at h
  · cases h
  · split at h
    · cases h
    · cases h
      rfl

theorem launch_not_refusal {l : Launch} {parameters : Parameters}
    {capabilities : ExecutionCapabilities} {provenance : ExecutionProvenance}
    {implementationId : String} {e : ExecutorError}
    (h : (x.launch t l parameters capabilities provenance implementationId).2 = .error e) :
    e.isRefusal = false := by
  unfold launch at h
  split at h
  · rename_i recorded e' hr
    cases h
    exact recordStarted_not_refusal (congrArg Prod.snd hr)
  · simp only at h
    generalize (x.dispatch _).2 = outcome at h
    cases outcome with
    | raised r => exact concludeRaised_not_refusal h
    | returned r => exact concludeReturned_not_refusal h

theorem run_refused {tool : BaseTool} {parameters : Parameters}
    {capabilities : ExecutionCapabilities} {g : RuntimeExecutionGrant}
    {context : Option RuntimeContext} {implementationId : Option String} {e : ExecutorError}
    (h : (x.run t tool parameters capabilities g context implementationId).2 = .error e)
    (he : e.isRefusal = true) : nonEmpty implementationId = none := by
  unfold run at h
  split at h
  · assumption
  · split at h
    · cases h
      cases he
    · rw [launch_not_refusal h] at he
      cases he

theorem run_unusable (tool : BaseTool) (parameters : Parameters)
    (capabilities : ExecutionCapabilities) (g : RuntimeExecutionGrant)
    (context : Option RuntimeContext) {implementationId : Option String}
    (h : nonEmpty implementationId = none) :
    (x.run t tool parameters capabilities g context implementationId).1 = [] ∧
      ∃ e, (x.run t tool parameters capabilities g context implementationId).2 = .error e ∧
        e.isRefusal = true := by
  unfold run
  rw [h]
  exact ⟨rfl, _, rfl, rfl⟩

theorem unusable_refused {g : RuntimeExecutionGrant} {requested : ExecutionBinding}
    (h : Claims x t a p g requested) (hu : Unusable p) (ht : t.verifiedAt ≤ t.claimedAt)
    (hexpiry : RecordsExpiry a g) (hplan : x.plan req = .ok p) :
    (x.serve t a req).Refused ∧
      ¬ Untouched x.signing t.claimedAt a (x.serve t a req).authority := by
  obtain ⟨capabilities, -, hresult, hspent, hcalls⟩ := h.prepares ht hexpiry
  have hstarted (s : StartedRecord) (ok : Bool) :
    .recordStarted s ok ∉ (x.prepare t a p).calls := by
    simp [hcalls]
  obtain ⟨-, -, hpresentable⟩ := verifyGrant_ok_iff.mp h.verifies
  obtain ⟨o, ho, -⟩ := hpresentable.recorded
  have hrecorded := (get?_prune_some ho).1
  have hauthority : (x.serve t a req).authority = (x.prepare t a p).authority := by
    simp only [serve_eq, hplan, carryOut, hresult]
    split <;> rfl
  refine ⟨?_, ?_⟩
  · rw [serve_eq, hplan]
    simp only [carryOut, hresult]
    cases htool : p.tool with
    | error e => exact ⟨⟨e, rfl, plan_refusal hplan htool⟩, hstarted⟩
    | ok tool =>
      have himplementation : nonEmpty p.implementationId = none := by
        rcases hu with ⟨e, he⟩ | hnone
        · rw [htool] at he
          cases he
        · exact hnone
      obtain ⟨hran, hrefused⟩ :=
        run_unusable (x := x) (t := t) tool p.parameters capabilities g p.context himplementation
      refine ⟨hrefused, ?_⟩
      simp only [hran, List.append_nil]
      exact hstarted
  · intro huntouched
    rw [hauthority] at huntouched
    rcases huntouched.kept g.grantId o hrecorded with hkept | hexpired
    · rw [hspent] at hkept
      cases hkept
    · rw [hexpiry o hrecorded] at hexpired
      exact absurd h.unexpired (not_lt.mpr hexpired)

theorem prepare_error_prunes (ht : t.verifiedAt ≤ t.claimedAt)
    (hexpiry : ∀ g, p.grant = some g → x.signing.sign g.toGrantFields = g.signature →
      RecordsExpiry a g)
    {e : ExecutorError} (he : (x.prepare t a p).result = .error e) :
    PrunedBy t.claimedAt a (x.prepare t a p).authority := by
  have hcases := prepare_prepares x t a p
  generalize x.prepare t a p = prep at he hcases ⊢
  cases hcases with
  | unexamined e => exact .inl rfl
  | unverified g requested verified e hg hv =>
    rcases verifyGrant_prunes (hexpiry g hg) hv with h | h
    · exact .inl h
    · exact .inr ⟨t.verifiedAt, ht, h⟩
  | unadmitted g requested verified e hg hv =>
    rcases verifyGrant_prunes (hexpiry g hg) hv with h | h
    · exact .inl h
    · exact .inr ⟨t.verifiedAt, ht, h⟩
  | unclaimed g requested verified claimed e hg hv hc =>
    have hrecords : x.signing.sign g.toGrantFields = g.signature → RecordsExpiry verified g := by
      intro hs
      have hshrinks : Shrinks a (a.verifyGrant x.signing t.verifiedAt (.grant g) requested).1 :=
        verifyGrant_shrinks (.grant g) requested
      rw [hv] at hshrinks
      exact (hexpiry g hg hs).shrinks hshrinks
    rcases verifyGrant_prunes (hexpiry g hg) hv with rfl | rfl
    · rcases claimGrant_error_prunes hrecords hc with h | h
      · exact .inl h
      · exact .inr ⟨t.claimedAt, le_refl _, h⟩
    · rcases claimGrant_error_prunes hrecords hc with h | h
      · exact .inr ⟨t.verifiedAt, ht, h⟩
      · exact .inr ⟨t.claimedAt, le_refl _, h.trans (prune_prune a ht)⟩
  | claimed g requested verified claimed capabilities => cases he

theorem carryOut_refused {g : RuntimeExecutionGrant} {capabilities : ExecutionCapabilities}
    (h : (x.prepare t a p).result = .ok (g, capabilities)) (hr : (x.carryOut t a p).Refused) :
    Unusable p := by
  obtain ⟨⟨e, he, hrefusal⟩, -⟩ := hr
  simp only [carryOut, h] at he
  split at he
  · rename_i e' htool
    exact .inl ⟨e', htool⟩
  · exact .inr (run_refused he hrefusal)

theorem refusal_keeps_grant_iff {authorityId : String} {ttlSeconds : Instant}
    {a₀ : ExecutionAuthority} (h : create authorityId ttlSeconds = some a₀)
    (calls : List AuthorityCall) (hn : (calls.map AuthorityCall.uuid).Nodup)
    (x : DefaultToolExecutor ω) (t : ExecutorTick) (ht : t.verifiedAt ≤ t.claimedAt)
    (req : ExecutorRequest)
    (hgenuine : ∀ g, req.grant = some g → Genuine x.signing a₀ calls g) :
    ((x.serve t (after x.signing a₀ calls) req).Refused →
      Untouched x.signing t.claimedAt (after x.signing a₀ calls)
        (x.serve t (after x.signing a₀ calls) req).authority) ↔
    ¬ ∃ p g requested, x.plan req = .ok p ∧
      Claims x t (after x.signing a₀ calls) p g requested ∧ Unusable p := by
  generalize ha : after x.signing a₀ calls = a
  have hrecords (g : RuntimeExecutionGrant) (hg : req.grant = some g)
      (hs : x.signing.sign g.toGrantFields = g.signature) : RecordsExpiry a g := by
    rw [← ha]
    exact (hgenuine g hg).recordsExpiry (create_outstanding h) hn hs
  constructor
  · rintro hkeeps ⟨p, g, requested, hplan, hclaims, hu⟩
    have hs := (verifyGrant_ok_iff.mp hclaims.verifies).2.1
    obtain ⟨hrefused, htouched⟩ := unusable_refused hclaims hu ht
      (hrecords g ((plan_grant hplan).symm.trans hclaims.grant) hs) hplan
    exact htouched (hkeeps hrefused)
  · intro hnone hrefused
    rw [serve_eq] at hrefused ⊢
    cases hplan : x.plan req with
    | error e => exact PrunedBy.untouched (.inl rfl)
    | ok p =>
      simp only [hplan] at hrefused ⊢
      cases hresult : (x.prepare t a p).result with
      | error e =>
        have hauthority : (x.carryOut t a p).authority = (x.prepare t a p).authority := by
          simp only [carryOut, hresult]
        rw [hauthority]
        refine PrunedBy.untouched (prepare_error_prunes ht ?_ hresult)
        exact fun g hg => hrecords g ((plan_grant hplan).symm.trans hg)
      | ok claimed =>
        obtain ⟨g, capabilities⟩ := claimed
        obtain ⟨requested, hclaims, -⟩ := prepare_claims hresult
        exact absurd ⟨p, g, requested, hplan, hclaims, carryOut_refused hresult hrefused⟩ hnone

theorem unadmitted_refused {g : RuntimeExecutionGrant} {requested : ExecutionBinding}
    {e : ExecutorError} (hplan : x.plan req = .ok p) (hbound : x.hasAuthority = true)
    (hgrant : p.grant = some g)
    (hoperation : ExecutionBinding.fromOperation p.toolId p.toolVersion p.parameters none =
      some requested)
    (hverifies : (a.verifyGrant x.signing t.verifiedAt (.grant g) requested).2 = .ok ())
    (hadmission : x.admission g p.context p.toolId = .error e) (he : e.isRefusal = true) :
    (x.serve t a req).Refused := by
  have hverified : a.verifyGrant x.signing t.verifiedAt (.grant g) requested =
      ((a.verifyGrant x.signing t.verifiedAt (.grant g) requested).1, .ok ()) :=
    Prod.ext rfl hverifies
  rw [serve_eq, hplan]
  simp only [carryOut, prepare, verifyAndPrepare, hbound, hgrant, hoperation, hadmission]
  rw [hverified]
  exact ⟨⟨e, rfl, he⟩, by simp⟩

theorem sampleContext_refused :
    ((sampleExecutor (some "file_read")).serve sampleTick sampleIssued
      (sampleCall (some sampleContext))).Refused :=
  unadmitted_refused (plan_sampleCall (some "file_read") (some sampleContext)) rfl rfl
    (samplePlan_operation (some "file_read") (some sampleContext)) sampleIssued_verifies
    (e := .binding ⟨.identityMismatch, some "read_file",
      "context agent does not match the agent the grant was issued for"⟩) rfl rfl

theorem refusal_keeps_grant_sample :
    ((sampleExecutor (some "file_read")).serve sampleTick sampleIssued
      (sampleCall (some sampleContext))).Refused ∧
    Untouched Signing.reference sampleTick.claimedAt sampleIssued
      ((sampleExecutor (some "file_read")).serve sampleTick sampleIssued
        (sampleCall (some sampleContext))).authority := by
  have hiff := refusal_keeps_grant_iff sample_create [sampleIssue] (by decide)
    (sampleExecutor (some "file_read")) sampleTick (by decide) (sampleCall (some sampleContext)) (by
      intro g hg
      cases hg
      exact sampleGranted_genuine)
  refine ⟨sampleContext_refused, hiff.mpr ?_ sampleContext_refused⟩
  rintro ⟨p, g, requested, hplan, hclaims, -⟩
  rw [plan_sampleCall] at hplan
  cases hplan
  obtain ⟨capabilities, hadmission⟩ := hclaims.admitted
  have hg : some sampleGranted = some g := hclaims.grant
  cases hg
  cases hadmission

theorem refusal_spends_grant :
    ¬ (((sampleExecutor none).serve sampleTick sampleIssued (sampleCall none)).Refused →
      Untouched Signing.reference sampleTick.claimedAt sampleIssued
        ((sampleExecutor none).serve sampleTick sampleIssued (sampleCall none)).authority) := by
  intro hkeeps
  obtain ⟨hrefused, htouched⟩ := unusable_refused (sampleGranted_claims none) (.inr rfl)
    (by decide) sampleIssued_recordsExpiry (plan_sampleCall none none)
  exact htouched (hkeeps hrefused)

end DefaultToolExecutor

end AgentSecurityPlatform
