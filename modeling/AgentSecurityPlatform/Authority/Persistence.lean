import AgentSecurityPlatform.Authority.Claimability

namespace AgentSecurityPlatform

namespace ExecutionAuthority

structure Held (a : ExecutionAuthority) (g : RuntimeExecutionGrant) : Prop where
  authority : g.authorityId = a.authorityId
  recorded : a.outstanding.get? g.grantId = some ⟨g.expiresAt, g.agentId, g.sessionId⟩
  unrevoked : a.revoked.get? g.grantId = none

variable {σ : Signing} {a a' : ExecutionAuthority} {g : RuntimeExecutionGrant}
  {requested : ExecutionBinding} {now : Instant}

theorem Held.recordsExpiry (h : Held a g) : RecordsExpiry a g := by
  intro o ho
  rw [h.recorded] at ho
  cases ho
  rfl

theorem Held.prune (h : Held a g) (hnow : now < g.expiresAt) : Held (a.prune now) g := by
  refine ⟨h.authority, ?_, ?_⟩
  · rw [get?_prune_outstanding, h.recorded]
    simp [hnow]
  · simp [ExecutionAuthority.prune, h.unrevoked]

theorem Held.erase (h : Held a g) {k : String} (hk : k ≠ g.grantId) :
    Held { a with outstanding := a.outstanding.erase k } g :=
  ⟨h.authority, by simp [hk, h.recorded], h.unrevoked⟩

theorem Held.presentable (h : Held a g) (hnow : now < g.expiresAt) :
    Presentable a now g g.binding := by
  have hp := h.prune hnow
  exact ⟨hnow, (Dict.contains_eq_false_iff _ _).mpr hp.unrevoked, ⟨_, hp.recorded, rfl, rfl⟩, rfl⟩

-- a presentation of another grant, or of this one before it expires, leaves the record
theorem Held.requireClaimableLocked (h : Held a g) (hnow : now < g.expiresAt)
    {g' : RuntimeExecutionGrant} (hg : g'.grantId ≠ g.grantId ∨ g' = g) (toolId : String) :
    Held (a.requireClaimableLocked now g' requested toolId).1 g := by
  rcases hg with hne | rfl
  · rcases (requireClaimableLocked_outstanding (Prod.mk.eta.symm :
      a.requireClaimableLocked now g' requested toolId = _)).1 with heq | heq
    · rw [heq]
      exact h.prune hnow
    · rw [heq]
      exact (h.prune hnow).erase hne
  · rw [requireClaimableLocked_prunes now requested h.recordsExpiry]
    exact h.prune hnow

theorem Held.verifyGrant (h : Held a g) (hnow : now < g.expiresAt) {p : Presented}
    (hp : ∀ g', p = .grant g' → σ.sign g'.toGrantFields = g'.signature →
      g'.grantId ≠ g.grantId ∨ g' = g) :
    Held (a.verifyGrant σ now p requested).1 g := by
  unfold ExecutionAuthority.verifyGrant
  split
  · exact h
  · rename_i g' hv
    obtain ⟨rfl, -, hs⟩ := verifyAuthenticity_ok hv
    exact h.requireClaimableLocked hnow (hp g' rfl hs) _

theorem Held.claimGrant (h : Held a g) (hnow : now < g.expiresAt) {p : Presented}
    (hp : ∀ g', p = .grant g' → σ.sign g'.toGrantFields = g'.signature →
      g'.grantId ≠ g.grantId ∨ g' = g)
    (hc : ∀ g', p = .grant g' → (a.claimGrant σ now p requested).2 = .ok () →
      g'.grantId ≠ g.grantId) :
    Held (a.claimGrant σ now p requested).1 g := by
  unfold ExecutionAuthority.claimGrant at hc ⊢
  split
  · exact h
  · rename_i g' hv
    obtain ⟨rfl, -, hs⟩ := verifyAuthenticity_ok hv
    have hkept : Held (a.requireClaimableLocked now g' requested requested.toolId).1 g :=
      h.requireClaimableLocked hnow (hp g' rfl hs) requested.toolId
    rw [hv] at hc
    split
    · rename_i hr
      rw [hr] at hkept
      exact hkept
    · rename_i hr
      rw [hr] at hkept
      exact hkept.erase (hc g' rfl (by simp only [hr]))

theorem Held.createGrant (h : Held a g) (hnow : now < g.expiresAt) {uuid : String}
    (hu : "grant-" ++ uuid ≠ g.grantId) (binding : ExecutionBinding) (agentId sessionId : String)
    (profile digest : Option String) :
    Held (a.createGrant σ now uuid binding agentId sessionId profile digest).1 g := by
  have hp := h.prune hnow
  refine ⟨hp.authority, ?_, hp.unrevoked⟩
  simp only [ExecutionAuthority.createGrant, newFields, Dict.get?_set, hu, if_false]
  exact hp.recorded

theorem revokeAll_unrevoked {agentId k : String} (outstanding : List (String × OutstandingGrant))
    {revoked : Dict String Instant} (hr : revoked.get? k = none)
    (hk : ∀ e ∈ outstanding, e.1 = k → e.2.agentId ≠ agentId) :
    (revokeAll agentId outstanding revoked).get? k = none := by
  induction outstanding generalizing revoked with
  | nil => exact hr
  | cons e es ih =>
    simp only [revokeAll, List.foldl_cons]
    apply ih
    · split
      · rename_i ha
        rw [Dict.get?_set, if_neg (fun he => hk e (by simp) he ha)]
        exact hr
      · exact hr
    · exact fun f hf => hk f (by simp [hf])

theorem Held.suspendIssuance (h : Held a g) {agentId : String} (ha : agentId ≠ g.agentId)
    (plane : IssuancePlane) : Held (a.suspendIssuance agentId plane).1 g := by
  refine ⟨h.authority, ?_, ?_⟩
  · simp only [ExecutionAuthority.suspendIssuance, Dict.get?_filter, h.recorded]
    simp [Option.filter, Ne.symm ha]
  · simp only [ExecutionAuthority.suspendIssuance]
    apply revokeAll_unrevoked _ h.unrevoked
    intro e he hk
    have hget : a.outstanding.get? e.1 = some e.2 := (Dict.mem_entries_iff _ _ _).mp he
    rw [hk, h.recorded] at hget
    rw [← Option.some.inj hget]
    exact Ne.symm ha

theorem Held.resumeIssuance (h : Held a g) (agentId : String) (plane : IssuancePlane) :
    Held (a.resumeIssuance agentId plane) g := by
  unfold ExecutionAuthority.resumeIssuance
  split
  · exact h
  · exact ⟨h.authority, h.recorded, h.unrevoked⟩

end ExecutionAuthority

namespace SingleUse

open ExecutionAuthority

variable {σ : Signing} {a : ExecutionAuthority} {g : RuntimeExecutionGrant} {c : AuthorityCall}

-- one call that neither suspends the agent nor spends the grant, before it expires
structure Leaves (σ : Signing) (g : RuntimeExecutionGrant) (e : Event) : Prop where
  unexpired : e.1.now < g.expiresAt
  unsuspended : ¬ Suspends e g.agentId
  unspent : ¬ Consumes e g.grantId
  fresh : "grant-" ++ e.1.uuid ≠ g.grantId
  genuine : ∀ g', presents e.1.op = some g' → σ.sign g'.toGrantFields = g'.signature →
    g'.grantId ≠ g.grantId ∨ g' = g

theorem held_apply (h : Held a g) (hl : Leaves σ g (c, (apply σ a c).2)) :
    Held (apply σ a c).1 g := by
  obtain ⟨now, uuid, op⟩ := c
  have hnow : now < g.expiresAt := hl.unexpired
  cases op with
  | issue repository binding decision agentId sessionId expectedEpoch profile digest =>
    simp only [apply]
    rcases issue_cases (Prod.mk.eta.symm : a.issue σ now uuid repository binding decision agentId
      sessionId expectedEpoch profile digest = _) with ⟨ha, -⟩ | ⟨-, -, -, ha, -⟩
    · rw [ha]
      exact h
    · rw [ha]
      exact h.createGrant hnow hl.fresh binding agentId sessionId profile digest
  | verifyGrant p requested =>
    refine h.verifyGrant hnow ?_
    rintro g' rfl hs
    exact hl.genuine g' rfl hs
  | claimGrant p requested =>
    refine h.claimGrant hnow ?_ ?_
    · rintro g' rfl hs
      exact hl.genuine g' rfl hs
    · rintro g' rfl hok hid
      exact hl.unspent (.inr ⟨g', requested, ⟨.inl rfl, congrArg AuthorityReply.checked hok⟩, hid⟩)
  | verifyAndConsume p requested =>
    refine h.claimGrant hnow ?_ ?_
    · rintro g' rfl hs
      exact hl.genuine g' rfl hs
    · rintro g' rfl hok hid
      exact hl.unspent (.inr ⟨g', requested, ⟨.inr rfl, congrArg AuthorityReply.checked hok⟩, hid⟩)
  | consumeGrant g' =>
    exact h.erase (fun hid => hl.unspent (.inl ⟨g', rfl, hid⟩))
  | suspendIssuance agentId plane =>
    refine h.suspendIssuance ?_ plane
    rintro rfl
    exact hl.unsuspended ⟨plane, rfl⟩
  | resumeIssuance agentId plane => exact h.resumeIssuance agentId plane
  | outstandingGrantCount => exact h.prune hnow

theorem held_run {calls : List AuthorityCall} (h : Held a g)
    (hl : ∀ e ∈ events σ a calls, Leaves σ g e) : Held (after σ a calls) g := by
  induction calls generalizing a with
  | nil => exact h
  | cons c calls ih =>
    simp only [events, Run.history] at hl
    exact ih (held_apply h (hl _ (by simp))) (fun e he => hl e (by simp [he]))

end SingleUse

end AgentSecurityPlatform
