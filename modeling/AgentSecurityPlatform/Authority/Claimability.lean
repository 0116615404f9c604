import AgentSecurityPlatform.Authority.SingleUse

namespace AgentSecurityPlatform

namespace ExecutionAuthority

variable {σ : Signing} {a a' : ExecutionAuthority} {g : RuntimeExecutionGrant}
  {requested : ExecutionBinding} {now : Instant}

theorem prune_prune (a : ExecutionAuthority) {s t : Instant} (h : s ≤ t) :
    (a.prune s).prune t = a.prune t := by
  have hlater (e : Instant) : (decide (t < e) && decide (s < e)) = decide (t < e) := by
    by_cases ht : t < e
    · simp [ht, lt_of_le_of_lt h ht]
    · simp [ht]
  simp only [prune, Dict.filter, List.filter_filter, hlater]

theorem requireExactMatch_self (b : ExecutionBinding) : requireExactMatch b b = .ok () := by
  simp [requireExactMatch]

structure Presentable (a : ExecutionAuthority) (now : Instant) (g : RuntimeExecutionGrant)
    (requested : ExecutionBinding) : Prop where
  unexpired : now < g.expiresAt
  unrevoked : (a.prune now).revoked.contains g.grantId = false
  recorded : ∃ o, (a.prune now).outstanding.get? g.grantId = some o ∧ o.agentId = g.agentId ∧
    o.sessionId = g.sessionId
  binding : requested = g.binding

theorem requireClaimableLocked_ok_iff (toolId : String) :
    (a.requireClaimableLocked now g requested toolId).2 = .ok () ↔
      Presentable a now g requested := by
  unfold requireClaimableLocked
  simp only
  constructor
  · intro h
    split at h
    · cases h
    · rename_i he
      split at h
      · cases h
      · rename_i hr
        split at h
        · cases h
        · rename_i o ho
          split at h
          · cases h
          · rename_i hi
            rw [not_or, not_not, not_not] at hi
            exact ⟨not_le.mp he, Bool.eq_false_iff.mpr hr, ⟨o, ho, hi⟩, requireExactMatch_ok h⟩
  · rintro ⟨he, hr, ⟨o, ho, ha, hs⟩, rfl⟩
    simp only [not_le.mpr he, if_false, hr, Bool.false_eq_true, ho, ha, hs, ne_eq,
      not_true_eq_false, or_self, requireExactMatch_self]

theorem claimGrant_ok_iff :
    (a.claimGrant σ now (.grant g) requested).2 = .ok () ↔
      g.authorityId = a.authorityId ∧ σ.sign g.toGrantFields = g.signature ∧
        Presentable a now g requested := by
  rw [claimGrant_verifyGrant]
  unfold verifyGrant
  split
  · rename_i e hv
    constructor
    · intro h
      cases h
    · rintro ⟨ha, hs, -⟩
      simp [verifyAuthenticity, ha, hs] at hv
  · rename_i g' hv
    obtain ⟨hp, ha, hs⟩ := verifyAuthenticity_ok hv
    cases hp
    rw [requireClaimableLocked_ok_iff]
    exact ⟨fun h => ⟨ha, hs, h⟩, fun h => h.2.2⟩

theorem verifyGrant_ok_iff :
    (a.verifyGrant σ now (.grant g) requested).2 = .ok () ↔
      g.authorityId = a.authorityId ∧ σ.sign g.toGrantFields = g.signature ∧
        Presentable a now g requested := by
  rw [← claimGrant_verifyGrant, claimGrant_ok_iff]

def RecordsExpiry (a : ExecutionAuthority) (g : RuntimeExecutionGrant) : Prop :=
  ∀ o, a.outstanding.get? g.grantId = some o → o.expiresAt = g.expiresAt

theorem RecordsExpiry.shrinks (h : RecordsExpiry a g) (hs : Shrinks a a') : RecordsExpiry a' g :=
  fun o ho => h o (hs g.grantId o ho)

-- the expired branch removes what pruning has removed already
theorem requireClaimableLocked_prunes (now : Instant) (requested : ExecutionBinding)
    (h : RecordsExpiry a g) (toolId : String) :
    (a.requireClaimableLocked now g requested toolId).1 = a.prune now := by
  unfold requireClaimableLocked
  simp only
  split
  · rename_i he
    have habsent : (a.prune now).outstanding.get? g.grantId = none := by
      cases ho : (a.prune now).outstanding.get? g.grantId with
      | none => rfl
      | some o =>
        obtain ⟨ho', hlt⟩ := get?_prune_some ho
        rw [h o ho'] at hlt
        exact absurd he (not_le.mpr hlt)
    rw [Dict.erase_of_absent _ _ habsent]
  · split
    · rfl
    · split
      · rfl
      · split <;> rfl

-- what a refused presentation may leave of the authority it was made to
def PrunedBy (now : Instant) (a a' : ExecutionAuthority) : Prop :=
  a' = a ∨ ∃ t ≤ now, a' = a.prune t

theorem verifyGrant_prunes {r : Except ExecutionBindingError Unit}
    (h : σ.sign g.toGrantFields = g.signature → RecordsExpiry a g)
    (hv : a.verifyGrant σ now (.grant g) requested = (a', r)) : a' = a ∨ a' = a.prune now := by
  unfold verifyGrant at hv
  split at hv
  · cases hv
    exact .inl rfl
  · rename_i g' hauthentic
    obtain ⟨hp, -, hs⟩ := verifyAuthenticity_ok hauthentic
    cases hp
    have hprunes := requireClaimableLocked_prunes now requested (h hs) requested.toolId
    rw [hv] at hprunes
    exact .inr hprunes

theorem claimGrant_error_prunes {e : ExecutionBindingError}
    (h : σ.sign g.toGrantFields = g.signature → RecordsExpiry a g)
    (hc : a.claimGrant σ now (.grant g) requested = (a', .error e)) :
    a' = a ∨ a' = a.prune now := by
  unfold claimGrant at hc
  split at hc
  · cases hc
    exact .inl rfl
  · rename_i g' hv
    obtain ⟨hp, -, hs⟩ := verifyAuthenticity_ok hv
    cases hp
    split at hc
    · rename_i b e' hr
      cases hc
      have hprunes := requireClaimableLocked_prunes now requested (h hs) requested.toolId
      rw [hr] at hprunes
      exact .inr hprunes
    · cases hc

structure Untouched (σ : Signing) (now : Instant) (a a' : ExecutionAuthority) : Prop where
  subset : Shrinks a a'
  kept : ∀ k o, a.outstanding.get? k = some o →
    a'.outstanding.get? k = some o ∨ o.expiresAt ≤ now
  claimable : ∀ later, now ≤ later → ∀ p requested,
    (a'.claimGrant σ later p requested).2 = (a.claimGrant σ later p requested).2

theorem claimGrant_prune (a : ExecutionAuthority) {s t : Instant} (h : s ≤ t) (p : Presented)
    (requested : ExecutionBinding) :
    ((a.prune s).claimGrant σ t p requested).2 = (a.claimGrant σ t p requested).2 := by
  have hauthentic : (a.prune s).verifyAuthenticity σ requested.toolId p =
      a.verifyAuthenticity σ requested.toolId p := by
    cases p <;> rfl
  rw [claimGrant_verifyGrant, claimGrant_verifyGrant]
  simp only [verifyGrant, hauthentic]
  split
  · rfl
  · simp only [requireClaimableLocked, prune_prune a h]

theorem PrunedBy.untouched (h : PrunedBy now a a') : Untouched σ now a a' := by
  rcases h with rfl | ⟨t, ht, rfl⟩
  · exact ⟨fun _ _ h => h, fun k o ho => .inl ho, fun _ _ _ _ => rfl⟩
  · refine ⟨shrinks_prune a t, ?_, fun later hl p requested =>
      claimGrant_prune a (ht.trans hl) p requested⟩
    intro k o ho
    by_cases hlt : t < o.expiresAt
    · refine .inl ?_
      rw [get?_prune_outstanding, ho]
      simp [hlt]
    · exact .inr ((not_lt.mp hlt).trans ht)

theorem Presentable.later {s t : Instant} (h : Presentable a s g requested) (hst : s ≤ t)
    (he : RecordsExpiry a g) (ht : t < g.expiresAt) : Presentable (a.prune s) t g requested := by
  refine ⟨ht, ?_, ?_, h.binding⟩
  · rw [prune_prune a hst, Dict.contains_eq_false_iff]
    have hunrevoked := (Dict.contains_eq_false_iff _ _).mp h.unrevoked
    have hpruned : (a.prune t).revoked.get? g.grantId =
        ((a.prune s).revoked.get? g.grantId).filter (fun e => t < e) := by
      rw [← prune_prune a hst]
      simp [prune]
    rw [hpruned, hunrevoked]
    rfl
  · obtain ⟨o, ho, hi⟩ := h.recorded
    obtain ⟨ho', -⟩ := get?_prune_some ho
    refine ⟨o, ?_, hi⟩
    rw [prune_prune a hst, get?_prune_outstanding, ho']
    simp [he o ho', ht]

end ExecutionAuthority

namespace SingleUse

open ExecutionAuthority

variable {σ : Signing} {a : ExecutionAuthority} {calls : List AuthorityCall}
  {g : RuntimeExecutionGrant}

-- what unforgeability of the signature says of one grant presented after the calls
def Genuine (σ : Signing) (a : ExecutionAuthority) (calls : List AuthorityCall)
    (g : RuntimeExecutionGrant) : Prop :=
  σ.sign g.toGrantFields = g.signature →
    ∃ pre c post f, calls = pre ++ c :: post ∧ signedFields (after σ a pre) c = some f ∧
      σ.payload f = σ.payload g.toGrantFields

theorem Genuine.recordsExpiry (h : Genuine σ a calls g) (h0 : a.outstanding = .empty)
    (hn : (calls.map AuthorityCall.uuid).Nodup) (hs : σ.sign g.toGrantFields = g.signature) :
    RecordsExpiry (after σ a calls) g := by
  intro o ho
  obtain ⟨pre, c, post, f, hsigned, -, hid, rfl⟩ := tracked_run h0 calls g.grantId o ho
  obtain ⟨pre', c', post', f', hcalls, hf', hp⟩ := h hs
  have hfields : f' = g.toGrantFields := σ.payload_injective hp
  subst hfields
  obtain ⟨-, -, -, rfl⟩ := signedAt_unique hn hsigned ⟨hcalls, hf'⟩ hid
  rfl

end SingleUse

end AgentSecurityPlatform
