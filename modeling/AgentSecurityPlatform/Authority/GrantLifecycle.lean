import AgentSecurityPlatform.Authority.ExecutionAuthority

namespace AgentSecurityPlatform

open PythonJson

namespace Signing

theorem mem_optionalField (key k : String) (o : Option String) (x : Value) :
    (k, x) ∈ optionalField key o ↔ k = key ∧ ∃ v, o = some v ∧ x = .str (.ofString v) := by
  cases o <;> simp [optionalField, eq_comm]

-- every member of the payload is a text or a float
theorem payloadMembers_leaf (σ : Signing) (f : GrantFields) {m : String × Value}
    (h : m ∈ σ.payloadMembers f) : sorted m.2 = m.2 ∧ Recoverable m.2 := by
  have hoptional (key : String) (o : Option String) (hm : m ∈ optionalField key o) :
      sorted m.2 = m.2 ∧ Recoverable m.2 := by
    obtain ⟨-, v, -, hv⟩ := (mem_optionalField key m.1 o m.2).mp hm
    rw [hv]
    exact ⟨rfl, recoverable_str v⟩
  simp only [payloadMembers, List.mem_append] at h
  rcases h with (h | h) | h
  · have hbinding := isText_renderRaw .compact f.binding.recoverable_canonical.text
    simp only [List.mem_cons, List.not_mem_nil, or_false] at h
    rcases h with rfl | rfl | rfl | rfl | rfl | rfl | rfl
    · exact ⟨rfl, recoverable_str _⟩
    · exact ⟨rfl, recoverable_str _⟩
    · exact ⟨rfl, .str hbinding⟩
    · exact ⟨rfl, recoverable_float _⟩
    · exact ⟨rfl, recoverable_str _⟩
    · exact ⟨rfl, recoverable_float _⟩
    · exact ⟨rfl, recoverable_str _⟩
  · exact hoptional _ _ h
  · exact hoptional _ _ h

theorem payloadMembers_keys (σ : Signing) (f : GrantFields) :
    ((σ.payloadMembers f).map Prod.fst).Nodup := by
  simp only [payloadMembers]
  cases f.capabilityProfileId with
  | none => cases f.capabilityDigest with
    | none => simp [optionalField]
    | some digest => simp [optionalField]
  | some profile => cases f.capabilityDigest with
    | none => simp [optionalField]
    | some digest => simp [optionalField]

theorem recoverable_payload (σ : Signing) (f : GrantFields) :
    Recoverable (sorted (keyed (σ.payloadMembers f))) :=
  (recoverable_keyed (σ.payloadMembers_keys f) fun _ hm => (σ.payloadMembers_leaf f hm).2).sorted

theorem payloadMembers_subset {σ : Signing} {f g : GrantFields} (h : σ.payload f = σ.payload g)
    {m : String × Value} (hm : m ∈ σ.payloadMembers f) : m ∈ σ.payloadMembers g :=
  mem_of_sorted_keyed
    (renderRaw_injective .compact (σ.recoverable_payload f) (σ.recoverable_payload g) h)
    (fun _ hn => (σ.payloadMembers_leaf g hn).1) hm (σ.payloadMembers_leaf f hm).1

theorem payload_injective (σ : Signing) : Function.Injective σ.payload := by
  intro f g h
  have hm (k : String) (x : Value) : (k, x) ∈ σ.payloadMembers f ↔ (k, x) ∈ σ.payloadMembers g :=
    ⟨payloadMembers_subset h, payloadMembers_subset h.symm⟩
  simp only [payloadMembers, List.mem_append, mem_optionalField, List.mem_cons, Prod.mk.injEq,
    List.not_mem_nil, or_false] at hm
  have htext {s t : String} (hst : Str.ofString s = Str.ofString t) : s = t :=
    Str.ofString_injective hst
  have h1 : f.agentId = g.agentId := htext (by
    simpa using hm "agent_id" (.str (.ofString f.agentId)))
  have h2 : f.authorityId = g.authorityId := htext (by
    simpa using hm "authority_id" (.str (.ofString f.authorityId)))
  have h3 : f.binding = g.binding := ExecutionBinding.canonicalJson_injective (by
    simpa using hm "binding" (.str f.binding.canonicalJson))
  have h4 : f.expiresAt = g.expiresAt := σ.reprFloat_injective (by
    simpa using hm "expires_at" (.float (σ.reprFloat f.expiresAt)))
  have h5 : f.grantId = g.grantId := htext (by
    simpa using hm "grant_id" (.str (.ofString f.grantId)))
  have h6 : f.issuedAt = g.issuedAt := σ.reprFloat_injective (by
    simpa using hm "issued_at" (.float (σ.reprFloat f.issuedAt)))
  have h7 : f.sessionId = g.sessionId := htext (by
    simpa using hm "session_id" (.str (.ofString f.sessionId)))
  have h8 : f.capabilityProfileId = g.capabilityProfileId := Option.ext fun v => by
    simpa [Str.ofString_injective.eq_iff] using hm "capability_profile_id" (.str (.ofString v))
  have h9 : f.capabilityDigest = g.capabilityDigest := Option.ext fun v => by
    simpa [Str.ofString_injective.eq_iff] using hm "capability_digest" (.str (.ofString v))
  cases f
  cases g
  simp_all

-- stands for the keyed hash in sample runs
def checksum (payload : Str) : Nat :=
  payload.foldl (fun n c => (0x101 * n + c.val) % 2 ^ 64) 1

def reference : Signing :=
  ⟨FloatText.ofMicroseconds, FloatText.ofMicroseconds_injective,
    fun payload => "hmac-sha256:" ++ toString (checksum payload)⟩

theorem reference_sign_ne (f : GrantFields) : reference.sign f ≠ "" := by
  simp [sign, reference]

end Signing

namespace RuntimeExecutionGrant

theorem construct_eq_some {f : GrantFields} {s : String} {g : RuntimeExecutionGrant}
    (h : construct f s = some g) : g.toGrantFields = f ∧ g.signature = s := by
  unfold construct at h
  split at h
  · cases h
    exact ⟨rfl, rfl⟩
  · cases h

theorem construct_self (g : RuntimeExecutionGrant) :
    construct g.toGrantFields g.signature = some g := by
  unfold construct
  rw [dif_pos ⟨g.grantId_ne, g.authorityId_ne, g.agentId_ne, g.sessionId_ne, g.signature_ne⟩]

end RuntimeExecutionGrant

namespace ExecutionAuthority

variable {σ : Signing} {a : ExecutionAuthority} {now : Instant} {uuid : String}

@[simp] theorem prune_authorityId (a : ExecutionAuthority) (now : Instant) :
    (a.prune now).authorityId = a.authorityId := rfl

@[simp] theorem prune_issuanceClosed (a : ExecutionAuthority) (now : Instant) :
    (a.prune now).issuanceClosed = a.issuanceClosed := rfl

theorem get?_prune_outstanding (a : ExecutionAuthority) (now : Instant) (k : String) :
    (a.prune now).outstanding.get? k =
      (a.outstanding.get? k).filter (fun o => now < o.expiresAt) := by
  simp [prune]

theorem get?_prune_some {k : String} {o : OutstandingGrant}
    (h : (a.prune now).outstanding.get? k = some o) :
    a.outstanding.get? k = some o ∧ now < o.expiresAt := by
  rw [get?_prune_outstanding, Option.filter_eq_some_iff] at h
  simpa using h

theorem issue_cases {repository : Option EnforcementReader} {binding : ExecutionBinding}
    {decision : Decision} {agentId sessionId : String} {expectedEpoch : Option Nat}
    {profile digest : Option String} {a' : ExecutionAuthority}
    {r : Except IssueError (Option RuntimeExecutionGrant)}
    (h : a.issue σ now uuid repository binding decision agentId sessionId expectedEpoch profile
      digest = (a', r)) :
    (a' = a ∧ ∀ g, r ≠ .ok (some g)) ∨
      (decision = .allow ∧ a.issuanceClosedPlanes agentId = ∅ ∧
        epochMatches repository agentId expectedEpoch = .ok true ∧
        a' = (a.createGrant σ now uuid binding agentId sessionId profile digest).1 ∧
        r = match (a.createGrant σ now uuid binding agentId sessionId profile digest).2 with
          | some g => .ok (some g)
          | none => .error .validationError) := by
  unfold issue at h
  split at h
  · cases h
    exact .inl ⟨rfl, by simp⟩
  · rename_i hd
    split at h
    · cases h
      exact .inl ⟨rfl, by simp⟩
    · rename_i hs
      have hclosed : a.issuanceClosedPlanes agentId = ∅ := by
        simpa [issuanceSuspended] using hs
      split at h
      · cases h
        exact .inl ⟨rfl, by simp⟩
      · cases h
        exact .inl ⟨rfl, by simp⟩
      · rename_i he
        refine .inr ⟨not_not.mp hd, hclosed, he, ?_⟩
        split at h <;> rename_i hc <;> cases h <;> simp [hc]

theorem verifyAuthenticity_ok {toolId : String} {p : Presented} {g : RuntimeExecutionGrant}
    (h : a.verifyAuthenticity σ toolId p = .ok g) :
    p = .grant g ∧ g.authorityId = a.authorityId ∧ σ.sign g.toGrantFields = g.signature := by
  cases p with
  | missing => simp [verifyAuthenticity] at h
  | foreign => simp [verifyAuthenticity] at h
  | grant g' =>
    simp only [verifyAuthenticity] at h
    split at h
    · cases h
    · rename_i ha
      split at h
      · cases h
      · rename_i hs
        cases h
        exact ⟨rfl, not_not.mp ha, not_not.mp hs⟩

theorem requireExactMatch_ok {authorized requested : ExecutionBinding}
    (h : requireExactMatch authorized requested = .ok ()) : requested = authorized := by
  unfold requireExactMatch at h
  split_ifs at h with h1 h2 h3 h4
  exact ExecutionBinding.ext_fields (not_not.mp h1) (not_not.mp h2) (not_not.mp h3) (not_not.mp h4)

theorem requireClaimableLocked_outstanding {g : RuntimeExecutionGrant}
    {requested : ExecutionBinding} {toolId : String} {a' : ExecutionAuthority}
    {r : Except ExecutionBindingError Unit}
    (h : a.requireClaimableLocked now g requested toolId = (a', r)) :
    (a' = a.prune now ∨
      a' = { a.prune now with outstanding := (a.prune now).outstanding.erase g.grantId }) ∧
    (r = .ok () → a' = a.prune now ∧ now < g.expiresAt ∧ requested = g.binding ∧
      ∃ o, a.outstanding.get? g.grantId = some o ∧ now < o.expiresAt ∧
        o.agentId = g.agentId ∧ o.sessionId = g.sessionId) := by
  unfold requireClaimableLocked at h
  simp only at h
  split at h
  · cases h
    exact ⟨.inr rfl, by simp⟩
  · rename_i he
    split at h
    · cases h
      exact ⟨.inl rfl, by simp⟩
    · split at h
      · cases h
        exact ⟨.inl rfl, by simp⟩
      · rename_i o ho
        split at h
        · cases h
          exact ⟨.inl rfl, by simp⟩
        · rename_i hi
          rw [not_or, not_not, not_not] at hi
          cases h
          obtain ⟨ho', hlt⟩ := get?_prune_some ho
          exact ⟨.inl rfl, fun hr => ⟨rfl, not_le.mp he, requireExactMatch_ok hr, o, ho', hlt, hi⟩⟩

structure Claimable (σ : Signing) (a : ExecutionAuthority) (now : Instant)
    (g : RuntimeExecutionGrant) (requested : ExecutionBinding) : Prop where
  authority : g.authorityId = a.authorityId
  signature : σ.sign g.toGrantFields = g.signature
  unexpired : now < g.expiresAt
  binding : requested = g.binding
  recorded : ∃ o, a.outstanding.get? g.grantId = some o ∧ o.agentId = g.agentId ∧
    o.sessionId = g.sessionId

def Shrinks (a a' : ExecutionAuthority) : Prop :=
  ∀ k o, a'.outstanding.get? k = some o → a.outstanding.get? k = some o

theorem shrinks_prune (a : ExecutionAuthority) (now : Instant) : Shrinks a (a.prune now) :=
  fun _ _ h => (get?_prune_some h).1

theorem shrinks_erase (a : ExecutionAuthority) (k : String) :
    Shrinks a { a with outstanding := a.outstanding.erase k } := by
  intro j o h
  simp only [Dict.get?_erase] at h
  split at h
  · cases h
  · exact h

theorem Shrinks.trans {a b c : ExecutionAuthority} (h : Shrinks a b) (h' : Shrinks b c) :
    Shrinks a c := fun k o hk => h k o (h' k o hk)

theorem requireClaimableLocked_shrinks (a : ExecutionAuthority) (now : Instant)
    (g : RuntimeExecutionGrant) (requested : ExecutionBinding) (toolId : String) :
    Shrinks a (a.requireClaimableLocked now g requested toolId).1 := by
  rcases (requireClaimableLocked_outstanding (Prod.mk.eta.symm)).1 with h | h
  · rw [h]
    exact shrinks_prune a now
  · rw [h]
    exact (shrinks_prune a now).trans (shrinks_erase _ _)

theorem verifyGrant_shrinks (p : Presented) (requested : ExecutionBinding) :
    Shrinks a (a.verifyGrant σ now p requested).1 := by
  unfold verifyGrant
  split
  · exact fun _ _ h => h
  · exact requireClaimableLocked_shrinks a now _ requested _

theorem verifyGrant_ok {g : RuntimeExecutionGrant} {requested : ExecutionBinding}
    (h : (a.verifyGrant σ now (.grant g) requested).2 = .ok ()) :
    Claimable σ a now g requested := by
  unfold verifyGrant at h
  split at h
  · cases h
  · rename_i g' hv
    obtain ⟨hp, ha, hs⟩ := verifyAuthenticity_ok hv
    cases hp
    obtain ⟨-, hlt, hb, o, ho, -, hag, hse⟩ :=
      (requireClaimableLocked_outstanding (Prod.mk.eta.symm)).2 h
    exact ⟨ha, hs, hlt, hb, o, ho, hag, hse⟩

theorem claimGrant_verifyGrant (p : Presented) (requested : ExecutionBinding) :
    (a.claimGrant σ now p requested).2 = (a.verifyGrant σ now p requested).2 := by
  unfold claimGrant verifyGrant
  split
  · rfl
  · split <;> rename_i h <;> rw [h]

theorem claimGrant_shrinks (p : Presented) (requested : ExecutionBinding) :
    Shrinks a (a.claimGrant σ now p requested).1 := by
  unfold claimGrant
  split
  · exact fun _ _ h => h
  · rename_i g _
    have hr := requireClaimableLocked_shrinks a now g requested requested.toolId
    split <;> rename_i h <;> rw [h] at hr
    · exact hr
    · exact hr.trans (shrinks_erase _ _)

theorem claimGrant_removes {g : RuntimeExecutionGrant} {requested : ExecutionBinding}
    (h : (a.claimGrant σ now (.grant g) requested).2 = .ok ()) :
    (a.claimGrant σ now (.grant g) requested).1.outstanding.get? g.grantId = none := by
  unfold claimGrant at h ⊢
  split at h
  · cases h
  · rename_i g' hv
    obtain ⟨hp, -, -⟩ := verifyAuthenticity_ok hv
    cases hp
    split at h
    · cases h
    · simp

theorem suspendIssuance_outstanding {agentId : String} {plane : IssuancePlane} {k : String}
    {o : OutstandingGrant}
    (h : (a.suspendIssuance agentId plane).1.outstanding.get? k = some o) :
    a.outstanding.get? k = some o ∧ o.agentId ≠ agentId := by
  simp only [suspendIssuance, Dict.get?_filter, Option.filter_eq_some_iff] at h
  simpa using h

@[simp] theorem resumeIssuance_outstanding (a : ExecutionAuthority) (agentId : String)
    (plane : IssuancePlane) : (a.resumeIssuance agentId plane).outstanding = a.outstanding := by
  unfold resumeIssuance
  split <;> rfl

theorem createGrant_outstanding {binding : ExecutionBinding} {agentId sessionId : String}
    {profile digest : Option String} {k : String} {o : OutstandingGrant}
    (h : (a.createGrant σ now uuid binding agentId sessionId profile digest).1.outstanding.get? k =
      some o) :
    (k = "grant-" ++ uuid ∧ o = ⟨now + a.ttlSeconds, agentId, sessionId⟩) ∨
      a.outstanding.get? k = some o := by
  simp only [createGrant, newFields, Dict.get?_set] at h
  split at h
  · rename_i hk
    simp only [Option.some.injEq] at h
    exact .inl ⟨hk.symm, h.symm⟩
  · exact .inr (get?_prune_some h).1

theorem issue_of_open {repository : Option EnforcementReader} {binding : ExecutionBinding}
    {agentId sessionId : String} {expectedEpoch : Option Nat} {profile digest : Option String}
    (hp : a.issuanceClosedPlanes agentId = ∅)
    (he : epochMatches repository agentId expectedEpoch = .ok true) :
    (a.issue σ now uuid repository binding .allow agentId sessionId expectedEpoch profile
      digest).1 = (a.createGrant σ now uuid binding agentId sessionId profile digest).1 := by
  simp only [issue, issuanceSuspended, hp, he]
  simp only [ne_eq, not_true_eq_false, if_false, decide_false, Bool.false_eq_true]
  split <;> rename_i h <;> rw [h]

theorem claimGrant_authentic {g : RuntimeExecutionGrant} (ha : g.authorityId = a.authorityId)
    (hs : σ.sign g.toGrantFields = g.signature) (requested : ExecutionBinding) :
    (a.claimGrant σ now (.grant g) requested).2 =
      (a.requireClaimableLocked now g requested requested.toolId).2 := by
  rw [claimGrant_verifyGrant]
  simp [verifyGrant, verifyAuthenticity, ha, hs]

end ExecutionAuthority

end AgentSecurityPlatform
