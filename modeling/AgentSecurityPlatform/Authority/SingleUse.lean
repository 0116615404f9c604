import AgentSecurityPlatform.Authority.GrantLifecycle
import AgentSecurityPlatform.Library.Run

namespace AgentSecurityPlatform

inductive AuthorityOp where
  | issue (repository : Option EnforcementReader) (binding : ExecutionBinding)
      (decision : Decision) (agentId sessionId : String) (expectedEpoch : Option Nat)
      (capabilityProfileId capabilityDigest : Option String)
  | verifyGrant (p : Presented) (requested : ExecutionBinding)
  | claimGrant (p : Presented) (requested : ExecutionBinding)
  | verifyAndConsume (p : Presented) (requested : ExecutionBinding)
  | consumeGrant (g : RuntimeExecutionGrant)
  | suspendIssuance (agentId : String) (plane : IssuancePlane)
  | resumeIssuance (agentId : String) (plane : IssuancePlane)
  | outstandingGrantCount

structure AuthorityCall where
  now : Instant
  uuid : String
  op : AuthorityOp

inductive AuthorityReply where
  | issued (r : Except IssueError (Option RuntimeExecutionGrant))
  | checked (r : Except ExecutionBindingError Unit)
  | revoked (n : Nat)
  | counted (n : Nat)
  | done

namespace ExecutionAuthority

def apply (σ : Signing) (a : ExecutionAuthority) (c : AuthorityCall) :
    ExecutionAuthority × AuthorityReply :=
  match c.op with
  | .issue repository binding decision agentId sessionId expectedEpoch profile digest =>
    let (a', r) := a.issue σ c.now c.uuid repository binding decision agentId sessionId
      expectedEpoch profile digest
    (a', .issued r)
  | .verifyGrant p requested =>
    let (a', r) := a.verifyGrant σ c.now p requested
    (a', .checked r)
  | .claimGrant p requested =>
    let (a', r) := a.claimGrant σ c.now p requested
    (a', .checked r)
  | .verifyAndConsume p requested =>
    let (a', r) := a.verifyAndConsume σ c.now p requested
    (a', .checked r)
  | .consumeGrant g => (a.consumeGrant g, .done)
  | .suspendIssuance agentId plane =>
    let (a', n) := a.suspendIssuance agentId plane
    (a', .revoked n)
  | .resumeIssuance agentId plane => (a.resumeIssuance agentId plane, .done)
  | .outstandingGrantCount =>
    let (a', n) := a.outstandingGrantCount c.now
    (a', .counted n)

end ExecutionAuthority

namespace SingleUse

open ExecutionAuthority

abbrev Event := AuthorityCall × AuthorityReply

abbrev after (σ : Signing) (a : ExecutionAuthority) (calls : List AuthorityCall) :
    ExecutionAuthority := Run.final (apply σ) a calls

abbrev events (σ : Signing) (a : ExecutionAuthority) (calls : List AuthorityCall) : List Event :=
  Run.history (apply σ) a calls

def Claimed (e : Event) (g : RuntimeExecutionGrant) (requested : ExecutionBinding) : Prop :=
  (e.1.op = .claimGrant (.grant g) requested ∨ e.1.op = .verifyAndConsume (.grant g) requested) ∧
    e.2 = .checked (.ok ())

def Admitted (e : Event) (g : RuntimeExecutionGrant) (requested : ExecutionBinding) : Prop :=
  Claimed e g requested ∨
    (e.1.op = .verifyGrant (.grant g) requested ∧ e.2 = .checked (.ok ()))

def Suspends (e : Event) (agentId : String) : Prop :=
  ∃ plane, e.1.op = .suspendIssuance agentId plane

def Consumes (e : Event) (grantId : String) : Prop :=
  (∃ g, e.1.op = .consumeGrant g ∧ g.grantId = grantId) ∨
    ∃ g requested, Claimed e g requested ∧ g.grantId = grantId

def presents : AuthorityOp → Option RuntimeExecutionGrant
  | .verifyGrant (.grant g) _ => some g
  | .claimGrant (.grant g) _ => some g
  | .verifyAndConsume (.grant g) _ => some g
  | _ => none

def signedFields (a : ExecutionAuthority) (c : AuthorityCall) : Option GrantFields :=
  match c.op with
  | .issue repository binding decision agentId sessionId expectedEpoch profile digest =>
    if decision = .allow ∧ a.issuanceClosedPlanes agentId = ∅ ∧
        epochMatches repository agentId expectedEpoch = .ok true then
      some (a.newFields c.now c.uuid binding agentId sessionId profile digest)
    else none
  | _ => none

def Unforgeable (σ : Signing) (a : ExecutionAuthority) (calls : List AuthorityCall) : Prop :=
  ∀ pre c post g, calls = pre ++ c :: post → presents c.op = some g →
    σ.sign g.toGrantFields = g.signature →
    ∃ pre' c' post' f, pre = pre' ++ c' :: post' ∧ signedFields (after σ a pre') c' = some f ∧
      σ.payload f = σ.payload g.toGrantFields

structure Admissible (σ : Signing) (a : ExecutionAuthority) (calls : List AuthorityCall) :
    Prop where
  clock : calls.Pairwise (fun c d => c.now ≤ d.now)
  fresh : (calls.map AuthorityCall.uuid).Nodup
  unforgeable : Unforgeable σ a calls

variable {σ : Signing} {a : ExecutionAuthority} {c : AuthorityCall}

theorem signedFields_eq_some {f : GrantFields} (h : signedFields a c = some f) :
    ∃ repository binding agentId sessionId expectedEpoch profile digest,
      c.op = .issue repository binding .allow agentId sessionId expectedEpoch profile digest ∧
      a.issuanceClosedPlanes agentId = ∅ ∧
      epochMatches repository agentId expectedEpoch = .ok true ∧
      f = a.newFields c.now c.uuid binding agentId sessionId profile digest := by
  unfold signedFields at h
  split at h
  · rename_i repository binding decision agentId sessionId expectedEpoch profile digest hop
    split at h
    · rename_i hc
      obtain ⟨rfl, hp, he⟩ := hc
      cases h
      exact ⟨repository, binding, agentId, sessionId, expectedEpoch, profile, digest,
        hop, hp, he, rfl⟩
    · cases h
  · cases h

theorem signedFields_grantId {f : GrantFields} (h : signedFields a c = some f) :
    f.grantId = "grant-" ++ c.uuid := by
  obtain ⟨_, _, _, _, _, _, _, -, -, -, rfl⟩ := signedFields_eq_some h
  rfl

theorem signedFields_reply {f : GrantFields} (h : signedFields a c = some f)
    {g : RuntimeExecutionGrant} (hg : RuntimeExecutionGrant.construct f (σ.sign f) = some g) :
    (apply σ a c).2 = .issued (.ok (some g)) := by
  obtain ⟨repository, binding, agentId, sessionId, expectedEpoch, profile, digest, hop,
    hp, he, rfl⟩ :=
    signedFields_eq_some h
  simp only [apply, hop, issue, issuanceSuspended, hp, he, createGrant, hg]
  simp

theorem apply_outstanding {k : String} {o : OutstandingGrant}
    (h : (apply σ a c).1.outstanding.get? k = some o) :
    (∃ f, signedFields a c = some f ∧ f.grantId = k ∧
      o = ⟨f.expiresAt, f.agentId, f.sessionId⟩) ∨
    (a.outstanding.get? k = some o ∧ ¬ Suspends (c, (apply σ a c).2) o.agentId ∧
      ¬ Consumes (c, (apply σ a c).2) k) := by
  obtain ⟨now, uuid, op⟩ := c
  cases op with
  | issue repository binding decision agentId sessionId expectedEpoch profile digest =>
    simp only [apply] at h
    rcases issue_cases (Prod.mk.eta.symm) with ⟨ha, -⟩ | ⟨hd, hp, he, ha, -⟩
    · rw [ha] at h
      exact .inr ⟨h, by simp [Suspends], by simp [Consumes, Claimed]⟩
    · rw [ha] at h
      rcases createGrant_outstanding h with ⟨hk, ho⟩ | ho
      · refine .inl ⟨a.newFields now uuid binding agentId sessionId profile digest, ?_, hk.symm, ho⟩
        simp [signedFields, hd, hp, he]
      · exact .inr ⟨ho, by simp [Suspends], by simp [Consumes, Claimed]⟩
  | verifyGrant p requested =>
    exact .inr ⟨verifyGrant_shrinks p requested k o h, by simp [Suspends],
      by simp [Consumes, Claimed]⟩
  | claimGrant p requested =>
    refine .inr ⟨claimGrant_shrinks p requested k o h, by simp [Suspends], ?_⟩
    rintro (⟨g, hop, -⟩ | ⟨g, req, ⟨hop, hok⟩, rfl⟩)
    · cases hop
    · simp only [AuthorityOp.claimGrant.injEq, reduceCtorEq, or_false] at hop
      obtain ⟨rfl, rfl⟩ := hop
      simp only [apply, AuthorityReply.checked.injEq] at h hok
      rw [claimGrant_removes hok] at h
      cases h
  | verifyAndConsume p requested =>
    refine .inr ⟨claimGrant_shrinks p requested k o h, by simp [Suspends], ?_⟩
    rintro (⟨g, hop, -⟩ | ⟨g, req, ⟨hop, hok⟩, rfl⟩)
    · cases hop
    · simp only [AuthorityOp.verifyAndConsume.injEq, reduceCtorEq, false_or] at hop
      obtain ⟨rfl, rfl⟩ := hop
      simp only [apply, verifyAndConsume, AuthorityReply.checked.injEq] at h hok
      rw [claimGrant_removes hok] at h
      cases h
  | consumeGrant g =>
    simp only [apply, consumeGrant, Dict.get?_erase] at h
    split at h
    · cases h
    · rename_i hne
      refine .inr ⟨h, by simp [Suspends], ?_⟩
      rintro (⟨g', hop, rfl⟩ | ⟨g', req, ⟨hop, -⟩, -⟩)
      · cases hop
        exact hne rfl
      · simp at hop
  | suspendIssuance agentId plane =>
    obtain ⟨ho, hne⟩ := suspendIssuance_outstanding h
    refine .inr ⟨ho, ?_, by simp [Consumes, Claimed]⟩
    rintro ⟨plane', hop⟩
    simp only [AuthorityOp.suspendIssuance.injEq] at hop
    exact hne hop.1.symm
  | resumeIssuance agentId plane =>
    simp only [apply, resumeIssuance_outstanding] at h
    exact .inr ⟨h, by simp [Suspends], by simp [Consumes, Claimed]⟩
  | outstandingGrantCount =>
    exact .inr ⟨shrinks_prune a now k o h, by simp [Suspends], by simp [Consumes, Claimed]⟩

theorem apply_admitted {g : RuntimeExecutionGrant} {requested : ExecutionBinding}
    (h : Admitted (c, (apply σ a c).2) g requested) : Claimable σ a c.now g requested := by
  obtain ⟨now, uuid, op⟩ := c
  rcases h with ⟨hop | hop, hok⟩ | ⟨hop, hok⟩
  all_goals
    simp only at hop
    subst hop
    simp only [apply, verifyAndConsume, claimGrant_verifyGrant, AuthorityReply.checked.injEq] at hok
    exact verifyGrant_ok hok

theorem admitted_presents {e : Event} {g : RuntimeExecutionGrant} {requested : ExecutionBinding}
    (h : Admitted e g requested) : presents e.1.op = some g := by
  rcases h with ⟨hop | hop, -⟩ | ⟨hop, -⟩ <;> rw [hop] <;> rfl

def SignedAt (σ : Signing) (a : ExecutionAuthority) (calls pre : List AuthorityCall)
    (c : AuthorityCall) (post : List AuthorityCall) (f : GrantFields) : Prop :=
  calls = pre ++ c :: post ∧ signedFields (after σ a pre) c = some f

def Unspent (σ : Signing) (a : ExecutionAuthority) (pre : List AuthorityCall) (c : AuthorityCall)
    (post : List AuthorityCall) (f : GrantFields) : Prop :=
  ∀ e ∈ events σ (after σ a (pre ++ [c])) post, ¬ Suspends e f.agentId ∧ ¬ Consumes e f.grantId

def Tracked (σ : Signing) (a : ExecutionAuthority) (calls : List AuthorityCall) : Prop :=
  ∀ k o, (after σ a calls).outstanding.get? k = some o →
    ∃ pre c post f, SignedAt σ a calls pre c post f ∧ Unspent σ a pre c post f ∧
      f.grantId = k ∧ o = ⟨f.expiresAt, f.agentId, f.sessionId⟩

theorem after_snoc (calls : List AuthorityCall) (d : AuthorityCall) :
    after σ a (calls ++ [d]) = (apply σ (after σ a calls) d).1 := by
  simp only [after, Run.final_append]
  rfl

theorem tracked_snoc {calls : List AuthorityCall} (d : AuthorityCall) (h : Tracked σ a calls) :
    Tracked σ a (calls ++ [d]) := by
  intro k o hk
  rw [after_snoc] at hk
  rcases apply_outstanding hk with ⟨f, hf, hid, ho⟩ | ⟨hk', hs, hc⟩
  · refine ⟨calls, d, [], f, ⟨rfl, hf⟩, ?_, hid, ho⟩
    intro e he
    simp [events, Run.history] at he
  · obtain ⟨pre, c, post, f, ⟨hcalls, hf⟩, hu, rfl, rfl⟩ := h k o hk'
    refine ⟨pre, c, post ++ [d], f, ⟨by simp [hcalls], hf⟩, ?_, rfl, rfl⟩
    have hfinal : after σ (after σ a (pre ++ [c])) post = after σ a calls := by
      simp only [after, ← Run.final_append, hcalls, List.append_assoc, List.singleton_append]
    intro e he
    simp only [events, Run.history_append, List.mem_append] at he
    rcases he with he | he
    · exact hu e he
    · have hlast : e = (d, (apply σ (after σ (after σ a (pre ++ [c])) post) d).2) := by
        simpa [Run.history] using he
      rw [hfinal] at hlast
      subst hlast
      exact ⟨hs, hc⟩

theorem tracked_run (h0 : a.outstanding = .empty) (calls : List AuthorityCall) :
    Tracked σ a calls := by
  induction calls using List.reverseRecOn with
  | nil =>
    intro k o hk
    simp only [after, Run.final, h0] at hk
    cases hk
  | append_singleton calls d ih => exact tracked_snoc d ih

theorem split_unique {calls pre pre' post post' : List AuthorityCall} {c c' : AuthorityCall}
    (hn : (calls.map AuthorityCall.uuid).Nodup) (h : calls = pre ++ c :: post)
    (h' : calls = pre' ++ c' :: post') (hu : c.uuid = c'.uuid) :
    pre = pre' ∧ c = c' ∧ post = post' := by
  have hi : (calls.map AuthorityCall.uuid)[pre.length]? = some c.uuid := by simp [h]
  have hj : (calls.map AuthorityCall.uuid)[pre'.length]? = some c'.uuid := by simp [h']
  have hlt : pre.length < (calls.map AuthorityCall.uuid).length := by simp [h]
  have hlen : pre.length = pre'.length :=
    (List.getElem?_inj hlt hn).mp (hi.trans (by rw [hj, hu]))
  obtain ⟨hpre, hrest⟩ := List.append_inj (h.symm.trans h') hlen
  simp only [List.cons.injEq] at hrest
  exact ⟨hpre, hrest.1, hrest.2⟩

theorem signedAt_unique {calls pre pre' post post' : List AuthorityCall} {c c' : AuthorityCall}
    {f f' : GrantFields} (hn : (calls.map AuthorityCall.uuid).Nodup)
    (h : SignedAt σ a calls pre c post f) (h' : SignedAt σ a calls pre' c' post' f')
    (hid : f.grantId = f'.grantId) : pre = pre' ∧ c = c' ∧ post = post' ∧ f = f' := by
  have hu : c.uuid = c'.uuid := by
    have := (signedFields_grantId h.2).symm.trans (hid.trans (signedFields_grantId h'.2))
    simpa using this
  obtain ⟨rfl, rfl, rfl⟩ := split_unique hn h.1 h'.1 hu
  have hf : some f = some f' := h.2.symm.trans h'.2
  exact ⟨rfl, rfl, rfl, by simpa using hf⟩

theorem admitted_signed {calls pre post : List AuthorityCall} {g : RuntimeExecutionGrant}
    {requested : ExecutionBinding} (h0 : a.outstanding = .empty) (hadm : Admissible σ a calls)
    (hcalls : calls = pre ++ c :: post)
    (h : Admitted (c, (apply σ (after σ a pre) c).2) g requested) :
    ∃ pre' c' post', SignedAt σ a pre pre' c' post' g.toGrantFields ∧
      Unspent σ a pre' c' post' g.toGrantFields := by
  have hc : Claimable σ (after σ a pre) c.now g requested := apply_admitted h
  obtain ⟨o, ho, -, -⟩ := hc.recorded
  obtain ⟨pre₁, c₁, post₁, f₁, h₁, hu, hid, -⟩ := tracked_run h0 pre g.grantId o ho
  obtain ⟨pre₂, c₂, post₂, f₂, hpre, hf₂, hp⟩ :=
    hadm.unforgeable pre c post g hcalls (admitted_presents h) hc.signature
  have hfields : f₂ = g.toGrantFields := σ.payload_injective hp
  subst hfields
  have hn : (pre.map AuthorityCall.uuid).Nodup := by
    have := hadm.fresh
    rw [hcalls, List.map_append] at this
    exact (List.nodup_append.mp this).1
  obtain ⟨-, -, -, hf⟩ := signedAt_unique hn h₁ ⟨hpre, hf₂⟩ hid
  exact ⟨pre₁, c₁, post₁, hf ▸ h₁, hf ▸ hu⟩

theorem unspent_between {pre mid mid' : List AuthorityCall} {c d : AuthorityCall}
    {f : GrantFields} (h : Unspent σ a pre c (mid ++ d :: mid') f) :
    ¬ Suspends (d, (apply σ (after σ a (pre ++ c :: mid)) d).2) f.agentId ∧
      ¬ Consumes (d, (apply σ (after σ a (pre ++ c :: mid)) d).2) f.grantId := by
  apply h
  have hfinal : after σ a (pre ++ c :: mid) = after σ (after σ a (pre ++ [c])) mid := by
    simp only [after, ← Run.final_append, List.append_assoc, List.singleton_append]
  rw [hfinal]
  exact Run.mem_history _ _ mid mid' d

theorem admitted_after_signing {calls pre mid mid' post : List AuthorityCall}
    {i d e : AuthorityCall} {f : GrantFields} {g : RuntimeExecutionGrant}
    {requested : ExecutionBinding} (h0 : a.outstanding = .empty) (hadm : Admissible σ a calls)
    (hcalls : calls = (pre ++ i :: mid ++ d :: mid') ++ e :: post)
    (hi : signedFields (after σ a pre) i = some f)
    (h : Admitted (e, (apply σ (after σ a (pre ++ i :: mid ++ d :: mid')) e).2) g requested)
    (hid : g.grantId = f.grantId) :
    f = g.toGrantFields ∧
      ¬ Suspends (d, (apply σ (after σ a (pre ++ i :: mid)) d).2) f.agentId ∧
      ¬ Consumes (d, (apply σ (after σ a (pre ++ i :: mid)) d).2) f.grantId := by
  obtain ⟨pre', c', post', hs, hu⟩ := admitted_signed h0 hadm hcalls h
  have hn : ((pre ++ i :: mid ++ d :: mid').map AuthorityCall.uuid).Nodup := by
    have := hadm.fresh
    rw [hcalls, List.map_append] at this
    exact (List.nodup_append.mp this).1
  have hs' : SignedAt σ a (pre ++ i :: mid ++ d :: mid') pre i (mid ++ d :: mid') f :=
    ⟨by simp, hi⟩
  obtain ⟨rfl, rfl, rfl, rfl⟩ := signedAt_unique hn hs' hs hid.symm
  exact ⟨rfl, unspent_between hu⟩

def IssuedBy (e : Event) (g : RuntimeExecutionGrant) : Prop :=
  (∃ repository expectedEpoch, e.1.op = .issue repository g.binding .allow g.agentId g.sessionId
    expectedEpoch g.capabilityProfileId g.capabilityDigest) ∧
  e.2 = .issued (.ok (some g))

theorem issued_signedFields {g : RuntimeExecutionGrant}
    (h : (apply σ a c).2 = .issued (.ok (some g))) :
    signedFields a c = some g.toGrantFields := by
  obtain ⟨now, uuid, op⟩ := c
  cases op with
  | issue repository binding decision agentId sessionId expectedEpoch profile digest =>
    simp only [apply, AuthorityReply.issued.injEq] at h
    rcases issue_cases (Prod.mk.eta.symm) with ⟨-, hr⟩ | ⟨hd, hp, he, -, hr⟩
    · exact absurd h (hr g)
    · rw [hr] at h
      split at h
      · rename_i g' hg
        cases h
        have hfields := (RuntimeExecutionGrant.construct_eq_some hg).1
        simp [signedFields, hd, hp, he, hfields]
      · cases h
  | verifyGrant p requested => simp [apply] at h
  | claimGrant p requested => simp [apply] at h
  | verifyAndConsume p requested => simp [apply] at h
  | consumeGrant g => simp [apply] at h
  | suspendIssuance agentId plane => simp [apply] at h
  | resumeIssuance agentId plane => simp [apply] at h
  | outstandingGrantCount => simp [apply] at h

theorem signed_issuedBy {g : RuntimeExecutionGrant} (h : signedFields a c = some g.toGrantFields)
    (hs : σ.sign g.toGrantFields = g.signature) :
    IssuedBy (c, (apply σ a c).2) g ∧ a.issuanceClosedPlanes g.agentId = ∅ := by
  have hg : RuntimeExecutionGrant.construct g.toGrantFields (σ.sign g.toGrantFields) = some g := by
    rw [hs]
    exact g.construct_self
  have hreply := signedFields_reply (σ := σ) h hg
  obtain ⟨repository, binding, agentId, sessionId, expectedEpoch, profile, digest, hop,
    hp, he, hf⟩ :=
    signedFields_eq_some h
  have hb : g.binding = binding := congrArg GrantFields.binding hf
  have hagent : g.agentId = agentId := congrArg GrantFields.agentId hf
  have hsession : g.sessionId = sessionId := congrArg GrantFields.sessionId hf
  have hprofile : g.capabilityProfileId = profile := congrArg GrantFields.capabilityProfileId hf
  have hdigest : g.capabilityDigest = digest := congrArg GrantFields.capabilityDigest hf
  subst hb hagent hsession hprofile hdigest
  exact ⟨⟨⟨repository, expectedEpoch, hop⟩, hreply⟩, hp⟩

theorem create_outstanding {authorityId : String} {ttlSeconds : Instant}
    (h : create authorityId ttlSeconds = some a) : a.outstanding = .empty := by
  unfold create at h
  split_ifs at h
  cases h
  rfl

structure SingleUseHistory (σ : Signing) (a : ExecutionAuthority) (calls : List AuthorityCall) :
    Prop where
  claimed_once : ∀ pre d mid e post g g' requested requested',
    events σ a calls = (pre ++ d :: mid) ++ e :: post →
    Claimed d g requested → Claimed e g' requested' → g.grantId ≠ g'.grantId
  claimed_as_issued : ∀ pre e post g requested,
    events σ a calls = pre ++ e :: post → Claimed e g requested →
    requested = g.binding ∧ e.1.now < g.expiresAt ∧
    ∃ pre' i post', pre = pre' ++ i :: post' ∧ IssuedBy i g ∧
      (after σ a (pre'.map Prod.fst)).issuanceClosedPlanes g.agentId = ∅ ∧
      ∀ d ∈ post', ¬ Suspends d g.agentId
  spent_for_good : ∀ pre i mid d mid' e post g g' requested,
    events σ a calls = (pre ++ i :: mid ++ d :: mid') ++ e :: post →
    IssuedBy i g → (Suspends d g.agentId ∨ Consumes d g.grantId ∨ g.expiresAt ≤ d.1.now) →
    Admitted e g' requested → g'.grantId ≠ g.grantId

theorem no_second_claim {calls : List AuthorityCall} (h0 : a.outstanding = .empty)
    (hadm : Admissible σ a calls) {pre mid post : List Event} {d e : Event}
    {g g' : RuntimeExecutionGrant} {requested requested' : ExecutionBinding}
    (hsplit : events σ a calls = (pre ++ d :: mid) ++ e :: post) (hd : Claimed d g requested)
    (he : Claimed e g' requested') : g.grantId ≠ g'.grantId := by
  intro hid
  obtain ⟨calls₁, calls₂, hcalls, hbefore, hereply, -⟩ := Run.history_split _ _ hsplit
  obtain ⟨pre₁, mid₁, rfl, -, hdreply, -⟩ := Run.history_split _ _ hbefore.symm
  have hd' : Claimed (d.1, (apply σ (after σ a pre₁) d.1).2) g requested := by
    rw [← hdreply]
    exact hd
  have he' : Claimed (e.1, (apply σ (after σ a (pre₁ ++ d.1 :: mid₁)) e.1).2) g' requested' := by
    rw [← hereply]
    exact he
  have hearlier : calls = pre₁ ++ d.1 :: (mid₁ ++ e.1 :: calls₂) := by
    rw [hcalls]
    simp
  obtain ⟨pre₀, i, post₀, hs, -⟩ := admitted_signed h0 hadm hearlier (.inl hd')
  obtain ⟨rfl, hf⟩ := hs
  have := admitted_after_signing h0 hadm hcalls hf (.inl he') hid.symm
  exact this.2.2 (.inr ⟨g, requested, hd', rfl⟩)

theorem claim_issued {calls : List AuthorityCall} (h0 : a.outstanding = .empty)
    (hadm : Admissible σ a calls) {pre post : List Event} {e : Event}
    {g : RuntimeExecutionGrant} {requested : ExecutionBinding}
    (hsplit : events σ a calls = pre ++ e :: post) (he : Claimed e g requested) :
    requested = g.binding ∧ e.1.now < g.expiresAt ∧
    ∃ pre' i post', pre = pre' ++ i :: post' ∧ IssuedBy i g ∧
      (after σ a (pre'.map Prod.fst)).issuanceClosedPlanes g.agentId = ∅ ∧
      ∀ d ∈ post', ¬ Suspends d g.agentId := by
  obtain ⟨calls₁, calls₂, hcalls, rfl, hereply, -⟩ := Run.history_split _ _ hsplit
  have he' : Admitted (e.1, (apply σ (after σ a calls₁) e.1).2) g requested := by
    rw [← hereply]
    exact .inl he
  have hclaimable := apply_admitted he'
  obtain ⟨pre₀, i, post₀, ⟨rfl, hf⟩, hu⟩ := admitted_signed h0 hadm hcalls he'
  obtain ⟨hissued, hopen⟩ := signed_issuedBy hf hclaimable.signature
  refine ⟨hclaimable.binding, hclaimable.unexpired, events σ a pre₀, _,
    events σ (after σ a (pre₀ ++ [i])) post₀, ?_, hissued, ?_, fun d hd => (hu d hd).1⟩
  · rw [Run.history_append, after_snoc]
    rfl
  · rw [Run.map_fst_history]
    exact hopen

theorem no_admission_once_spent {calls : List AuthorityCall} (h0 : a.outstanding = .empty)
    (hadm : Admissible σ a calls) {pre mid mid' post : List Event} {i d e : Event}
    {g g' : RuntimeExecutionGrant} {requested : ExecutionBinding}
    (hsplit : events σ a calls = (pre ++ i :: mid ++ d :: mid') ++ e :: post)
    (hi : IssuedBy i g)
    (hd : Suspends d g.agentId ∨ Consumes d g.grantId ∨ g.expiresAt ≤ d.1.now)
    (he : Admitted e g' requested) : g'.grantId ≠ g.grantId := by
  intro hid
  obtain ⟨calls₁, calls₂, hcalls, hbefore, hereply, -⟩ := Run.history_split _ _ hsplit
  obtain ⟨calls₃, mid₁, rfl, hbefore', hdreply, -⟩ := Run.history_split _ _ hbefore.symm
  obtain ⟨pre₁, mid₀, rfl, -, hireply, -⟩ := Run.history_split _ _ hbefore'.symm
  have hf := issued_signedFields (hireply.symm.trans hi.2)
  have he' : Admitted (e.1, (apply σ (after σ a (pre₁ ++ i.1 :: mid₀ ++ d.1 :: mid₁)) e.1).2) g'
      requested := by
    rw [← hereply]
    exact he
  obtain ⟨hfields, hs, hc⟩ := admitted_after_signing h0 hadm hcalls hf he' hid
  rw [← hdreply] at hs hc
  rcases hd with hd | hd | hd
  · exact hs hd
  · exact hc hd
  · have hlt := (apply_admitted he').unexpired
    have hexp : g'.expiresAt = g.expiresAt := (congrArg GrantFields.expiresAt hfields).symm
    have hle : d.1.now ≤ e.1.now := by
      have := hadm.clock
      rw [hcalls, List.pairwise_append] at this
      exact this.2.2 d.1 (by simp) e.1 (by simp)
    rw [hexp] at hlt
    exact absurd (hlt.trans_le (hd.trans hle)) (lt_irrefl _)

theorem single_use_and_revocation {authorityId : String} {ttlSeconds : Instant}
    (h : create authorityId ttlSeconds = some a) (calls : List AuthorityCall)
    (hadm : Admissible σ a calls) : SingleUseHistory σ a calls := by
  have h0 := create_outstanding h
  refine ⟨?_, ?_, ?_⟩
  · intro pre d mid e post g g' requested requested' hsplit hd he
    exact no_second_claim h0 hadm hsplit hd he
  · intro pre e post g requested hsplit he
    exact claim_issued h0 hadm hsplit he
  · intro pre i mid d mid' e post g g' requested hsplit hi hd he
    exact no_admission_once_spent h0 hadm hsplit hi hd he

def sampleAuthority : ExecutionAuthority := ⟨"authority-1", 30000000, .empty, .empty, .empty⟩

def sampleBinding : ExecutionBinding :=
  ⟨"read_file", "1.0.0", none, [], by decide, by decide, by decide, by decide, by decide⟩

def sampleGrant : RuntimeExecutionGrant :=
  ⟨sampleAuthority.newFields 0 "1" sampleBinding "agent-1" "session-1" none none,
    Signing.reference.sign
      (sampleAuthority.newFields 0 "1" sampleBinding "agent-1" "session-1" none none),
    by decide, by decide, by decide, by decide, Signing.reference_sign_ne _⟩

def sampleCalls : List AuthorityCall :=
  [⟨0, "1", .issue none sampleBinding .allow "agent-1" "session-1" none none none⟩,
   ⟨1000000, "2", .claimGrant (.grant sampleGrant) sampleBinding⟩]

theorem sampleCalls_unforgeable : Unforgeable Signing.reference sampleAuthority sampleCalls := by
  intro pre c post g hcalls hp hs
  match pre, hcalls with
  | [], hcalls =>
    simp only [sampleCalls, List.nil_append, List.cons.injEq] at hcalls
    rw [← hcalls.1] at hp
    cases hp
  | [d], hcalls =>
    simp only [sampleCalls, List.cons_append, List.nil_append, List.cons.injEq] at hcalls
    obtain ⟨rfl, rfl, -⟩ := hcalls
    simp only [presents, Option.some.injEq] at hp
    subst hp
    exact ⟨[], _, [], sampleGrant.toGrantFields, rfl, by decide, rfl⟩
  | _ :: _ :: pre, hcalls =>
    have := congrArg List.length hcalls
    simp [sampleCalls] at this

theorem sampleCalls_admissible : Admissible Signing.reference sampleAuthority sampleCalls :=
  ⟨by decide, by decide, sampleCalls_unforgeable⟩

theorem sample_create : create "authority-1" 30000000 = some sampleAuthority := rfl

theorem sample_claimed :
    ∃ e ∈ events Signing.reference sampleAuthority sampleCalls,
      Claimed e sampleGrant sampleBinding := by
  refine ⟨_, List.mem_of_getElem? (i := 1) rfl, .inl rfl, ?_⟩
  simp only [apply]
  rw [issue_of_open (by decide) rfl, claimGrant_authentic (by rfl) (by rfl)]
  rfl

theorem single_use_and_revocation_sample :
    (∃ e ∈ events Signing.reference sampleAuthority sampleCalls,
      Claimed e sampleGrant sampleBinding) ∧
    SingleUseHistory Signing.reference sampleAuthority sampleCalls :=
  ⟨sample_claimed, single_use_and_revocation sample_create sampleCalls sampleCalls_admissible⟩

end SingleUse

end AgentSecurityPlatform
