import AgentSecurityPlatform.Runtime.AgentRuntime

namespace AgentSecurityPlatform

abbrev Operation := String × String × String

def RuntimeExecutionGrant.operation (g : RuntimeExecutionGrant) : Operation :=
  (g.sessionId, g.agentId, g.binding.toolId)

def SandboxRequest.operation (q : SandboxRequest) : Operation :=
  (q.provenance.sessionId, q.provenance.agentId, q.provenance.toolId)

namespace DefaultToolExecutor

variable {ω : Type}

theorem requests_append (calls calls' : List (ExecutorCall ω)) :
    requests (calls ++ calls') = requests calls ++ requests calls' := List.filterMap_append

theorem requests_emitted (x : DefaultToolExecutor ω) (e : BehavioralEvent) :
    requests (x.emitted e) = [] := by
  unfold emitted
  split <;> rfl

theorem requests_recordTerminal (x : DefaultToolExecutor ω) (l : Launch) (o : TerminalOutcome) :
    requests (x.recordTerminal l o).1 = [] := by
  unfold recordTerminal
  split
  · rfl
  · split
    · rfl
    · exact requests_emitted x _

theorem requests_recordStarted (x : DefaultToolExecutor ω) (l : Launch) (s : StartedRecord) :
    requests (x.recordStarted l s).1 = [] := by
  unfold recordStarted
  split
  · rfl
  · split
    · rfl
    · exact requests_emitted x _

theorem requests_conclude (x : DefaultToolExecutor ω) (t : ExecutorTick) (l : Launch)
    (o : SandboxOutcome ω) : requests (x.conclude t l o).1 = [] := by
  cases o with
  | raised e =>
    simp [conclude, concludeRaised, requests_append, requests_recordTerminal, requests_emitted]
  | returned r =>
    simp only [conclude, concludeReturned]
    have hsucceeded := requests_recordTerminal x l (x.successOutcome t r)
    split
    · split <;> rename_i hr <;> rw [hr] at hsucceeded
      · exact hsucceeded
      · simp [requests_append, hsucceeded, requests_emitted]
    · simp [requests_append, requests_recordTerminal, requests_emitted]

theorem requests_launch (x : DefaultToolExecutor ω) (t : ExecutorTick) (l : Launch)
    (parameters : Parameters) (capabilities : ExecutionCapabilities)
    (provenance : ExecutionProvenance) (implementationId : String) :
    (requests (x.launch t l parameters capabilities provenance implementationId).1).Sublist
      [{ tool := l.tool
         parameters
         capabilities
         provenance
         implementationId
         toolVersion := l.grant.binding.toolVersion }] := by
  have hstarted := requests_recordStarted x l (x.startedRecord t l capabilities implementationId)
  unfold launch
  split <;> rename_i hr <;> rw [hr] at hstarted
  · simp [hstarted]
  · simp only [requests_append, hstarted, requests_emitted, requests_conclude, List.nil_append,
      List.append_nil]
    unfold dispatch
    split
    · exact List.nil_sublist _
    · exact List.Sublist.refl _

theorem requests_verify (x : DefaultToolExecutor ω) (t : ExecutorTick) (a : ExecutionAuthority)
    (plan : ExecutionPlan) : requests (x.verify t a plan).calls = [] := by
  have hcases := verify_verifies x t a plan
  generalize x.verify t a plan = attempt at hcases
  cases hcases <;> rfl

theorem requests_claim (x : DefaultToolExecutor ω) (t : ExecutorTick) (a : ExecutionAuthority)
    (v : Verification) : requests (x.claim t a v).calls = [] := by
  unfold claim
  split <;> rfl

-- a request carries the grant it was claimed with
structure Asks (q : SandboxRequest) (g : RuntimeExecutionGrant) (tool : BaseTool)
    (parameters : Parameters) (capabilities : ExecutionCapabilities)
    (implementationId : Option String) : Prop where
  operation : q.operation = g.operation
  grantId : q.provenance.grantId = g.grantId
  tool : q.tool = tool
  parameters : q.parameters = parameters
  capabilities : q.capabilities = capabilities
  implementation : implementationId = some q.implementationId
  version : q.toolVersion = g.binding.toolVersion

theorem requests_run (x : DefaultToolExecutor ω) (t : ExecutorTick) (tool : BaseTool)
    (parameters : Parameters) (capabilities : ExecutionCapabilities) (g : RuntimeExecutionGrant)
    (context : Option RuntimeContext) (implementationId : Option String) :
    requests (x.run t tool parameters capabilities g context implementationId).1 = [] ∨
      ∃ q, requests (x.run t tool parameters capabilities g context implementationId).1 = [q] ∧
        Asks q g tool parameters capabilities implementationId := by
  unfold run
  split
  · exact .inl rfl
  · rename_i implementation hi
    split
    · exact .inl rfl
    · rename_i provenance hp
      unfold ExecutionProvenance.fromGrant at hp
      split at hp
      · cases hp
      · cases hp
        rcases List.sublist_singleton.mp (requests_launch x t ⟨tool, g, requestIdOf t context,
          "rcpt-" ++ t.receiptUuid⟩ parameters capabilities _ implementation) with h | h
        · exact .inl h
        · exact .inr ⟨_, h, rfl, rfl, rfl, rfl, rfl, (Option.filter_eq_some_iff.mp hi).1, rfl⟩

end DefaultToolExecutor

namespace ExecutionAuthority

variable {σ : Signing} {a a' : ExecutionAuthority} {now : Instant} {uuid k : String}

-- one where the authority still holds the grant as outstanding
def holds (a : ExecutionAuthority) (k : String) : Nat :=
  if (a.outstanding.get? k).isSome then 1 else 0

theorem holds_le_one (a : ExecutionAuthority) (k : String) : a.holds k ≤ 1 := by
  unfold holds
  split <;> omega

theorem holds_eq_zero (h : a.outstanding.get? k = none) : a.holds k = 0 := by
  simp [holds, h]

theorem Shrinks.holds (h : a.Shrinks a') (k : String) : a'.holds k ≤ a.holds k := by
  cases hk : a'.outstanding.get? k with
  | none =>
    rw [holds_eq_zero hk]
    exact Nat.zero_le _
  | some o => simp [ExecutionAuthority.holds, hk, h k o hk]

theorem createGrant_holds (a : ExecutionAuthority) (binding : ExecutionBinding)
    (agentId sessionId : String) (profile digest : Option String) (k : String) :
    (a.createGrant σ now uuid binding agentId sessionId profile digest).1.holds k ≤
      a.holds k + if "grant-" ++ uuid = k then 1 else 0 := by
  by_cases hk : "grant-" ++ uuid = k
  · rw [if_pos hk]
    exact (holds_le_one _ k).trans (Nat.le_add_left _ _)
  · rw [if_neg hk, Nat.add_zero]
    have hprune := (shrinks_prune a now).holds k
    simpa [createGrant, newFields, holds, Dict.get?_set, hk] using hprune

theorem issue_holds (a : ExecutionAuthority) (repository : Option EnforcementReader)
    (binding : ExecutionBinding) (decision : Decision) (agentId sessionId : String)
    (expectedEpoch : Option Nat) (profile digest : Option String) (k : String) :
    (a.issue σ now uuid repository binding decision agentId sessionId expectedEpoch profile
      digest).1.holds k ≤ a.holds k + if "grant-" ++ uuid = k then 1 else 0 := by
  rcases issue_cases (Prod.mk.eta.symm : a.issue σ now uuid repository binding decision agentId
    sessionId expectedEpoch profile digest = _) with ⟨h, -⟩ | ⟨-, -, -, h, -⟩
  · rw [h]
    exact Nat.le_add_right _ _
  · rw [h]
    exact createGrant_holds a binding agentId sessionId profile digest k

theorem suspendIssuance_shrinks (a : ExecutionAuthority) (agentId : String)
    (plane : IssuancePlane) : a.Shrinks (a.suspendIssuance agentId plane).1 :=
  fun _ _ h => (suspendIssuance_outstanding h).1

-- a claim takes the grant out of the authority
theorem claimGrant_holds {g : RuntimeExecutionGrant} {requested : ExecutionBinding}
    (h : (a.claimGrant σ now (.grant g) requested).2 = .ok ()) (k : String) :
    (a.claimGrant σ now (.grant g) requested).1.holds k + (if g.grantId = k then 1 else 0) ≤
      a.holds k := by
  by_cases hk : g.grantId = k
  · subst hk
    obtain ⟨o, ho, -⟩ := (verifyGrant_ok (claimGrant_verifyGrant (.grant g) requested ▸ h)).recorded
    rw [holds_eq_zero (claimGrant_removes h), if_pos rfl]
    simp [holds, ho]
  · rw [if_neg hk, Nat.add_zero]
    exact (claimGrant_shrinks _ _).holds k

end ExecutionAuthority

open ExecutionAuthority

-- the grant a tick would issue
def Tick.grantId (t : Tick) : String := "grant-" ++ t.uuid

def Tick.draws (t : Tick) (k : String) : Nat := if t.grantId = k then 1 else 0

theorem World.Decides.holds {d : Deployment} {t : Tick} {w w' : World} {s : Assessed}
    {c : ExecuteThread} (h : World.Decides d t w s w' c) (k : String) :
    w'.authority.holds k ≤ w.authority.holds k + t.draws k := by
  have hissue (binding : ExecutionBinding) (decision : Decision) (profile digest : String) :
      (w.issueGrant d t s binding decision profile digest).1.holds k ≤
        w.authority.holds k + t.draws k := issue_holds w.authority ..
  cases h with
  | withheld => exact Nat.le_add_right _ _
  | granted s' binding profile digest authority grant hs hb hc hr hf hi hg =>
    have := hissue binding s'.finalDecision profile digest
    rwa [hi] at this
  | failed binding profile digest authority error hi =>
    have := hissue binding (escalate s.event.decision (responseTypes s.posture.riskLevel)) profile
      digest
    rwa [hi] at this

theorem World.execute_holds {d : Deployment} {t : Tick} {w w' : World} {e e' : ExecuteThread}
    (h : w.execute d t e = some (w', e')) (k : String) :
    w'.authority.holds k ≤ w.authority.holds k + t.draws k := by
  cases World.execute_gate h with
  | quiet hauth hagents hw =>
    rw [hauth]
    exact Nat.le_add_right _ _
  | decided s he hd => exact hd.holds k
  | withdrew s he hw he' =>
    rw [hw]
    exact ((suspendIssuance_shrinks w.authority _ _).holds k).trans (Nat.le_add_right _ _)
  | contained s he hauth hagents hw =>
    rw [hauth]
    exact Nat.le_add_right _ _

theorem Platform.step_holds {d : Deployment} {t : Tick} {p p' : Shared} {e e' : PlatformThread}
    (h : Platform.step d t p e = some (p', e')) (k : String) :
    p'.world.authority.holds k ≤ p.world.authority.holds k + t.draws k := by
  have hsame (hauth : p'.world.authority = p.world.authority) :
      p'.world.authority.holds k ≤ p.world.authority.holds k + t.draws k := by
    rw [hauth]
    exact Nat.le_add_right _ _
  cases step_gate h with
  | quiet hauth henf hw => exact hsame hauth
  | decided s c he he' hd => exact hd.holds k
  | withdrew s he hw he' =>
    rw [hw]
    exact ((suspendIssuance_shrinks p.world.authority _ _).holds k).trans (Nat.le_add_right _ _)
  | suspended agentId reason trigger he hauth hagents hw => exact hsame hauth
  | reinstated agentId actor reason watermark hauth hagents hw => exact hsame hauth
  | resumed agentId he hauth hagents hw =>
    rw [hauth]
    simp [holds]
  | claimed hauth hclosed hagents hw =>
    exact (hauth.holds k).trans (Nat.le_add_right _ _)

-- one for a call that has claimed the grant and not yet asked the sandbox
def AgentRuntimeThread.holds {ω : Type} (k : String) : AgentRuntimeThread ω → Nat
  | .prepared _ g _ _ => if g.grantId = k then 1 else 0
  | _ => 0

def AgentShared.ran (p : AgentShared) (k : String) : Nat :=
  p.sandboxed.countP (·.provenance.grantId = k)

namespace AgentRuntimeService

variable {ω : Type} {d : Deployment} {s : AgentRuntimeService ω} {t : AgentTick}
  {p p' : AgentShared} {c c' : AgentRuntimeThread ω}

theorem holds_begin (s : AgentRuntimeService ω) (sessionId : String) (requested : Option String)
    (query k : String) : (s.begin sessionId requested query).holds k = 0 := by
  unfold begin
  split
  · rfl
  · split <;> rfl

theorem holds_leave (e : ExecuteThread) (k : String) :
    (leave e : AgentRuntimeThread ω).holds k = 0 := by
  cases e with
  | returned result =>
    simp only [leave, conclude]
    split <;> rfl
  | _ => rfl

theorem holds_answer (responseType : ResponseType) (r : Except ExecutorError (Option ω))
    (k : String) : (answer responseType r).holds k = 0 := by
  cases r <;> rfl

theorem verify_shrinks (x : DefaultToolExecutor ω) (t : ExecutorTick) (a : ExecutionAuthority)
    (plan : ExecutionPlan) : a.Shrinks (x.verify t a plan).authority := by
  have hverified {g : RuntimeExecutionGrant} {requested : ExecutionBinding}
      {verified : ExecutionAuthority} {result : Except ExecutionBindingError Unit}
      (hv : a.verifyGrant x.signing t.verifiedAt (.grant g) requested = (verified, result)) :
      a.Shrinks verified := by
    have hshrinks : a.Shrinks (a.verifyGrant x.signing t.verifiedAt (.grant g) requested).1 :=
      verifyGrant_shrinks _ _
    rwa [hv] at hshrinks
  have hcases := DefaultToolExecutor.verify_verifies x t a plan
  generalize x.verify t a plan = attempt at hcases
  cases hcases with
  | unexamined e => exact fun _ _ h => h
  | unverified g requested verified e hv => exact hverified hv
  | unadmitted g requested verified e hv => exact hverified hv
  | verified v verified hg hr hv ha => exact hverified hv

theorem verify_holds {t : ExecutorTick} {grant : Option RuntimeExecutionGrant}
    {parameters : Parameters} {responseType : ResponseType}
    (h : s.verify d t p grant parameters responseType = (p', c')) (k : String) :
    p'.sandboxed = p.sandboxed ∧ c'.holds k = 0 ∧
      p'.world.authority.holds k ≤ p.world.authority.holds k := by
  unfold verify at h
  split at h
  · cases h
    exact ⟨rfl, rfl, le_refl _⟩
  · rename_i plan hplan
    cases h
    refine ⟨rfl, ?_, (verify_shrinks (s.executor d) t p.world.authority plan).holds k⟩
    split <;> rfl

theorem claim_holds {t : ExecutorTick} {plan : ExecutionPlan} {v : Verification}
    {responseType : ResponseType} (h : s.claim d t p plan v responseType = (p', c')) (k : String) :
    p'.sandboxed = p.sandboxed ∧
      c'.holds k + p'.world.authority.holds k ≤ p.world.authority.holds k := by
  unfold claim at h
  rcases DefaultToolExecutor.claim_cases (s.executor d) t p.world.authority v with
    ⟨claimed, e, hr, hc⟩ | ⟨claimed, hr, hc⟩
  · have hshrinks : p.world.authority.Shrinks (p.world.authority.claimGrant (s.executor d).signing
        t.claimedAt (.grant v.grant) v.requested).1 := claimGrant_shrinks _ _
    rw [hr] at hshrinks
    rw [hc] at h
    cases h
    exact ⟨rfl, (Nat.zero_add _).trans_le (hshrinks.holds k)⟩
  · have hclaimed := claimGrant_holds (congrArg Prod.snd hr) k
    rw [hr] at hclaimed
    rw [hc] at h
    cases h
    exact ⟨rfl, (Nat.add_comm _ _).trans_le hclaimed⟩

theorem run_holds {t : ExecutorTick} {plan : ExecutionPlan} {g : RuntimeExecutionGrant}
    {capabilities : ExecutionCapabilities} {responseType : ResponseType}
    (h : s.run d t p plan g capabilities responseType = (p', c')) (k : String) :
    p'.world = p.world ∧ p'.ran k + c'.holds k ≤ p.ran k +
      (.prepared plan g capabilities responseType : AgentRuntimeThread ω).holds k := by
  unfold run at h
  split at h
  · cases h
    exact ⟨rfl, Nat.add_le_add_left (Nat.zero_le _) _⟩
  · rename_i tool htool
    cases h
    refine ⟨rfl, ?_⟩
    rw [holds_answer, Nat.add_zero, AgentShared.ran, List.countP_append]
    rcases DefaultToolExecutor.requests_run (s.executor d) t tool plan.parameters capabilities g
      plan.context plan.implementationId with hran | ⟨q, hran, hq⟩
    · simp [hran, AgentShared.ran]
    · simp [hran, AgentShared.ran, AgentRuntimeThread.holds, hq.grantId, List.countP_singleton]

-- a grant is outstanding, held by a call that claimed it, or spent
theorem step_holds (h : s.step d t p c = some (p', c')) (k : String) :
    p'.ran k + c'.holds k + p'.world.authority.holds k ≤
      p.ran k + c.holds k + p.world.authority.holds k + t.platform.draws k := by
  cases c with
  | start requested query =>
    cases h
    rw [holds_begin]
    simp [AgentRuntimeThread.holds]
  | evaluating e =>
    simp only [step] at h
    split at h
    · cases h
      rw [holds_leave]
      simp [AgentRuntimeThread.holds]
    · split at h
      · cases h
      · obtain ⟨⟨w', e'⟩, hr, heq⟩ := Option.map_eq_some_iff.mp h
        cases heq
        have hle := World.execute_holds hr k
        simp only [AgentShared.ran, AgentRuntimeThread.holds]
        omega
  | authorized grant parameters responseType =>
    obtain ⟨hran, hnone, hle⟩ := verify_holds (Option.some.inj h) k
    rw [AgentShared.ran, AgentShared.ran, hran, hnone]
    omega
  | verified plan v responseType =>
    obtain ⟨hran, hle⟩ := claim_holds (Option.some.inj h) k
    rw [AgentShared.ran, AgentShared.ran, hran]
    omega
  | prepared plan g capabilities responseType =>
    obtain ⟨hworld, hle⟩ := run_holds (Option.some.inj h) k
    rw [hworld]
    omega
  | finished r => cases h
  | raised e => cases h

end AgentRuntimeService

namespace AgentRuntime

variable {ω : Type} {d : Deployment} {p q : Pool AgentShared (AgentPlatformThread ω)}

def holds (k : String) : AgentPlatformThread ω → Nat
  | .agent _ c => c.holds k
  | .platform _ => 0

theorem sum_set (f : AgentPlatformThread ω → Nat) {cs : List (AgentPlatformThread ω)} {n : Nat}
    {c : AgentPlatformThread ω} (h : cs[n]? = some c) (c' : AgentPlatformThread ω) :
    ((cs.set n c').map f).sum + f c = (cs.map f).sum + f c' := by
  induction cs generalizing n with
  | nil => cases h
  | cons b cs ih =>
    cases n with
    | zero =>
      cases h
      simp only [List.set_cons_zero, List.map_cons, List.sum_cons]
      omega
    | succ n =>
      have := ih (n := n) (by simpa using h)
      simp only [List.set_cons_succ, List.map_cons, List.sum_cons]
      omega

-- where the grant is accounted for
def accounted (k : String) (p : Pool AgentShared (AgentPlatformThread ω)) : Nat :=
  p.shared.ran k + (p.threads.map (holds k)).sum + p.shared.world.authority.holds k

theorem accounted_fire {l : Nat × AgentTick} (h : Pool.fire (step d) p l = some q) (k : String) :
    accounted k q ≤ accounted k p + l.2.platform.draws k := by
  obtain ⟨c, c', hget, hstep, hthreads⟩ := Pool.fire_eq_some h
  have hsum : ((p.threads.set l.1 c').map (holds k)).sum + holds k c =
      (p.threads.map (holds k)).sum + holds k c' := sum_set (holds k) hget c'
  unfold accounted
  cases c with
  | platform e =>
    obtain ⟨⟨p', e'⟩, hr, heq⟩ := Option.map_eq_some_iff.mp hstep
    simp only [Prod.mk.injEq] at heq
    obtain ⟨hshared, rfl⟩ := heq
    have hle := Platform.step_holds hr k
    simp only [holds, Nat.add_zero] at hsum
    rw [hthreads, hsum, ← hshared]
    simp only [AgentShared.ran]
    omega
  | agent s c =>
    obtain ⟨⟨p', c''⟩, hr, heq⟩ := Option.map_eq_some_iff.mp hstep
    simp only [Prod.mk.injEq] at heq
    obtain ⟨rfl, rfl⟩ := heq
    have hle := AgentRuntimeService.step_holds hr k
    simp only [holds] at hsum
    rw [hthreads]
    omega

theorem accounted_run {ls : List (Nat × AgentTick)} (h : Pool.run (step d) ls p = some q)
    (k : String) :
    accounted k q ≤ accounted k p + (ls.map (·.2.platform.grantId)).count k := by
  induction ls generalizing p with
  | nil =>
    cases h
    exact Nat.le_add_right _ _
  | cons l ls ih =>
    obtain ⟨r, hf, hr⟩ := Pool.run_cons h
    have hfire := accounted_fire hf k
    have hrest := ih hr
    rw [List.map_cons, List.count_cons]
    simp only [Tick.draws, beq_iff_eq] at hfire ⊢
    omega

-- the readings a run draws name no grant twice and none that is still outstanding
structure FreshGrants (ls : List (Nat × AgentTick)) (a : ExecutionAuthority) : Prop where
  distinct : (ls.map (·.2.platform.grantId)).Nodup
  unissued : ∀ k ∈ ls.map (·.2.platform.grantId), a.outstanding.get? k = none

theorem grants_spent_once {ls : List (Nat × AgentTick)}
    (hfresh : FreshGrants ls p.shared.world.authority)
    (hran : p.shared.sandboxed = []) (hheld : ∀ k, (p.threads.map (holds k)).sum = 0)
    (h : Pool.run (step d) ls p = some q) :
    (q.shared.sandboxed.map (·.provenance.grantId)).Nodup := by
  rw [List.nodup_iff_count_le_one]
  intro k
  have hrun := accounted_run h k
  have hcount : (q.shared.sandboxed.map (·.provenance.grantId)).count k = q.shared.ran k := by
    simp only [AgentShared.ran, List.count, List.countP_map]
    exact List.countP_congr (by simp)
  have hone : p.shared.world.authority.holds k + (ls.map (·.2.platform.grantId)).count k ≤ 1 := by
    by_cases hk : k ∈ ls.map (·.2.platform.grantId)
    · rw [holds_eq_zero (hfresh.unissued k hk), Nat.zero_add]
      exact List.nodup_iff_count_le_one.mp hfresh.distinct k
    · rw [List.count_eq_zero_of_not_mem hk, Nat.add_zero]
      exact holds_le_one _ k
  simp only [accounted, AgentShared.ran, hran, hheld, List.countP_nil, Nat.zero_add] at hrun
  rw [hcount, AgentShared.ran]
  omega

end AgentRuntime

end AgentSecurityPlatform
