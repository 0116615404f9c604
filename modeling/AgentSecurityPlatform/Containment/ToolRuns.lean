import AgentSecurityPlatform.Containment.Suspension
import AgentSecurityPlatform.Runtime.Mediation

namespace AgentSecurityPlatform

namespace ExecutionAuthority

variable {σ : Signing} {a : ExecutionAuthority} {now : Instant} {agentId : String}
  {g : RuntimeExecutionGrant} {requested : ExecutionBinding}

theorem verifyGrant_issuanceClosed (a : ExecutionAuthority) (g : RuntimeExecutionGrant)
    (requested : ExecutionBinding) :
    (a.verifyGrant σ now (.grant g) requested).1.issuanceClosed = a.issuanceClosed := by
  unfold verifyGrant
  split
  · rfl
  · rename_i g' _
    have hr := (requireClaimableLocked_outstanding (Prod.mk.eta.symm :
      a.requireClaimableLocked now g' requested requested.toolId = _)).1
    rcases hr with h | h <;> rw [h] <;> rfl

theorem Contained.verifyGrant (h : a.Contained agentId) (σ : Signing) (now : Instant)
    (g : RuntimeExecutionGrant) (requested : ExecutionBinding) :
    (a.verifyGrant σ now (.grant g) requested).1.Contained agentId :=
  h.shrinks (verifyGrant_shrinks _ _) (verifyGrant_issuanceClosed a g requested)

theorem Contained.claimGrant (h : a.Contained agentId) (σ : Signing) (now : Instant)
    (g : RuntimeExecutionGrant) (requested : ExecutionBinding) :
    (a.claimGrant σ now (.grant g) requested).1.Contained agentId :=
  h.shrinks (claimGrant_shrinks _ _) (claimGrant_issuanceClosed _ _ _)

-- the claim looks the grant up again, so one withdrawn after it was verified is refused
theorem Contained.foreign (h : a.Contained agentId)
    (hc : (a.claimGrant σ now (.grant g) requested).2 = .ok ()) : g.agentId ≠ agentId := by
  rw [claimGrant_verifyGrant] at hc
  obtain ⟨o, ho, hagent, -⟩ := (verifyGrant_ok hc).recorded
  rw [← hagent]
  exact h.withdrawn _ o ho

end ExecutionAuthority

open ExecutionAuthority

namespace DefaultToolExecutor

variable {ω : Type} {x : DefaultToolExecutor ω} {t : ExecutorTick} {a : ExecutionAuthority}
  {agentId : String}

theorem verify_contained (plan : ExecutionPlan) (h : a.Contained agentId) :
    (x.verify t a plan).authority.Contained agentId := by
  have hverified {g : RuntimeExecutionGrant} {requested : ExecutionBinding}
      {verified : ExecutionAuthority} {result : Except ExecutionBindingError Unit}
      (hv : a.verifyGrant x.signing t.verifiedAt (.grant g) requested = (verified, result)) :
      verified.Contained agentId := by
    have hcontained := h.verifyGrant x.signing t.verifiedAt g requested
    rwa [hv] at hcontained
  have hcases := verify_verifies x t a plan
  generalize x.verify t a plan = attempt at hcases
  cases hcases with
  | unexamined e => exact h
  | unverified g requested verified e hv => exact hverified hv
  | unadmitted g requested verified e hv => exact hverified hv
  | verified v verified hg hr hv ha => exact hverified hv

theorem claim_contained (v : Verification) (h : a.Contained agentId) :
    (x.claim t a v).authority.Contained agentId ∧
      ∀ g capabilities, (x.claim t a v).result = .ok (g, capabilities) → g.agentId ≠ agentId := by
  have hcontained := h.claimGrant x.signing t.claimedAt v.grant v.requested
  rcases claim_cases x t a v with ⟨claimed, e, hr, hc⟩ | ⟨claimed, hr, hc⟩ <;>
    rw [hr] at hcontained <;> rw [hc]
  · exact ⟨hcontained, fun g capabilities heq => by cases heq⟩
  · refine ⟨hcontained, ?_⟩
    intro g capabilities heq
    cases heq
    exact h.foreign (congrArg Prod.snd hr)

end DefaultToolExecutor

theorem World.execute_contained {d : Deployment} {t : Tick} {w w' : World} {e e' : ExecuteThread}
    {agentId : String} (h : w.execute d t e = some (w', e'))
    (hc : w.authority.Contained agentId) : w'.authority.Contained agentId := by
  cases World.execute_gate h with
  | quiet hauth hagents hw =>
    rw [hauth]
    exact hc
  | decided s he hd => exact hd.contained hc
  | withdrew s he hw he' =>
    rw [hw]
    exact hc.suspendIssuance _
  | contained s he hauth hagents hw =>
    rw [hauth]
    exact hc

theorem Platform.step_contained {d : Deployment} {t : Tick} {p p' : Shared} {e e' : PlatformThread}
    {agentId : String} (h : Platform.step d t p e = some (p', e'))
    (hresume : e.resuming ≠ some agentId)
    (hc : p.world.authority.Contained agentId) : p'.world.authority.Contained agentId := by
  cases step_gate h with
  | quiet hauth henf hw =>
    rw [hauth]
    exact hc
  | decided s c he he' hd => exact hd.contained hc
  | withdrew s he hw he' =>
    rw [hw]
    exact hc.suspendIssuance _
  | suspended other reason trigger he hauth hagents hw =>
    rw [hauth]
    exact hc
  | reinstated other actor reason watermark hauth hagents hw =>
    rw [hauth]
    exact hc
  | resumed other he hauth hagents hw =>
    rw [hauth]
    refine hc.resumeIssuance ?_
    rintro rfl
    exact hresume he
  | claimed hauth hclosed hagents hw => exact hc.shrinks hauth hclosed

-- one for a call that has claimed its grant and not yet asked the sandbox
def AgentRuntimeThread.claimed {ω : Type} (agentId : String) : AgentRuntimeThread ω → Nat
  | .prepared _ g _ _ => if g.agentId = agentId then 1 else 0
  | _ => 0

namespace AgentRuntimeService

variable {ω : Type} {d : Deployment} {s : AgentRuntimeService ω} {t : AgentTick}
  {p p' : AgentShared} {c c' : AgentRuntimeThread ω} {agentId : String}

theorem claimed_begin (s : AgentRuntimeService ω) (sessionId : String) (requested : Option String)
    (query : String) : (s.begin sessionId requested query).claimed agentId = 0 := by
  unfold begin
  split
  · rfl
  · split <;> rfl

theorem claimed_leave (e : ExecuteThread) :
    (leave e : AgentRuntimeThread ω).claimed agentId = 0 := by
  cases e with
  | returned result =>
    simp only [leave, conclude]
    split <;> rfl
  | _ => rfl

theorem claimed_answer (responseType : ResponseType) (r : Except ExecutorError (Option ω)) :
    (answer responseType r).claimed agentId = 0 := by
  cases r <;> rfl

theorem verify_claimed {t : ExecutorTick} {grant : Option RuntimeExecutionGrant}
    {parameters : Parameters} {responseType : ResponseType}
    (h : s.verify d t p grant parameters responseType = (p', c'))
    (hc : p.world.authority.Contained agentId) :
    p'.world.authority.Contained agentId ∧ p'.sandboxed = p.sandboxed ∧ c'.claimed agentId = 0 := by
  unfold verify at h
  split at h
  · cases h
    exact ⟨hc, rfl, rfl⟩
  · rename_i plan hplan
    cases h
    refine ⟨DefaultToolExecutor.verify_contained plan hc, rfl, ?_⟩
    split <;> rfl

theorem claim_claimed {t : ExecutorTick} {plan : ExecutionPlan} {v : Verification}
    {responseType : ResponseType} (h : s.claim d t p plan v responseType = (p', c'))
    (hc : p.world.authority.Contained agentId) :
    p'.world.authority.Contained agentId ∧ p'.sandboxed = p.sandboxed ∧ c'.claimed agentId = 0 := by
  obtain ⟨hcontained, hforeign⟩ :=
    DefaultToolExecutor.claim_contained (x := s.executor d) (t := t) v hc
  cases h
  refine ⟨hcontained, rfl, ?_⟩
  split
  · rfl
  · rename_i g capabilities hr
    simp only [AgentRuntimeThread.claimed, if_neg (hforeign g capabilities hr)]

theorem run_claimed {t : ExecutorTick} {plan : ExecutionPlan} {g : RuntimeExecutionGrant}
    {capabilities : ExecutionCapabilities} {responseType : ResponseType}
    (h : s.run d t p plan g capabilities responseType = (p', c')) :
    p'.world = p.world ∧ ∃ ran, p'.sandboxed = p.sandboxed ++ ran ∧
      ran.countP (·.provenance.agentId = agentId) + c'.claimed agentId ≤
        (.prepared plan g capabilities responseType : AgentRuntimeThread ω).claimed agentId := by
  unfold run at h
  split at h
  · cases h
    exact ⟨rfl, [], by simp, by simp [AgentRuntimeThread.claimed]⟩
  · rename_i tool htool
    cases h
    refine ⟨rfl, _, rfl, ?_⟩
    rw [claimed_answer]
    rcases DefaultToolExecutor.requests_run (s.executor d) t tool plan.parameters capabilities g
      plan.context plan.implementationId with hran | ⟨q, hran, hq⟩
    · simp [hran]
    · have hagent : q.provenance.agentId = g.agentId := congrArg (fun o => o.2.1) hq.operation
      simp [hran, AgentRuntimeThread.claimed, hagent, List.countP_singleton]

theorem step_claimed (h : s.step d t p c = some (p', c'))
    (hc : p.world.authority.Contained agentId) :
    p'.world.authority.Contained agentId ∧ ∃ ran, p'.sandboxed = p.sandboxed ++ ran ∧
      ran.countP (·.provenance.agentId = agentId) + c'.claimed agentId ≤ c.claimed agentId := by
  cases c with
  | start requested query =>
    cases h
    exact ⟨hc, [], by simp, by simp [claimed_begin]⟩
  | evaluating e =>
    simp only [step] at h
    split at h
    · cases h
      exact ⟨hc, [], by simp, by simp [claimed_leave]⟩
    · split at h
      · cases h
      · obtain ⟨⟨w', e'⟩, hr, heq⟩ := Option.map_eq_some_iff.mp h
        cases heq
        exact ⟨World.execute_contained hr hc, [], by simp, by simp [AgentRuntimeThread.claimed]⟩
  | authorized grant parameters responseType =>
    obtain ⟨hcontained, hran, hclaimed⟩ := verify_claimed (Option.some.inj h) hc
    exact ⟨hcontained, [], by simp [hran], by simp [hclaimed]⟩
  | verified plan v responseType =>
    obtain ⟨hcontained, hran, hclaimed⟩ := claim_claimed (Option.some.inj h) hc
    exact ⟨hcontained, [], by simp [hran], by simp [hclaimed]⟩
  | prepared plan g capabilities responseType =>
    obtain ⟨hworld, hran⟩ := run_claimed (Option.some.inj h)
    exact ⟨by rw [hworld]; exact hc, hran⟩
  | finished r => cases h
  | raised e => cases h

end AgentRuntimeService

namespace AgentRuntime

variable {ω : Type} {d : Deployment} {agentId : String}
  {p q : Pool AgentShared (AgentPlatformThread ω)}

def claimed (agentId : String) : AgentPlatformThread ω → Nat
  | .agent _ c => c.claimed agentId
  | .platform _ => 0

def resumes (agentId : String) : AgentPlatformThread ω → Bool
  | .agent _ _ => false
  | .platform e => e.resuming = some agentId

def Unresumed (agentId : String) (p : Pool AgentShared (AgentPlatformThread ω))
    (l : Nat × AgentTick) :
    Prop :=
  ∀ c ∈ p.threads[l.1]?, resumes agentId c = false

instance decidableUnresumed (agentId : String) (p : Pool AgentShared (AgentPlatformThread ω))
    (l : Nat × AgentTick) : Decidable (Unresumed agentId p l) :=
  inferInstanceAs (Decidable (∀ c ∈ p.threads[l.1]?, resumes agentId c = false))

-- what reaches the sandbox since the start comes out of the calls that had claimed their grant
structure Drains (agentId : String) (start p : Pool AgentShared (AgentPlatformThread ω)) :
    Prop where
  contained : p.shared.world.authority.Contained agentId
  drained : ∃ ran, p.shared.sandboxed = start.shared.sandboxed ++ ran ∧
    ran.countP (·.provenance.agentId = agentId) + (p.threads.map (claimed agentId)).sum ≤
      (start.threads.map (claimed agentId)).sum

theorem Drains.fire {start : Pool AgentShared (AgentPlatformThread ω)} {l : Nat × AgentTick}
    (hl : Unresumed agentId p l) (h : Drains agentId start p)
    (hf : Pool.fire (step d) p l = some q) :
    Drains agentId start q := by
  obtain ⟨c, c', hget, hstep, hthreads⟩ := Pool.fire_eq_some hf
  obtain ⟨ran, hran, hdrained⟩ := h.drained
  have hsum : ((p.threads.set l.1 c').map (claimed agentId)).sum + claimed agentId c =
      (p.threads.map (claimed agentId)).sum + claimed agentId c' :=
        sum_set (claimed agentId) hget c'
  cases c with
  | platform e =>
    obtain ⟨⟨p', e'⟩, hr, heq⟩ := Option.map_eq_some_iff.mp hstep
    simp only [Prod.mk.injEq] at heq
    obtain ⟨hshared, rfl⟩ := heq
    have hresume : e.resuming ≠ some agentId := of_decide_eq_false (hl _ hget)
    constructor
    case contained =>
      rw [← hshared]
      exact Platform.step_contained hr hresume h.contained
    case drained =>
      refine ⟨ran, by rw [← hshared]; exact hran, ?_⟩
      simp only [claimed, Nat.add_zero] at hsum
      rw [hthreads, hsum]
      exact hdrained
  | agent s c =>
    obtain ⟨⟨p', c''⟩, hr, heq⟩ := Option.map_eq_some_iff.mp hstep
    simp only [Prod.mk.injEq] at heq
    obtain ⟨rfl, rfl⟩ := heq
    obtain ⟨hcontained, new, hnew, hle⟩ := AgentRuntimeService.step_claimed hr h.contained
    constructor
    case contained => exact hcontained
    case drained =>
      refine ⟨ran ++ new, by rw [hnew, hran, List.append_assoc], ?_⟩
      simp only [claimed] at hsum
      rw [hthreads, List.countP_append]
      omega

theorem contained_tools_stop {ls : List (Nat × AgentTick)}
    (hc : p.shared.world.authority.Contained agentId)
    (hl : Pool.AllSteps (step d) (Unresumed agentId) ls p) (h : Pool.run (step d) ls p = some q) :
    ∃ ran, q.shared.sandboxed = p.shared.sandboxed ++ ran ∧
      ran.countP (·.provenance.agentId = agentId) + (q.threads.map (claimed agentId)).sum ≤
        (p.threads.map (claimed agentId)).sum :=
  (Pool.run_invariant_of_steps (Unresumed agentId) (Drains agentId p)
    (fun _ _ _ hl hI hf => hI.fire hl hf) hl ⟨hc, [], by simp, by simp⟩ h).drained

def withdrawn (p : Pool AgentShared (AgentPlatformThread ω)) (agentId : String) :
    Pool AgentShared (AgentPlatformThread ω) :=
  ⟨{ p.shared with toShared :=
    { p.shared.toShared with world := p.shared.world.withdraw agentId } }, p.threads⟩

-- the first call has verified its grant and not claimed it when its agent is withdrawn
def ticketWithdrawal : Option (Pool AgentShared (AgentPlatformThread Nat)) :=
  (Pool.run (step ticketDeployment) (ticketSchedule.take 15)
    (started sampleRegistered ticketThreads)).map (withdrawn · "agent-1")

theorem ticketWithdrawal_runs : ticketWithdrawal.any (fun p =>
    (p.threads.map (unspent ("0", "agent-1", "ticket_read"))).sum = 1 ∧
    (p.threads.map (claimed "agent-1")).sum = 0 ∧
    (Pool.run (step ticketDeployment) (ticketSchedule.drop 15 |>.take 1) p).isSome = true ∧
    Pool.AllSteps (step ticketDeployment) (Unresumed "agent-1")
      (ticketSchedule.drop 15 |>.take 1) p) =
      true := by
  decide +kernel

theorem contained_tools_stop_sample :
    ∃ p q : Pool AgentShared (AgentPlatformThread Nat), ticketWithdrawal = some p ∧
      (p.threads.map (unspent ("0", "agent-1", "ticket_read"))).sum = 1 ∧
      Pool.run (step ticketDeployment) (ticketSchedule.drop 15 |>.take 1) p = some q ∧
      ∃ ran, q.shared.sandboxed = p.shared.sandboxed ++ ran ∧
        ran.countP (·.provenance.agentId = "agent-1") + (q.threads.map (claimed "agent-1")).sum ≤
          (p.threads.map (claimed "agent-1")).sum := by
  obtain ⟨p, hp, hall⟩ := (Option.any_eq_true _ _).mp ticketWithdrawal_runs
  obtain ⟨hunspent, -, hrun, hsteps⟩ := of_decide_eq_true hall
  obtain ⟨q, hq⟩ := Option.isSome_iff_exists.mp hrun
  obtain ⟨before, -, rfl⟩ := Option.map_eq_some_iff.mp hp
  exact ⟨_, q, hp, hunspent, hq,
    contained_tools_stop (ExecutionAuthority.contained_suspendIssuance _ _) hsteps hq⟩

end AgentRuntime

end AgentSecurityPlatform
