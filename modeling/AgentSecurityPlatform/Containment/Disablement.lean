import AgentSecurityPlatform.Containment.Suspension

namespace AgentSecurityPlatform

namespace Platform

variable {d : Deployment} {p q : Platform} {agentId : String}

def administrativelyClosed (p : Platform) (agentId : String) : Prop :=
  .administrative ∈ p.shared.world.authority.issuanceClosedPlanes agentId

def Issues (d : Deployment) (p : Platform) (l : Nat × Tick) (g : RuntimeExecutionGrant)
    (q : Platform) : Prop :=
  Pool.fire (step d) p l = some q ∧ ∃ s s', p.threads[l.1]? = some (.execute (.assessed s)) ∧
    q.threads[l.1]? = some (.execute (.decided s')) ∧ s'.authorization = some g

theorem getElem?_fire {l : Nat × Tick} {e e' : PlatformThread} (hget : p.threads[l.1]? = some e)
    (hthreads : q.threads = p.threads.set l.1 e') : q.threads[l.1]? = some e' := by
  obtain ⟨hlt, -⟩ := List.getElem?_eq_some_iff.mp hget
  rw [hthreads]
  simp [hlt]

theorem issues_granted {l : Nat × Tick} {g : RuntimeExecutionGrant} (h : Issues d p l g q) :
    ∃ s, p.threads[l.1]? = some (.execute (.assessed s)) ∧ s.request.agentId = g.agentId ∧
      p.shared.world.authority.issuanceClosedPlanes g.agentId = ∅ ∧
      ExecutionAuthority.epochMatches (some p.shared.world.enforcementReader) g.agentId
        (some s.contextEpoch) = .ok true := by
  obtain ⟨hf, s, s', hget, hget', hg⟩ := h
  obtain ⟨e, e', hget₁, hstep, hthreads⟩ := Pool.fire_eq_some hf
  rw [hget] at hget₁
  cases hget₁
  rw [getElem?_fire hget hthreads] at hget'
  cases hget'
  obtain ⟨c, hc, hd⟩ := step_assessed hstep
  cases hc
  obtain ⟨-, -, hopen, hepoch, binding, profile, digest, -, -, hfields⟩ := hd.issued hg
  have hid : s.request.agentId = g.agentId := congrArg GrantFields.agentId hfields.symm
  rw [← hid]
  exact ⟨s, hget, rfl, hopen, hepoch⟩

theorem fire_administrative {l : Nat × Tick} (hf : Pool.fire (step d) p l = some q)
    (agentId : String) : q.administrativelyClosed agentId ↔ p.administrativelyClosed agentId := by
  have hsame {a a' : ExecutionAuthority} (h : a'.issuanceClosed = a.issuanceClosed) :
      a'.issuanceClosedPlanes agentId = a.issuanceClosedPlanes agentId := by
    simp [ExecutionAuthority.issuanceClosedPlanes, h]
  obtain ⟨e, e', -, hstep, -⟩ := Pool.fire_eq_some hf
  unfold administrativelyClosed
  cases step_gate hstep with
  | quiet hauth => rw [hauth]
  | decided s c he he' hd =>
    have hissue (binding : ExecutionBinding) (decision : Decision) (profile digest : String) :
        (p.shared.world.issueGrant d l.2 s binding decision profile digest).1.issuanceClosed =
          p.shared.world.authority.issuanceClosed := ExecutionAuthority.issue_issuanceClosed ..
    generalize q.shared.world = w' at hd
    cases hd with
    | withheld => rfl
    | granted s' binding profile digest authority grant hs hb hc hr hf hi hg =>
      have := hissue binding s'.finalDecision profile digest
      rw [hi] at this
      rw [hsame this]
    | failed binding profile digest authority error hi =>
      have := hissue binding (escalate s.event.decision (responseTypes s.posture.riskLevel)) profile
        digest
      rw [hi] at this
      rw [hsame this]
  | withdrew s he hw =>
    rw [hw]
    simp only [World.withdraw, ExecutionAuthority.closedPlanes_suspendIssuance]
    split <;> simp
  | suspended other reason trigger he hauth => rw [hauth]
  | reinstated other actor reason watermark hauth => rw [hauth]
  | resumed other he hauth =>
    rw [hauth, ExecutionAuthority.closedPlanes_resumeIssuance]
    split <;> simp
  | claimed hshrinks hclosed => rw [hsame hclosed]

theorem run_administrative {ls : List (Nat × Tick)} (hrun : Pool.run (step d) ls p = some q)
    (agentId : String) : q.administrativelyClosed agentId ↔ p.administrativelyClosed agentId :=
  Pool.run_invariant (fun r => administrativelyClosed r agentId ↔
    p.administrativelyClosed agentId) (fun _ _ _ h hf => (fire_administrative hf agentId).trans h)
    Iff.rfl hrun

def Returned (p : Platform) (i : Nat) (agentId : String) : Prop :=
  ∃ state, p.threads[i]? = some (.disabled agentId (.ok state))

structure DisablementHolds (d : Deployment) (p : Platform) (i : Nat) (agentId : String) : Prop where
  closed : ∀ (ls : List (Nat × Tick)) (q : Platform), Pool.run (step d) ls p = some q →
    q.Returned i agentId → q.administrativelyClosed agentId
  refused : ∀ (ls : List (Nat × Tick)) (q : Platform) l g r, Pool.run (step d) ls p = some q →
    q.Returned i agentId → Issues d q l g r → g.agentId ≠ agentId

theorem disablement_holds_iff {ls : List (Nat × Tick)} {i : Nat}
    (hrun : Pool.run (step d) ls p = some q) (hreturned : q.Returned i agentId) :
    DisablementHolds d p i agentId ↔ p.administrativelyClosed agentId := by
  constructor
  · intro h
    exact (run_administrative hrun agentId).mp (h.closed ls q hrun hreturned)
  · intro hp
    refine ⟨fun ks r hks _ => (run_administrative hks agentId).mpr hp, ?_⟩
    intro ks r l g r' hks _ hissue hid
    obtain ⟨s, -, -, hopen, -⟩ := issues_granted hissue
    have hclosed := (run_administrative hks agentId).mpr hp
    rw [administrativelyClosed, ← hid, hopen] at hclosed
    simp at hclosed

def sampleDisablement : Platform :=
  { shared := ⟨sampleRegistered, []⟩
    threads := [.execute (.start (sampleRequest "session-1")),
      .disable "agent-1" systemRegistrationActor] }

def sampleAuthorizedFirst : List (Nat × Tick) := sampleSchedule 0 0 9 ++ sampleSchedule 9 1 1

def disabledThread (agentId : String) : PlatformThread → Bool
  | .disabled k (.ok _) => k = agentId
  | _ => false

theorem returned_of_disabledThread {i : Nat}
    (h : (p.threads[i]?).any (disabledThread agentId) = true) : p.Returned i agentId := by
  obtain ⟨e, he, hd⟩ := (Option.any_eq_true _ _).mp h
  unfold disabledThread at hd
  split at hd
  · exact ⟨_, by rw [he, of_decide_eq_true hd]⟩
  · cases hd

theorem sampleDisablement_returns :
    ∃ q : Platform, Pool.run (step sampleDeployment) sampleAuthorizedFirst sampleDisablement =
      some q ∧ q.Returned 1 "agent-1" := by
  have hrun : (Pool.run (step sampleDeployment) sampleAuthorizedFirst sampleDisablement).any
      (fun q => (q.threads[1]?).any (disabledThread "agent-1")) = true := by decide +kernel
  obtain ⟨q, hq, hd⟩ := (Option.any_eq_true _ _).mp hrun
  exact ⟨q, hq, returned_of_disabledThread hd⟩

theorem disablement_holds_sample :
    ∃ q : Platform, Pool.run (step sampleDeployment) sampleAuthorizedFirst sampleDisablement =
      some q ∧ q.Returned 1 "agent-1" ∧
      (DisablementHolds sampleDeployment sampleDisablement 1 "agent-1" ↔
        sampleDisablement.administrativelyClosed "agent-1") := by
  obtain ⟨q, hq, hr⟩ := sampleDisablement_returns
  exact ⟨q, hq, hr, disablement_holds_iff hq hr⟩

def awaitsDecision : PlatformThread → Bool
  | .execute (.assessed _) => true
  | _ => false

def issuedTo (agentId : String) : PlatformThread → Bool
  | .execute (.decided s) => s.authorization.any (fun g => g.agentId = agentId)
  | _ => false

theorem issues_of_issuedTo {l : Nat × Tick} (hf : Pool.fire (step d) p l = some q)
    (hp : (p.threads[l.1]?).any awaitsDecision = true)
    (hq : (q.threads[l.1]?).any (issuedTo agentId) = true) :
    ∃ g, Issues d p l g q ∧ g.agentId = agentId := by
  obtain ⟨e, he, ha⟩ := (Option.any_eq_true _ _).mp hp
  obtain ⟨e', he', hi⟩ := (Option.any_eq_true _ _).mp hq
  unfold awaitsDecision at ha
  split at ha
  · unfold issuedTo at hi
    split at hi
    · obtain ⟨g, hg, hid⟩ := (Option.any_eq_true _ _).mp hi
      exact ⟨g, ⟨hf, _, _, he, he', hg⟩, of_decide_eq_true hid⟩
    · cases hi
  · cases ha

theorem grant_issued_after_disablement :
    ¬ DisablementHolds sampleDeployment sampleDisablement 1 "agent-1" ∧
    ∃ (q r : Platform) (g : RuntimeExecutionGrant),
      Pool.run (step sampleDeployment) sampleAuthorizedFirst sampleDisablement = some q ∧
      q.Returned 1 "agent-1" ∧ Issues sampleDeployment q (0, sampleTick 10) g r ∧
      g.agentId = "agent-1" := by
  have hrun : (Pool.run (step sampleDeployment) sampleAuthorizedFirst sampleDisablement).any
      (fun q => (q.threads[1]?).any (disabledThread "agent-1") &&
        (q.threads[0]?).any awaitsDecision &&
        (Pool.fire (step sampleDeployment) q (0, sampleTick 10)).any
          (fun r => (r.threads[0]?).any (issuedTo "agent-1"))) = true := by decide +kernel
  obtain ⟨q, hq, hall⟩ := (Option.any_eq_true _ _).mp hrun
  simp only [Bool.and_eq_true] at hall
  obtain ⟨r, hr, hissued⟩ := (Option.any_eq_true _ _).mp hall.2
  obtain ⟨g, hg, hid⟩ := issues_of_issuedTo hr hall.1.2 hissued
  have hreturned : Returned q 1 "agent-1" := returned_of_disabledThread hall.1.1
  exact ⟨fun h => h.refused _ q _ g r hq hreturned hg hid, q, r, g, hq, hreturned, hg, hid⟩

end Platform

end AgentSecurityPlatform
