import AgentSecurityPlatform.Containment.Disablement

namespace AgentSecurityPlatform

namespace ExecuteThread

def context : ExecuteThread → Option Captured
  | .captured s => some s
  | .recorded s => some s.toCaptured
  | .observed s => some s.toCaptured
  | .detected s => some s.toCaptured
  | .accepted s => some s.toCaptured
  | .rated s => some s.toCaptured
  | .assessed s => some s.toCaptured
  | .decided s => some s.toCaptured
  | .finalized s => some s.toCaptured
  | .withdrawn s => some s.toCaptured
  | .contained s => some s.toCaptured
  | .refusing s _ _ => some s.toCaptured
  | .refused s _ _ => some s.toCaptured
  | _ => none

end ExecuteThread

namespace World

variable {d : Deployment} {t : Tick} {w w' : World} {e e' : ExecuteThread} {c : Captured}

theorem decide_context {s : Assessed} (h : Decides d t w s w' e') :
    e'.context = some s.toCaptured ∨ e'.finished = true := by
  cases h with
  | withheld s' hs => exact .inl (by rw [← hs]; rfl)
  | granted s' _ _ _ _ _ hs => exact .inl (by rw [← hs]; rfl)
  | failed => exact .inr rfl

theorem execute_context (h : w.execute d t e = some (w', e')) (hc : e.context = some c) :
    e'.context = some c ∨ e'.finished = true := by
  cases e with
  | start r => cases hc
  | bound s => cases hc
  | bindingRefused s => cases hc
  | authorized s => cases hc
  | returned r => cases hc
  | raised e => cases hc
  | captured s =>
    cases hc
    simp only [execute, Option.some.injEq, recordEvent] at h
    split at h <;> cases h
    · exact .inl rfl
    · exact .inr rfl
  | recorded s =>
    cases hc
    simp only [execute, Option.some.injEq, Prod.mk.injEq, observe] at h
    obtain ⟨-, rfl⟩ := h
    split
    · exact .inr rfl
    · split <;> exact .inl rfl
  | observed s =>
    cases hc
    cases h
    exact .inl rfl
  | detected s =>
    cases hc
    simp only [execute, Option.some.injEq, acceptEvidence] at h
    split at h
    · cases h
      exact .inl rfl
    · split at h <;> cases h <;> exact .inl rfl
  | accepted s =>
    cases hc
    simp only [execute, Option.some.injEq, Prod.mk.injEq, rate] at h
    obtain ⟨-, rfl⟩ := h
    split
    · exact .inr rfl
    · exact .inl rfl
  | rated s =>
    cases hc
    simp only [execute, Option.some.injEq, assess] at h
    split at h <;> cases h <;> exact .inl rfl
  | assessed s =>
    cases hc
    simp only [execute, Option.some.injEq] at h
    have hd := decide_decides d t w s
    rw [h] at hd
    exact decide_context hd
  | decided s =>
    cases hc
    simp only [execute, Option.some.injEq, finalize] at h
    split at h <;> cases h
    · exact .inl rfl
    · exact .inr rfl
  | finalized s =>
    cases hc
    simp only [execute] at h
    split at h <;> cases h
    · exact .inl rfl
    · exact .inr rfl
  | withdrawn s =>
    cases hc
    simp only [execute, Option.some.injEq, contain] at h
    split at h <;> cases h
    · exact .inl rfl
    · exact .inl rfl
    · exact .inr rfl
  | contained s =>
    cases h
    exact .inr rfl
  | refusing s reason findings =>
    cases hc
    simp only [execute, Option.some.injEq, finalizeRefusedEvent] at h
    split at h <;> cases h
    · exact .inl rfl
    · exact .inr rfl
  | refused s reason findings =>
    cases h
    exact .inr rfl

end World

namespace Platform

variable {d : Deployment} {p q : Platform} {agentId : String}

def persisted (p : Platform) (agentId : String) : Option AgentEnforcementState :=
  p.shared.world.agents.enforcement.getState agentId

def epoch (p : Platform) (agentId : String) : Nat :=
  (p.shared.world.agents.currentState agentId).epoch

def Settled (agentId : String) (p q : Platform) : Prop :=
  q.persisted agentId = p.persisted agentId ∨ p.epoch agentId < q.epoch agentId

theorem epoch_of_persisted (h : q.persisted agentId = p.persisted agentId) :
    q.epoch agentId = p.epoch agentId := by
  unfold persisted at h
  simp [epoch, AgentService.currentState, h]

theorem Settled.trans {r : Platform} (h : Settled agentId p q) (h' : Settled agentId q r) :
    Settled agentId p r := by
  rcases h with h | h
  · rcases h' with h' | h'
    · exact .inl (h'.trans h)
    · rw [epoch_of_persisted h] at h'
      exact .inr h'
  · rcases h' with h' | h'
    · rw [← epoch_of_persisted h'] at h
      exact .inr h
    · exact .inr (h.trans h')

theorem settled_of_commit {state : AgentEnforcementState} {other : String}
    (hc : AgentService.Commits p.shared.world.agents q.shared.world.agents other state)
    (hepoch : state.epoch = p.epoch other + 1) : Settled agentId p q := by
  by_cases ho : other = agentId
  · subst ho
    refine .inr ?_
    rw [epoch, epoch, hc.currentState, if_pos rfl, hepoch]
    exact Nat.lt_succ_self _
  · refine .inl ?_
    rw [persisted, persisted, hc.getState, if_neg ho]

theorem fire_settled {l : Nat × Tick} (hf : Pool.fire (step d) p l = some q) (agentId : String) :
    Settled agentId p q := by
  obtain ⟨e, e', -, hstep, -⟩ := Pool.fire_eq_some hf
  have hsame (h : q.shared.world.agents.enforcement = p.shared.world.agents.enforcement) :
      Settled agentId p q := .inl (by rw [persisted, persisted, h])
  cases step_gate hstep with
  | quiet hauth henf => exact hsame henf
  | decided s c he he' hd => exact hsame (by rw [(Decides.agents hd).1])
  | withdrew s he hw => exact hsame (by rw [hw]; rfl)
  | suspended other reason trigger he hauth hagents =>
    rcases AgentService.suspendAgent_cases (Prod.mk.eta.symm) with ⟨h, -⟩ | ⟨h, -⟩ | ⟨-, -, hc, -⟩
    · exact hsame (by rw [hagents, h])
    · exact hsame (by rw [hagents, h])
    · rw [← hagents] at hc
      exact settled_of_commit hc rfl
  | reinstated other actor reason watermark hauth hagents =>
    rcases AgentService.reinstateAgent_cases (Prod.mk.eta.symm) with ⟨h, -⟩ | ⟨-, -, hc, -⟩
    · exact hsame (by rw [hagents, h])
    · rw [← hagents] at hc
      exact settled_of_commit hc rfl
  | resumed other he hauth hagents => exact hsame (by rw [hagents])
  | claimed hshrinks hclosed hagents => exact hsame (by rw [hagents])

theorem run_settled {ls : List (Nat × Tick)} (hrun : Pool.run (step d) ls p = some q)
    (agentId : String) : Settled agentId p q :=
  Pool.run_invariant (fun r => Settled agentId p r)
    (fun _ _ _ h hf => h.trans (fire_settled hf agentId))
    (.inl rfl) hrun

def Carries (i : Nat) (c : Captured) (p : Platform) : Prop :=
  ∃ e : ExecuteThread, p.threads[i]? = some (.execute e) ∧
    (e.context = some c ∨ e.finished = true)

theorem carries_step {i : Nat} {c : Captured} {l : Nat × Tick} (h : Carries i c p)
    (hf : Pool.fire (step d) p l = some q) : Carries i c q := by
  obtain ⟨e, he, hc⟩ := h
  obtain ⟨b, b', hget, hstep, hthreads⟩ := Pool.fire_eq_some hf
  by_cases hi : l.1 = i
  · rw [hi, he] at hget
    cases hget
    obtain ⟨w', e', hr, -, rfl⟩ := step_execute hstep
    have hget' : q.threads[i]? = some (.execute e') := by
      rw [← hi]
      exact getElem?_fire (by rw [hi, he]) hthreads
    rcases hc with hc | hc
    · exact ⟨e', hget', World.execute_context hr hc⟩
    · rw [World.execute_finished hc] at hr
      cases hr
  · exact ⟨e, by rw [hthreads, List.getElem?_set_ne hi, he], hc⟩

theorem epochMatches_iff {expected : Nat} :
    ExecutionAuthority.epochMatches (some p.shared.world.enforcementReader) agentId
      (some expected) =
      .ok true ↔ p.epoch agentId = expected := by
  simp only [ExecutionAuthority.epochMatches, World.enforcementReader, epoch,
    AgentService.currentState]
  cases p.shared.world.agents.enforcement.getState agentId <;> simp

theorem capture_epoch (w : World) (s : Authorized) :
    (w.capture s).contextEpoch ≤ (w.agents.currentState s.request.agentId).epoch := by
  unfold World.capture Captured.contextEpoch AgentService.getEnforcementState
  cases w.agents.getAgent s.request.agentId <;> simp [Except.toOption]

theorem suspended_at_issue_iff {p₁ p₂ p₃ p₄ : Platform} {i : Nat} {t₁ t₂ : Tick}
    {ls : List (Nat × Tick)} {s : Authorized} {g : RuntimeExecutionGrant}
    (hauthorized : p₁.threads[i]? = some (.execute (.authorized s)))
    (hcapture : Pool.fire (step d) p₁ (i, t₁) = some p₂)
    (hrun : Pool.run (step d) ls p₂ = some p₃) (hissue : Issues d p₃ (i, t₂) g p₄) :
    p₃.suspended g.agentId = false ↔ p₁.suspended s.request.agentId = false := by
  have hcarries : Carries i (p₁.shared.world.capture s) p₂ := by
    obtain ⟨b, b', hget, hstep, hthreads⟩ := Pool.fire_eq_some hcapture
    rw [hauthorized] at hget
    cases hget
    obtain ⟨w', e', hr, -, rfl⟩ := step_execute hstep
    cases hr
    exact ⟨_, getElem?_fire hauthorized hthreads, .inl rfl⟩
  obtain ⟨e, he, hc⟩ := Pool.run_invariant (Carries i (p₁.shared.world.capture s))
    (fun _ _ _ h hf => carries_step h hf) hcarries hrun
  obtain ⟨a, ha, hid, -, hepoch⟩ := issues_granted hissue
  rw [he] at ha
  cases ha
  have hcontext : a.toCaptured = p₁.shared.world.capture s := by
    rcases hc with hc | hc
    · exact Option.some.inj hc
    · cases hc
  have hsame : g.agentId = s.request.agentId := by
    rw [← hid, hcontext]
    rfl
  rw [hsame] at hepoch ⊢
  have hexpected : p₃.epoch s.request.agentId = (p₁.shared.world.capture s).contextEpoch := by
    rw [← hcontext]
    exact epochMatches_iff.mp hepoch
  have hle := capture_epoch p₁.shared.world s
  have hsettled : Settled s.request.agentId p₁ p₃ :=
    (fire_settled hcapture _).trans (run_settled hrun _)
  rcases hsettled with hp | hlt
  · rw [suspended, suspended]
    rw [persisted, persisted] at hp
    rw [hp]
  · rw [hexpected] at hlt
    exact absurd hle (not_le.mpr hlt)

def awaitsCapture : PlatformThread → Bool
  | .execute (.authorized _) => true
  | _ => false

structure Window (d : Deployment) (p p₁ p₂ p₃ p₄ : Platform) (before between : List (Nat × Tick))
    (t₁ t₂ : Tick) (s : Authorized) (g : RuntimeExecutionGrant) : Prop where
  reached : Pool.run (step d) before p = some p₁
  authorized : p₁.threads[0]? = some (.execute (.authorized s))
  captured : Pool.fire (step d) p₁ (0, t₁) = some p₂
  continued : Pool.run (step d) between p₂ = some p₃
  issued : Issues d p₃ (0, t₂) g p₄

def windowCheck (d : Deployment) (before between : List (Nat × Tick)) (t₁ t₂ : Tick)
    (agentId : String) (P : Platform → Platform → Bool) (p : Platform) : Bool :=
  (Pool.run (step d) before p).any (fun p₁ =>
    (p₁.threads[0]?).any awaitsCapture &&
    (Pool.fire (step d) p₁ (0, t₁)).any (fun p₂ =>
      (Pool.run (step d) between p₂).any (fun p₃ =>
        (p₃.threads[0]?).any awaitsDecision &&
        (Pool.fire (step d) p₃ (0, t₂)).any (fun p₄ =>
          (p₄.threads[0]?).any (issuedTo agentId) && P p₃ p₄))))

theorem exists_window (d : Deployment) (p : Platform) (before between : List (Nat × Tick))
    (t₁ t₂ : Tick) (agentId : String) (P : Platform → Platform → Bool)
    (h : windowCheck d before between t₁ t₂ agentId P p = true) :
    ∃ p₁ p₂ p₃ p₄ s g, Window d p p₁ p₂ p₃ p₄ before between t₁ t₂ s g ∧ g.agentId = agentId ∧
      P p₃ p₄ = true := by
  obtain ⟨p₁, h₁, hall₁⟩ := (Option.any_eq_true _ _).mp h
  obtain ⟨hawaits, hall₁⟩ := Bool.and_eq_true_iff.mp hall₁
  obtain ⟨p₂, h₂, hall₂⟩ := (Option.any_eq_true _ _).mp hall₁
  obtain ⟨p₃, h₃, hall₃⟩ := (Option.any_eq_true _ _).mp hall₂
  obtain ⟨hdecision, hall₃⟩ := Bool.and_eq_true_iff.mp hall₃
  obtain ⟨p₄, h₄, hall₄⟩ := (Option.any_eq_true _ _).mp hall₃
  obtain ⟨hissued, hP⟩ := Bool.and_eq_true_iff.mp hall₄
  obtain ⟨e, he, hawait⟩ := (Option.any_eq_true _ _).mp hawaits
  obtain ⟨g, hg, hid⟩ := issues_of_issuedTo h₄ hdecision hissued
  unfold awaitsCapture at hawait
  split at hawait
  · exact ⟨p₁, p₂, p₃, p₄, _, g, ⟨h₁, he, h₂, h₃, hg⟩, hid, hP⟩
  · cases hawait

def sampleReplica : Platform :=
  { shared := ⟨sampleRegistered, []⟩
    threads := [.execute (.start (sampleRequest "session-1")),
      .suspension "agent-1" "suspended by another replica" none] }

theorem suspended_at_issue_sample :
    ∃ p₁ p₂ p₃ p₄ s g, Window sampleDeployment sampleReplica p₁ p₂ p₃ p₄ (sampleSchedule 0 0 2)
      (sampleSchedule 3 0 6) (sampleTick 2) (sampleTick 9) s g ∧
      (p₃.suspended g.agentId = false ↔ p₁.suspended s.request.agentId = false) := by
  obtain ⟨p₁, p₂, p₃, p₄, s, g, hw, -, -⟩ := exists_window sampleDeployment
    sampleReplica (sampleSchedule 0 0 2) (sampleSchedule 3 0 6) (sampleTick 2) (sampleTick 9)
    "agent-1" (fun _ _ => true) (by decide +kernel)
  exact ⟨p₁, p₂, p₃, p₄, s, g, hw,
    suspended_at_issue_iff hw.authorized hw.captured hw.continued hw.issued⟩

def returnsGrant (g : RuntimeExecutionGrant → Bool) : PlatformThread → Bool
  | .execute (.returned r) => r.authorization.any g
  | _ => false

theorem grant_issued_while_suspended :
    ∃ p₁ p₂ p₃ p₄ s g, Window sampleDeployment sampleReplica p₁ p₂ p₃ p₄
      (sampleSchedule 0 0 2 ++ sampleSchedule 2 1 1) (sampleSchedule 4 0 6) (sampleTick 3)
      (sampleTick 10) s g ∧ g.agentId = "agent-1" ∧ p₃.suspended g.agentId = true ∧
      ∃ q : Platform, Pool.run (step sampleDeployment) (sampleSchedule 11 0 2) p₄ = some q ∧
        (q.threads[0]?).any (returnsGrant (fun h => h.agentId = "agent-1")) = true := by
  obtain ⟨p₁, p₂, p₃, p₄, s, g, hw, hid, hP⟩ := exists_window sampleDeployment
    sampleReplica (sampleSchedule 0 0 2 ++ sampleSchedule 2 1 1) (sampleSchedule 4 0 6)
    (sampleTick 3) (sampleTick 10) "agent-1" (fun r r' => suspended r "agent-1" &&
      (Pool.run (step sampleDeployment) (sampleSchedule 11 0 2) r').any (fun q =>
        (q.threads[0]?).any (returnsGrant (fun h => h.agentId = "agent-1")))) (by decide +kernel)
  obtain ⟨hs, hq⟩ := Bool.and_eq_true_iff.mp hP
  obtain ⟨q, hrun, hreturns⟩ := (Option.any_eq_true _ _).mp hq
  exact ⟨p₁, p₂, p₃, p₄, s, g, hw, hid, by rw [hid]; exact hs, q, hrun, hreturns⟩

end Platform

end AgentSecurityPlatform
