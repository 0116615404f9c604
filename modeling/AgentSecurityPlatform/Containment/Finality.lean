import AgentSecurityPlatform.Containment.EpochWindow

namespace AgentSecurityPlatform

theorem ExecutionAuthority.issue_not_allowed {σ : Signing} {a : ExecutionAuthority} {now : Instant}
    {uuid : String} {repository : Option EnforcementReader} {binding : ExecutionBinding}
    {decision : Decision} {agentId sessionId : String} {expectedEpoch : Option Nat}
    {profile digest : Option String} (h : decision ≠ .allow) :
    a.issue σ now uuid repository binding decision agentId sessionId expectedEpoch profile digest =
      (a, .ok none) := by
  rw [issue, if_pos h]

-- a thread that ends sessions
def PlatformThread.isSession : PlatformThread → Bool
  | .session w => w.ends
  | _ => false

def PlatformThread.deciding : PlatformThread → Option Decided
  | .execute (.decided s) => some s
  | _ => none

namespace ExecuteThread

def suspending (decision : Decision) : ExecuteThread → Prop
  | .assessed s => responseTypes s.posture.riskLevel = .suspendAgent ∧ s.event.decision = decision
  | .decided s => s.response.responseType = .suspendAgent ∧ s.event.decision = decision
  | .finalized s => s.response.responseType = .suspendAgent ∧ s.event.decision = decision
  | .withdrawn s => s.response.responseType = .suspendAgent ∧ s.event.decision = decision
  | .contained s => s.response.responseType = .suspendAgent ∧ s.event.decision = decision
  | .returned result => (∃ a, result.responseAction = some a ∧ a.responseType = .suspendAgent) ∧
      result.event.decision = decision
  | _ => False

end ExecuteThread

namespace World

variable {d : Deployment} {t : Tick} {w₀ w w' : World} {r : ExecuteRequest} {e e' : ExecuteThread}
  {decision : Decision}

theorem Quiet.terminates {sessions : SessionRepository} (h : Quiet w₀ w)
    (hs : SessionRepository.Terminates w.sessions sessions) :
    Quiet w₀ { w with sessions } :=
  ⟨h.agents, h.findings, h.aggregator, h.authority, h.audit, hs.events.trans h.events⟩

theorem InFlight.terminates {sessions : SessionRepository} {s : Recorded} (h : InFlight d w₀ r w s)
    (hs : SessionRepository.Terminates w.sessions sessions) :
    InFlight d w₀ r { w with sessions } s := by
  refine ⟨h.prepared, h.agents, h.audit, hs.known _ h.known, h.session, h.agent, ?_⟩
  rw [hs.events]
  exact h.pending

theorem Finalized.terminates {sessions : SessionRepository} {s : Decided}
    (h : Finalized d w₀ r w s) (hs : SessionRepository.Terminates w.sessions sessions) :
    Finalized d w₀ r { w with sessions } s := by
  refine ⟨h.prepared, h.verdict, h.audit, ?_, h.final⟩
  rw [hs.events]
  exact h.stored

theorem Concluded.terminates {sessions : SessionRepository} {result : RuntimeResult}
    (h : Concluded d w₀ r w result) (hs : SessionRepository.Terminates w.sessions sessions) :
    Concluded d w₀ r { w with sessions } result := by
  refine ⟨h.audited, h.allowed, h.bound, ?_, h.refused, ?_, h.contained⟩
  · rw [hs.events]
    exact h.stored
  · rw [hs.events]
    exact h.inert

theorem Tracks.terminates {sessions : SessionRepository} (h : Tracks d w₀ r w e)
    (hs : SessionRepository.Terminates w.sessions sessions) :
    Tracks d w₀ r { w with sessions } e := by
  cases e with
  | start q => exact ⟨h.1, h.2.terminates hs⟩
  | bound s => exact ⟨h.1, h.2.1.terminates hs, hs.known _ h.2.2⟩
  | bindingRefused s => exact ⟨h.1, h.2.terminates hs⟩
  | authorized s => exact ⟨h.1, h.2.1.terminates hs, hs.known _ h.2.2⟩
  | captured s => exact ⟨h.1, h.2.1.terminates hs, hs.known _ h.2.2⟩
  | recorded s => exact InFlight.terminates h hs
  | observed s => exact InFlight.terminates h hs
  | detected s => exact InFlight.terminates h hs
  | accepted s => exact InFlight.terminates h hs
  | rated s => exact InFlight.terminates h hs
  | assessed s => exact InFlight.terminates h hs
  | decided s => exact ⟨h.1.terminates hs, h.2⟩
  | finalized s => exact ⟨h.1.terminates hs, h.2⟩
  | withdrawn s => exact ⟨h.1.terminates hs, h.2⟩
  | contained s => exact ⟨h.1.terminates hs, h.2⟩
  | refusing s reason findings => exact ⟨h.1.terminates hs, h.2⟩
  | refused s reason findings =>
    obtain ⟨hp, haudit, hstored, hrest⟩ := h
    refine ⟨hp, haudit, ?_, hrest⟩
    rw [hs.events]
    exact hstored
  | returned result => exact Concluded.terminates h hs
  | raised error => exact h

theorem suspending_decides {s : Assessed} (hs : (ExecuteThread.assessed s).suspending decision)
    (h : Decides d t w s w' e') : e'.suspending decision := by
  obtain ⟨hlevel, hdecision⟩ := hs
  cases h with
  | withheld s' hs hg hr hf =>
    refine ⟨?_, by rw [hs, hdecision]⟩
    rw [hr]
    exact hlevel
  | granted s' _ _ _ _ _ hs hb hc hr =>
    refine ⟨?_, by rw [hs, hdecision]⟩
    rw [hr]
    exact hlevel
  | failed binding profile digest authority error hi =>
    -- SUSPEND_AGENT leaves no ALLOW, so the authority is asked for nothing it could fail at
    rw [hlevel, escalate_suspend, issueGrant,
      ExecutionAuthority.issue_not_allowed (withhold_ne_allow _)] at hi
    cases hi

theorem finalize_live {s : Decided} (ht : Tracks d w₀ r w (.decided s)) :
    (w.sessions.getTombstone r.sessionId = none ∧ (w.finalize s).2 =
        .finalized { s with event := { s.event with finalDecision := some s.finalDecision } }) ∨
      (w.sessions.getTombstone r.sessionId ≠ none ∧ ∃ error, (w.finalize s).2 = .raised error) := by
  unfold finalize
  rcases updated_pending ht.1 s.finalDecision with ⟨sessions, hu, hlive, -⟩ | ⟨error, c, hu, hdead⟩
  · rw [hu]
    exact .inl ⟨hlive, rfl⟩
  · rw [hu]
    exact .inr ⟨by rw [hdead]; simp, _, rfl⟩

theorem suspending_execute (h : w.execute d t e = some (w', e')) (ht : Tracks d w₀ r w e)
    (hs : e.suspending decision) :
    e'.suspending decision ∨ ∃ s error, e = .decided s ∧ e' = .raised error ∧
      w.sessions.getTombstone r.sessionId ≠ none := by
  cases e with
  | assessed s =>
    have hd := decide_decides d t w s
    rw [Option.some.inj h] at hd
    exact .inl (suspending_decides hs hd)
  | decided s =>
    have hf := finalize_live ht
    rw [Option.some.inj h] at hf
    rcases hf with ⟨-, rfl⟩ | ⟨hdead, error, rfl⟩
    · exact .inl hs
    · exact .inr ⟨s, error, rfl, rfl, hdead⟩
  | finalized s =>
    simp only [execute, if_pos hs.1] at h
    cases h
    exact .inl hs
  | withdrawn s =>
    have hc := (tracks_withdrawn ht (t := t)).2
    rw [Option.some.inj h] at hc
    obtain rfl := hc
    exact .inl hs
  | contained s =>
    cases h
    exact .inl ⟨⟨_, rfl, hs.1⟩, hs.2⟩
  | returned result => cases h
  | _ => exact hs.elim

end World

namespace Platform

variable {d : Deployment} {p q : Platform} {w₀ : World} {r : ExecuteRequest} {i : Nat}
  {e : ExecuteThread} {l : Nat × Tick} {decision : Decision}

structure Watched (d : Deployment) (w₀ : World) (r : ExecuteRequest) (i : Nat) (p : Platform)
    (e : ExecuteThread) : Prop where
  thread : p.threads[i]? = some (.execute e)
  others : ∀ j, j ≠ i → ∀ x ∈ p.threads[j]?, x.isSession = true
  tracks : World.Tracks d w₀ r p.shared.world e

def finishes (i : Nat) (p : Platform) : Bool :=
  p.threads[i]?.any (fun x => match x with
    | .execute e => e.finished
    | _ => false)

-- the final decision is written only while the session has no tombstone
def FinalizesLive (p : Platform) (l : Nat × Tick) : Prop :=
  ∀ s ∈ p.threads[l.1]?.bind PlatformThread.deciding,
    p.shared.world.sessions.getTombstone s.request.sessionId = none

instance (p : Platform) (l : Nat × Tick) : Decidable (FinalizesLive p l) :=
  inferInstanceAs (Decidable (∀ s ∈ p.threads[l.1]?.bind PlatformThread.deciding,
    p.shared.world.sessions.getTombstone s.request.sessionId = none))

structure ContainedCall (p : Platform) (r : ExecuteRequest) (decision : Decision) (q : Platform) :
    Prop where
  suspended : q.suspended r.agentId = true
  closed : .enforcement ∈ q.shared.world.authority.issuanceClosedPlanes r.agentId
  audited : ∃ a, q.shared.world.audit = p.shared.world.audit ++ [a] ∧ a.sessionId = r.sessionId ∧
    a.agentId = r.agentId ∧ a.requestedToolId = r.toolId ∧ a.decision = withhold decision

theorem step_session {t : Tick} {p p' : Shared} {x x' : PlatformThread}
    (h : step d t p x = some (p', x')) (hx : x.isSession = true) :
    x'.isSession = true ∧ ∃ sessions, p' = { p with world := { p.world with sessions } } ∧
      SessionRepository.Terminates p.world.sessions sessions := by
  cases x with
  | session c =>
    obtain ⟨⟨sessions, c'⟩, hr, he⟩ := Option.map_eq_some_iff.mp h
    cases he
    obtain ⟨hends, hterminates⟩ := SessionWork.stepInMemory_terminates hx hr
    exact ⟨hends, sessions, rfl, hterminates⟩
  | _ => cases hx

theorem Watched.fire (h : Watched d w₀ r i p e) (hf : Pool.fire (step d) p l = some q) :
    (l.1 ≠ i ∧ Watched d w₀ r i q e) ∨
      (l.1 = i ∧ ∃ w' e', p.shared.world.execute d l.2 e = some (w', e') ∧
        Watched d w₀ r i q e') := by
  obtain ⟨x, x', hget, hstep, hthreads⟩ := Pool.fire_eq_some hf
  by_cases hi : l.1 = i
  · subst hi
    rw [h.thread] at hget
    cases hget
    obtain ⟨w', e', hr, hw, rfl⟩ := step_execute hstep
    refine .inr ⟨rfl, w', e', hr, getElem?_fire h.thread hthreads, ?_, ?_⟩
    · intro j hj y hy
      rw [hthreads, List.getElem?_set_ne (Ne.symm hj)] at hy
      exact h.others j hj y hy
    · rw [hw]
      exact World.tracks_step hr h.tracks
  · obtain ⟨hx', sessions, hw, ht⟩ := step_session hstep (h.others l.1 hi x hget)
    refine .inl ⟨hi, ?_, ?_, ?_⟩
    · rw [hthreads, List.getElem?_set_ne hi, h.thread]
    · intro j hj y hy
      by_cases hl : l.1 = j
      · subst hl
        rw [getElem?_fire hget hthreads] at hy
        cases hy
        exact hx'
      · rw [hthreads, List.getElem?_set_ne hl] at hy
        exact h.others j hj y hy
    · rw [hw]
      exact h.tracks.terminates ht

theorem Watched.run {ls : List (Nat × Tick)} (h : Watched d w₀ r i p e)
    (hrun : Pool.run (step d) ls p = some q) : ∃ e', Watched d w₀ r i q e' := by
  refine Pool.run_invariant (fun c => ∃ e', Watched d w₀ r i c e') ?_ ⟨e, h⟩ hrun
  rintro p l q ⟨e, h⟩ hf
  rcases h.fire hf with ⟨-, h'⟩ | ⟨-, w', e', -, h'⟩
  · exact ⟨e, h'⟩
  · exact ⟨e', h'⟩

theorem Watched.run_finished {ls : List (Nat × Tick)} (h : Watched d w₀ r i p e)
    (he : e.finished = true) (hrun : Pool.run (step d) ls p = some q) : Watched d w₀ r i q e := by
  refine Pool.run_invariant (fun c => Watched d w₀ r i c e) ?_ h hrun
  intro p l q h hf
  rcases h.fire hf with ⟨-, h'⟩ | ⟨-, w', e', hr, -⟩
  · exact h'
  · rw [World.execute_finished he] at hr
    cases hr

theorem Watched.tracked {s : Decided} (h : Watched d w₀ r i p (.decided s)) : s.request = r := by
  have hp := h.tracks.1.prepared
  rw [hp, (d.prepare_spec r).1]

theorem Watched.decided {s : Decided} (h : Watched d w₀ r i p e)
    (hs : s ∈ p.threads[l.1]?.bind PlatformThread.deciding) : l.1 = i ∧ e = .decided s := by
  obtain ⟨x, hx, hs⟩ := Option.bind_eq_some_iff.mp hs
  unfold PlatformThread.deciding at hs
  split at hs
  · cases hs
    by_cases hi : l.1 = i
    · rw [hi, h.thread] at hx
      cases hx
      exact ⟨hi, rfl⟩
    · cases h.others l.1 hi _ hx
  · cases hs

theorem suspending_run {ls : List (Nat × Tick)} (hlive : Pool.AllSteps (step d) FinalizesLive ls p)
    (h : Watched d w₀ r i p e) (hs : e.suspending decision)
    (hrun : Pool.run (step d) ls p = some q) :
    ∃ e', Watched d w₀ r i q e' ∧ e'.suspending decision := by
  refine Pool.run_invariant_of_steps FinalizesLive
    (fun c => ∃ e', Watched d w₀ r i c e' ∧ e'.suspending decision) ?_ hlive ⟨e, h, hs⟩ hrun
  rintro p l q hlive ⟨e, h, hs⟩ hf
  rcases h.fire hf with ⟨-, h'⟩ | ⟨hi, w', e', hr, h'⟩
  · exact ⟨e, h', hs⟩
  · refine ⟨e', h', ?_⟩
    rcases World.suspending_execute hr h.tracks hs with hs' | ⟨s, error, rfl, -, hdead⟩
    · exact hs'
    · have hnone := hlive s (by rw [hi, h.thread]; rfl)
      rw [h.tracked] at hnone
      exact absurd hnone hdead

theorem finalizesLive_of_returned {ls : List (Nat × Tick)} {result : RuntimeResult}
    (h : Watched d w₀ r i p e) (hs : e.suspending decision)
    (hrun : Pool.run (step d) ls p = some q)
    (hreturned : q.threads[i]? = some (.execute (.returned result))) :
    Pool.AllSteps (step d) FinalizesLive ls p := by
  induction ls generalizing p e with
  | nil => trivial
  | cons l ls ih =>
    obtain ⟨q₁, hf, hrest⟩ := Pool.run_cons hrun
    -- a step that raises leaves the thread raised to the end of the run
    have hstep : (∃ e', Watched d w₀ r i q₁ e' ∧ e'.suspending decision) ∧ FinalizesLive p l := by
      rcases h.fire hf with ⟨hi, h'⟩ | ⟨hi, w', e', hr, h'⟩
      · refine ⟨⟨e, h', hs⟩, ?_⟩
        intro s hs
        exact absurd (h.decided hs).1 hi
      · rcases World.suspending_execute hr h.tracks hs with hs' | ⟨s, error, rfl, rfl, -⟩
        · refine ⟨⟨e', h', hs'⟩, ?_⟩
          intro s hs
          obtain ⟨-, rfl⟩ := h.decided hs
          rw [h.tracked]
          rcases World.finalize_live h.tracks with ⟨hlive, -⟩ | ⟨-, error, hraised⟩
          · exact hlive
          · rw [Option.some.inj hr] at hraised
            subst hraised
            exact hs'.elim
        · have hend := (h'.run_finished rfl hrest).thread
          rw [hreturned] at hend
          cases hend
    obtain ⟨⟨e', h', hs'⟩, hlive⟩ := hstep
    refine ⟨hlive, ?_⟩
    intro q₂ hf₂
    rw [hf] at hf₂
    cases hf₂
    exact ih h' hs' hrest

theorem containment_completes_iff {ls ks : List (Nat × Tick)} {p₁ : Platform} {a : Assessed}
    (hstart : p.threads[i]? = some (.execute (.start r)))
    (hothers : ∀ j, j ≠ i → ∀ x ∈ p.threads[j]?, x.isSession = true)
    (hregistered : (p.shared.world.agents.agents.get r.agentId).isSome = true)
    (henabled : p.shared.world.agents.isDisabled r.agentId = false)
    (hrun : Pool.run (step d) ls p = some p₁)
    (hassessed : p₁.threads[i]? = some (.execute (.assessed a)))
    (hsuspend : responseTypes a.posture.riskLevel = .suspendAgent)
    (hrun' : Pool.run (step d) ks p₁ = some q) (hfinished : q.finishes i = true) :
    ContainedCall p r a.event.decision q ↔ Pool.AllSteps (step d) FinalizesLive ks p₁ := by
  obtain ⟨e₁, h₁⟩ := Watched.run ⟨hstart, hothers, World.tracks_request d p.shared.world r⟩ hrun
  obtain rfl : ExecuteThread.assessed a = e₁ := by
    have := h₁.thread
    rw [hassessed] at this
    cases this
    rfl
  have hs₁ : (ExecuteThread.assessed a).suspending a.event.decision := ⟨hsuspend, rfl⟩
  constructor
  · intro hc
    obtain ⟨e, h⟩ := h₁.run hrun'
    rw [finishes, h.thread] at hfinished
    cases e with
    | returned result => exact finalizesLive_of_returned h₁ hs₁ hrun' h.thread
    | raised error =>
      obtain ⟨b, hb, -⟩ := hc.audited
      have hsame : q.shared.world.audit = p.shared.world.audit := h.tracks
      rw [hsame] at hb
      simp at hb
    | _ => cases hfinished
  · intro hlive
    obtain ⟨e, h, hs⟩ := suspending_run hlive h₁ hs₁ hrun'
    rw [finishes, h.thread] at hfinished
    cases e with
    | returned result =>
      obtain ⟨⟨b, hb, hresponse⟩, hdecision⟩ := hs
      have hconcluded : World.Concluded d p.shared.world r q.shared.world result := h.tracks
      obtain ⟨hfinal, hclosed, hcontains⟩ := hconcluded.contained b hb hresponse
      obtain ⟨c, haudit, -, hsession, hagent, htool, hc⟩ := hconcluded.audited
      refine ⟨hcontains hregistered henabled, hclosed, c, haudit, hsession, hagent, htool, ?_⟩
      rw [hfinal, hdecision] at hc
      exact (Option.some.inj hc).symm
    | raised error => exact hs.elim
    | _ => cases hfinished

def sampleTermination : Platform :=
  { shared := ⟨sampleCritical, []⟩
    threads := [.execute (.start (sampleRequest "session-1")),
      .session (.start (.endSession "session-1" "agent-1" 0))] }

def assessedSuspension : PlatformThread → Bool
  | .execute (.assessed a) => responseTypes a.posture.riskLevel = .suspendAgent
  | _ => false

theorem exists_assessed (d : Deployment) (p : Platform) (ls ks : List (Nat × Tick))
    (P : Platform → Platform → Bool)
    (h : (Pool.run (step d) ls p).any (fun p₁ => p₁.threads[0]?.any assessedSuspension &&
      (Pool.run (step d) ks p₁).any (fun q => finishes 0 q && P p₁ q)) = true) :
    ∃ (p₁ : Platform) (a : Assessed) (q : Platform), Pool.run (step d) ls p = some p₁ ∧
      p₁.threads[0]? = some (.execute (.assessed a)) ∧
      responseTypes a.posture.riskLevel = .suspendAgent ∧ Pool.run (step d) ks p₁ = some q ∧
      q.finishes 0 = true ∧ P p₁ q = true := by
  obtain ⟨p₁, h₁, hall⟩ := (Option.any_eq_true _ _).mp h
  obtain ⟨hawaits, hall⟩ := Bool.and_eq_true_iff.mp hall
  obtain ⟨x, hx, hassessed⟩ := (Option.any_eq_true _ _).mp hawaits
  obtain ⟨q, hq, hall⟩ := (Option.any_eq_true _ _).mp hall
  obtain ⟨hfinished, hP⟩ := Bool.and_eq_true_iff.mp hall
  unfold assessedSuspension at hassessed
  split at hassessed
  · exact ⟨p₁, _, q, h₁, hx, of_decide_eq_true hassessed, hq, hfinished, hP⟩
  · cases hassessed

theorem sampleTermination_others : ∀ j, j ≠ 0 → ∀ x ∈ sampleTermination.threads[j]?,
    x.isSession = true := by
  intro j hj x hx
  match j with
  | 0 => exact absurd rfl hj
  | 1 =>
    cases hx
    rfl
  | j + 2 => cases hx

theorem containment_completes_sample :
    ∃ (p₁ : Platform) (a : Assessed) (q : Platform),
      Pool.run (step sampleDeployment) (sampleSchedule 0 0 9) sampleTermination = some p₁ ∧
      Pool.run (step sampleDeployment) (sampleSchedule 9 0 5 ++ sampleSchedule 14 1 3) p₁ = some q ∧
      Pool.AllSteps (step sampleDeployment) FinalizesLive
        (sampleSchedule 9 0 5 ++ sampleSchedule 14 1 3) p₁ ∧
      ContainedCall sampleTermination (sampleRequest "session-1") a.event.decision q := by
  obtain ⟨p₁, a, q, h₁, hassessed, hsuspend, hq, hfinished, hP⟩ := exists_assessed sampleDeployment
    sampleTermination (sampleSchedule 0 0 9) (sampleSchedule 9 0 5 ++ sampleSchedule 14 1 3)
    (fun p₁ _ => Pool.AllSteps (step sampleDeployment) FinalizesLive
        (sampleSchedule 9 0 5 ++ sampleSchedule 14 1 3) p₁) (by decide +kernel)
  have hlive := of_decide_eq_true hP
  exact ⟨p₁, a, q, h₁, hq, hlive, (containment_completes_iff rfl sampleTermination_others
    (by decide +kernel) (by decide +kernel) h₁ hassessed hsuspend hq hfinished).mpr hlive⟩

theorem containment_skipped :
    (sampleTermination.shared.world.agents.agents.get "agent-1").isSome = true ∧
    sampleTermination.shared.world.agents.isDisabled "agent-1" = false ∧
    ∃ (p₁ : Platform) (a : Assessed) (q : Platform),
      Pool.run (step sampleDeployment) (sampleSchedule 0 0 9) sampleTermination = some p₁ ∧
      p₁.threads[0]? = some (.execute (.assessed a)) ∧
      responseTypes a.posture.riskLevel = .suspendAgent ∧
      Pool.run (step sampleDeployment) (sampleSchedule 9 0 1 ++ sampleSchedule 10 1 3 ++
        sampleSchedule 13 0 1) p₁ = some q ∧ q.finishes 0 = true ∧
      q.suspended "agent-1" = false ∧
      q.shared.world.authority.issuanceClosedPlanes "agent-1" = ∅ ∧
      q.shared.world.audit = sampleTermination.shared.world.audit ∧
      ¬ ContainedCall sampleTermination (sampleRequest "session-1") a.event.decision q := by
  obtain ⟨p₁, a, q, h₁, hassessed, hsuspend, hq, hfinished, hP⟩ := exists_assessed sampleDeployment
    sampleTermination (sampleSchedule 0 0 9) (sampleSchedule 9 0 1 ++ sampleSchedule 10 1 3 ++
      sampleSchedule 13 0 1)
    (fun _ q => !suspended q "agent-1" &&
      (decide (q.shared.world.authority.issuanceClosedPlanes "agent-1" = ∅) &&
        decide (q.shared.world.audit = sampleTermination.shared.world.audit))) (by decide +kernel)
  simp only [Bool.and_eq_true, Bool.not_eq_true', decide_eq_true_eq] at hP
  obtain ⟨hs, hclosed, haudit⟩ := hP
  refine ⟨by decide +kernel, by decide +kernel, p₁, a, q, h₁, hassessed, hsuspend, hq,
    hfinished, hs, hclosed, haudit, ?_⟩
  intro hc
  have hcontained := hc.suspended
  rw [show (sampleRequest "session-1").agentId = "agent-1" from rfl, hs] at hcontained
  cases hcontained

end Platform

end AgentSecurityPlatform
