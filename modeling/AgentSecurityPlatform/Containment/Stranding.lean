import AgentSecurityPlatform.Runtime.History

namespace AgentSecurityPlatform

namespace AgentService

variable {s : AgentService} {agentId : String}

theorem registerAgent_cases (s : AgentService) (now : Instant) (u c : String) (agent : Agent)
    (actor : Actor) (cid : Option String) :
    (s.registerAgent now u c agent actor cid).1 = s ∨
    (s.agents.get agent.agentId = none ∧
      (s.registerAgent now u c agent actor cid).1.enforcement = s.enforcement ∧
      ∀ a ≠ agent.agentId,
        (s.registerAgent now u c agent actor cid).1.agents.get a = s.agents.get a ∧
        (s.registerAgent now u c agent actor cid).1.administrative.getState a =
          s.administrative.getState a) := by
  simp only [registerAgent, AdministrativeStateRepository.commitRegistration]
  split
  · rename_i hc
    split_ifs at hc with hnew
    cases hc
    refine .inr ⟨by simpa using hnew, rfl, ?_⟩
    intro a ha
    simp [AgentRepository.get, AgentRepository.save, AdministrativeStateRepository.getState,
      ha.symm]
  · exact .inl rfl
  · exact .inl rfl

theorem recordTransition_disabled {r r' : AdministrativeStateRepository}
    {t : AdministrativeTransition} {state : AgentAdministrativeState} {expectedVersion : Nat}
    {reply : Except AdministrativeRepositoryError Bool}
    (hr : r.recordTransition t state expectedVersion = (r', reply))
    (h : (r.getState agentId).map (·.state) = some .disabled) :
    (r'.getState agentId).map (·.state) = some .disabled := by
  obtain rfl : (r.recordTransition t state expectedVersion).1 = r' := congrArg Prod.fst hr
  simp only [AdministrativeStateRepository.recordTransition]
  split_ifs with _ _ hlegal
  · exact h
  · exact h
  · exact h
  · exact h
  · simp only [AdministrativeStateRepository.getState, Dict.get?_set] at h ⊢
    split
    · rename_i hid
      -- DISABLED has no successor, so the transition just recorded is of another agent
      rw [hid, h] at hlegal
      simp [isLegalAdministrativeTransition, legalAdministrativeTransitions] at hlegal
    · exact h

theorem enterState_disabled (now : Instant) (u c k : String) (state : AdministrativeLifecycleState)
    (actor : Actor) (reason : String) (cid : Option String) (h : s.isDisabled agentId = true) :
    (s.enterState now u c k state actor reason cid).1.isDisabled agentId = true := by
  have hstate : (s.administrative.getState agentId).map (·.state) = some .disabled :=
    of_decide_eq_true h
  simp only [enterState]
  split
  · exact h
  · simp only [administrativeTransition]
    split
    · exact h
    · split
      · exact h
      · split <;> rename_i hr <;> exact decide_eq_true (recordTransition_disabled hr hstate)

end AgentService

namespace World

variable {d : Deployment} {t : Tick} {w w' : World} {e e' : ExecuteThread}

def IssuanceOpen (w : World) : Prop :=
  ∀ agentId, (w.agents.agents.get agentId).isSome = true →
    (w.agents.administrative.getState agentId).map (·.state) = some .active →
    isSuspended (w.agents.enforcement.getState agentId) = false →
    .enforcement ∉ w.authority.issuanceClosedPlanes agentId

def SuspendsRegistered (w : World) : ExecuteThread → Bool
  | .finalized s => s.response.responseType ≠ .suspendAgent ∨
      (w.agents.agents.get s.request.agentId).isSome
  | _ => true

def ContainsRegistered (d : Deployment) (w : World) : HistoryStep → Prop
  | .execute ticks request =>
    Along d (fun w e => SuspendsRegistered w e = true) (List.ofFn ticks) w (.start request)
  | _ => True

instance decidableContainsRegistered (d : Deployment) (w : World) :
    ∀ s, Decidable (ContainsRegistered d w s)
  | .execute ticks request => inferInstanceAs (Decidable (Along d
      (fun w e => SuspendsRegistered w e = true) (List.ofFn ticks) w (.start request)))
  | .register _ _ _ _ _ _ => isTrue trivial
  | .activate _ _ _ _ _ _ _ => isTrue trivial
  | .disable _ _ _ _ _ _ _ => isTrue trivial
  | .suspend _ _ _ _ _ => isTrue trivial
  | .reinstate _ _ _ _ _ _ => isTrue trivial

-- a closed gate belongs to a registered agent that is suspended, disabled or about to be suspended
def Accounted (w : World) (pending : Option String) : Prop :=
  ∀ a, .enforcement ∈ w.authority.issuanceClosedPlanes a → (w.agents.agents.get a).isSome = true ∧
    (pending = some a ∨ isSuspended (w.agents.enforcement.getState a) = true ∨
      w.agents.isDisabled a = true)

theorem Accounted.issuanceOpen (h : w.Accounted none) : w.IssuanceOpen := by
  intro a _ hactive hopen hclosed
  rcases (h a hclosed).2 with hp | hs | hd
  · cases hp
  · rw [hopen] at hs
    cases hs
  · simp [AgentService.isDisabled, hactive] at hd

theorem Accounted.congr {pending : Option String} (h : w.Accounted pending)
    (hclosed : w'.authority.issuanceClosed = w.authority.issuanceClosed)
    (hagents : w'.agents = w.agents) : w'.Accounted pending := by
  intro a ha
  simp only [ExecutionAuthority.issuanceClosedPlanes, hclosed] at ha
  rw [hagents]
  exact h a ha

theorem accounted_suspended {pending : Option String} {agentId : String} (h : w.Accounted pending)
    (hp : ∀ k, pending = some k → k = agentId ∧ (w.agents.agents.get k).isSome = true)
    (hclosed : w'.authority.issuanceClosed = w.authority.issuanceClosed) {now : Instant}
    {uuid reason : String} {trigger : Option EnforcementTrigger}
    (hagents : w'.agents = (w.agents.suspendAgent now uuid agentId reason trigger).1) :
    w'.Accounted none := by
  intro a ha
  simp only [ExecutionAuthority.issuanceClosedPlanes, hclosed] at ha
  obtain ⟨hreg, hor⟩ := h a ha
  rw [hagents]
  rcases AgentService.suspendAgent_cases (Prod.mk.eta.symm : w.agents.suspendAgent now uuid agentId
    reason trigger = _) with ⟨he, hn, -⟩ | ⟨he, hs, -⟩ | ⟨-, -, hc, -⟩
  · rw [he]
    rcases hor with hid | hor
    · obtain ⟨rfl, hsome⟩ := hp a hid
      rw [hn] at hsome
      cases hsome
    · exact ⟨hreg, .inr hor⟩
  · rw [he]
    rcases hor with hid | hor
    · obtain ⟨rfl, -⟩ := hp a hid
      exact ⟨hreg, .inr hs⟩
    · exact ⟨hreg, .inr hor⟩
  · refine ⟨by rw [hc.agents]; exact hreg, .inr ?_⟩
    simp only [AgentService.isDisabled, hc.administrative, hc.getState]
    split
    · exact .inl rfl
    · rename_i hne
      rcases hor with hid | hor
      · exact absurd (hp a hid).1.symm hne
      · exact hor

def threadAccounted (w : World) (e : ExecuteThread) : Prop :=
  w.Accounted (PlatformThread.execute e).withdrawing ∧
    ∀ a, (PlatformThread.execute e).withdrawing = some a → (w.agents.agents.get a).isSome = true

theorem accounted_withdraw {agentId : String} (h : w.Accounted none)
    (hreg : (w.agents.agents.get agentId).isSome = true) :
    (w.withdraw agentId).Accounted (some agentId) := by
  intro a ha
  simp only [withdraw, ExecutionAuthority.closedPlanes_suspendIssuance] at ha
  split at ha
  · rename_i hid
    subst hid
    exact ⟨hreg, .inl rfl⟩
  · obtain ⟨hreg', hor⟩ := h a ha
    exact ⟨hreg', .inr (hor.resolve_left (by simp))⟩

theorem accounted_decides {s : Assessed} (h : w.Accounted none) (hd : Decides d t w s w' e') :
    w'.Accounted none := by
  have hissue : ∀ {binding decision profile digest authority reply},
      w.issueGrant d t s binding decision profile digest = (authority, reply) →
        authority.issuanceClosed = w.authority.issuanceClosed := by
    intro binding decision profile digest authority reply hi
    obtain rfl : (w.issueGrant d t s binding decision profile digest).1 = authority :=
      congrArg Prod.fst hi
    exact ExecutionAuthority.issue_issuanceClosed _ _ _ _ _ _ _ _ _
  cases hd with
  | withheld => exact h
  | granted _ _ _ _ _ _ _ _ _ _ _ hi => exact h.congr (hissue hi) rfl
  | failed _ _ _ _ _ hi => exact h.congr (hissue hi) rfl

theorem execute_withdrawn {s : Decided} (h : w.execute d t (.withdrawn s) = some (w', e')) :
    w'.authority = w.authority ∧ w'.agents = (w.agents.suspendAgent t.wall t.uuid
      s.request.agentId suspensionReason (some (suspensionTrigger s))).1 ∧
    (PlatformThread.execute e').withdrawing = none := by
  simp only [execute, Option.some.injEq, contain] at h
  split at h <;> rename_i hs <;> obtain ⟨rfl, -⟩ := suspendAgent_eq hs <;> cases h <;>
    exact ⟨rfl, rfl, rfl⟩

theorem withdrawing_eq_some {a : String} (h : (PlatformThread.execute e).withdrawing = some a) :
    ∃ s, e = .withdrawn s ∧ s.request.agentId = a := by
  cases e with
  | withdrawn s => exact ⟨s, rfl, Option.some.inj h⟩
  | _ => cases h

theorem threadAccounted_of_none (he : (PlatformThread.execute e).withdrawing = none)
    (h : w.Accounted none) : w.threadAccounted e := by
  refine ⟨by rw [he]; exact h, ?_⟩
  intro a ha
  rw [he] at ha
  cases ha

theorem threadAccounted_step (hs : SuspendsRegistered w e = true) (h : w.threadAccounted e)
    (he : w.execute d t e = some (w', e')) : w'.threadAccounted e' := by
  cases hp : (PlatformThread.execute e).withdrawing with
  | some a =>
    obtain ⟨s, rfl, rfl⟩ := withdrawing_eq_some hp
    obtain ⟨hauth, hagents, hw⟩ := execute_withdrawn he
    refine threadAccounted_of_none hw (accounted_suspended h.1 ?_ (by rw [hauth]) hagents)
    intro k hk
    exact ⟨(Option.some.inj hk).symm, h.2 k hk⟩
  | none =>
    have hacc : w.Accounted none := hp ▸ h.1
    cases execute_gate he with
    | quiet hauth hagents hw =>
      exact threadAccounted_of_none hw (hacc.congr (by rw [hauth]) hagents)
    | decided s he hd =>
      exact threadAccounted_of_none (Platform.Decides.agents hd).2 (accounted_decides hacc hd)
    | withdrew s hfin hw he' =>
      subst hfin hw he'
      have hreg : (w.agents.agents.get s.request.agentId).isSome = true := by
        simp only [execute] at he
        split at he
        · rename_i hr
          simpa [SuspendsRegistered, hr] using hs
        · cases congrArg Prod.snd (Option.some.inj he)
      refine ⟨accounted_withdraw hacc hreg, ?_⟩
      intro a ha
      cases ha
      exact hreg
    | contained s hw => simp [hw, PlatformThread.withdrawing] at hp

theorem accounted_call {ticks : Fin callLength → Tick} {r : ExecuteRequest} (h : w.Accounted none)
    (hs : ContainsRegistered d w (.execute ticks r)) : (w.call d ticks r).1.Accounted none := by
  have hfin := call_finished d ticks w r
  have hthread : (w.call d ticks r).1.threadAccounted (w.call d ticks r).2 :=
    alone_invariant (List.ofFn ticks)
      (fun _ _ _ _ _ hP hI he => threadAccounted_step hP hI he) hs (threadAccounted_of_none rfl h)
  have hnone : (PlatformThread.execute (w.call d ticks r).2).withdrawing = none := by
    cases he : (w.call d ticks r).2 <;> first | rfl | (rw [he] at hfin; cases hfin)
  exact hnone ▸ hthread.1

theorem accounted_administered {agents : AgentService} (h : w.Accounted none)
    (hagents : agents.agents = w.agents.agents) (henf : agents.enforcement = w.agents.enforcement)
    (hdisabled : ∀ a, w.agents.isDisabled a = true → agents.isDisabled a = true) :
    { w with agents }.Accounted none := by
  intro a ha
  obtain ⟨hreg, hor⟩ := h a ha
  refine ⟨by rw [hagents]; exact hreg, ?_⟩
  rw [henf]
  exact hor.imp_right (Or.imp_right (hdisabled a))

theorem accounted_reinstate (h : w.Accounted none) (baselineAt now : Instant)
    (uuid agentId actor reason : String) :
    (w.reinstate baselineAt now uuid agentId actor reason).1.Accounted none := by
  have hcases := AgentService.reinstateAgent_cases (Prod.mk.eta.symm :
    w.agents.reinstateAgent now uuid agentId actor reason
      (some (w.captureWatermark baselineAt agentId)) = _)
  simp only [reinstate]
  split
  · rename_i agents error hr
    rw [hr] at hcases
    rcases hcases with ⟨he, -⟩ | ⟨-, -, -, agent, hok⟩
    · exact h.congr rfl he
    · cases hok
  · rename_i agents agent hr
    rw [hr] at hcases
    rcases hcases with ⟨-, e, herr⟩ | ⟨-, -, hc, -⟩
    · cases herr
    · obtain ⟨q, hq⟩ := resetToBaseline_ok w.aggregator now (w.captureWatermark baselineAt agentId)
      rw [hq]
      intro a ha
      simp only [resumeIssuance, ExecutionAuthority.closedPlanes_resumeIssuance] at ha ⊢
      split at ha
      · simp at ha
      · rename_i hne
        obtain ⟨hreg, hor⟩ := h a ha
        have hadm : agents.administrative = w.agents.administrative := hc.administrative
        rw [hc.agents]
        refine ⟨hreg, .inr ?_⟩
        simp only [AgentService.isDisabled, hadm, hc.getState, if_neg hne]
        exact hor.resolve_left (by simp)

theorem accounted_serve (s : HistoryStep) (hs : ContainsRegistered d w s) (h : w.Accounted none) :
    (w.serve d s).1.Accounted none := by
  cases s with
  | execute ticks r => exact accounted_call h hs
  | register now u c agent actor cid =>
    rcases w.agents.registerAgent_cases now u c agent actor cid with he | ⟨hnew, henf, hother⟩
    · exact h.congr rfl he
    · intro a ha
      obtain ⟨hreg, hor⟩ := h a ha
      have hne : a ≠ agent.agentId := by
        rintro rfl
        rw [hnew] at hreg
        cases hreg
      obtain ⟨hget, hadm⟩ := hother a hne
      simp only [serve, AgentService.isDisabled, hget, hadm, henf]
      exact ⟨hreg, hor⟩
  | activate now u c a actor reason cid =>
    obtain ⟨hagents, henf⟩ := w.agents.enterState_frame now u c a .active actor reason cid
    exact accounted_administered h hagents henf
      (fun k hk => AgentService.enterState_disabled now u c a .active actor reason cid hk)
  | disable now u c a actor reason cid =>
    obtain ⟨hagents, henf⟩ := w.agents.enterState_frame now u c a .disabled actor reason cid
    exact accounted_administered h hagents henf
      (fun k hk => AgentService.enterState_disabled now u c a .disabled actor reason cid hk)
  | suspend now uuid a reason trigger =>
    exact accounted_suspended h (by simp) rfl rfl
  | reinstate baselineAt now uuid a actor reason =>
    exact accounted_reinstate h baselineAt now uuid a actor reason

theorem accounted_run {steps : List HistoryStep} (h : w.Accounted none)
    (hs : Run.Meets (serve d) (ContainsRegistered d) w steps) : (w.served d steps).Accounted none :=
  Run.invariant_of_meets (fun v s hP hI => accounted_serve (w := v) s hP hI) hs h

theorem issuance_open_of_contained_registered {d : Deployment} {w : World}
    (h : w.authority.issuanceClosed = .empty) {pre post : List HistoryStep}
    (hs : Run.Meets (serve d) (ContainsRegistered d) w (pre ++ post)) :
    (w.served d pre).IssuanceOpen := by
  apply Accounted.issuanceOpen
  apply accounted_run _ (Run.meets_append.mp hs).1
  intro a ha
  simp [ExecutionAuthority.issuanceClosedPlanes, h, Dict.getD] at ha

end World

def sampleEnrolment : List HistoryStep :=
  [.register 30 "t1" "c1" { World.sampleAgent with approvedTools := ["ticket_read"] }
     systemRegistrationActor none,
   .activate 31 "t2" "c2" "agent-1" systemRegistrationActor "Agent activated" none]

def sampleStranded : List HistoryStep :=
  .execute (fun i => sampleTick i) sampleHijack :: sampleEnrolment

def sampleRecovered : List HistoryStep :=
  sampleEnrolment ++ [.execute (fun i => sampleTick (30 + i)) sampleHijack,
    .reinstate 60 61 "u" "agent-1" "operator" "reviewed"]

namespace World

theorem issuance_open_recovered :
    Run.Meets (serve sampleDeployment) (ContainsRegistered sampleDeployment) sampleStores
      sampleRecovered ∧
    (sampleStores.served sampleDeployment sampleRecovered).IssuanceOpen := by
  have hs : Run.Meets (serve sampleDeployment) (ContainsRegistered sampleDeployment) sampleStores
      (sampleRecovered ++ []) := by decide +kernel
  exact ⟨hs, issuance_open_of_contained_registered rfl hs⟩

theorem issuance_stranded_closed :
    sampleStores.EmptyStores ∧ sampleStores.authority.issuanceClosed = .empty ∧
    ¬ (sampleStores.served sampleDeployment sampleStranded).IssuanceOpen ∧
    ((sampleStores.served sampleDeployment sampleStranded).reinstate 40 41 "u" "agent-1" "operator"
      "reviewed").2 = .error (.agent (.agentNotSuspended "agent-1")) := by
  have hrun : let w := sampleStores.served sampleDeployment sampleStranded
      (w.agents.agents.get "agent-1").isSome = true ∧
      (w.agents.administrative.getState "agent-1").map (·.state) = some .active ∧
      isSuspended (w.agents.enforcement.getState "agent-1") = false ∧
      .enforcement ∈ w.authority.issuanceClosedPlanes "agent-1" ∧
      (w.reinstate 40 41 "u" "agent-1" "operator" "reviewed").2 =
        .error (.agent (.agentNotSuspended "agent-1")) := by
    decide +kernel
  obtain ⟨hreg, hactive, hopen, hclosed, hrefused⟩ := hrun
  exact ⟨⟨rfl, rfl, rfl⟩, rfl, fun h => h "agent-1" hreg hactive hopen hclosed, hrefused⟩

end World

end AgentSecurityPlatform
