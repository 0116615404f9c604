import AgentSecurityPlatform.Lifecycle.LedgerAccounting

namespace AgentSecurityPlatform

namespace LedgerPool

open EnforcementCommit

variable {p q : LedgerPool} {l : Nat × LedgerTick} {es : List EnforcementCommit}

def turn (n : Nat) : EnforcementAction := if n % 2 = 0 then .suspend else .reinstate

def Alternating (cs : List EnforcementCommit) : Prop :=
  cs.map (·.transition.action) = (List.range cs.length).map turn

instance (cs : List EnforcementCommit) : Decidable (Alternating cs) :=
  inferInstanceAs (Decidable (_ = _))

theorem Alternating.concat {cs : List EnforcementCommit} {c : EnforcementCommit}
    (h : Alternating cs) (hc : c.transition.action = turn cs.length) : Alternating (cs ++ [c]) := by
  simp only [Alternating, List.map_append, List.length_append, List.length_singleton,
    List.range_succ, List.map_singleton, hc]
  rw [h]

theorem Alternating.last_suspends {cs : List EnforcementCommit} (h : Alternating cs) :
    (cs.getLast?.filter (fun c => c.transition.action = .suspend)).isSome =
      (cs.length % 2 = 1 : Bool) := by
  cases cs using List.reverseRecOn with
  | nil => rfl
  | append_singleton cs c =>
    have hc : c.transition.action = turn cs.length := by
      simp only [Alternating, List.map_append, List.length_append, List.length_singleton,
        List.range_succ] at h
      exact List.singleton_inj.mp (List.append_inj h (by simp)).2
    rw [List.getLast?_concat, List.length_append, List.length_singleton]
    by_cases heven : cs.length % 2 = 0
    · have hodd : (cs.length + 1) % 2 = 1 := by omega
      simp [Option.filter, hc, turn, heven, hodd]
    · have hodd : (cs.length + 1) % 2 ≠ 1 := by omega
      simp [Option.filter, hc, turn, heven, hodd]

theorem Alternating.reinstates {cs : List EnforcementCommit} (h : Alternating cs) :
    (cs.filter isReinstate).length = cs.length / 2 := by
  induction cs using List.reverseRecOn with
  | nil => rfl
  | append_singleton cs c ih =>
    simp only [Alternating, List.map_append, List.length_append, List.length_singleton,
      List.range_succ] at h
    obtain ⟨hcs, hc⟩ := List.append_inj h (by simp)
    have hc := List.singleton_inj.mp hc
    rw [List.filter_append, List.length_append, ih hcs, List.length_append, List.length_singleton]
    by_cases heven : cs.length % 2 = 0
    · simp [isReinstate, hc, turn, heven]
      omega
    · simp [isReinstate, hc, turn, heven]
      omega

theorem action_of_parity {n : Nat} {action : EnforcementAction}
    (h : (n % 2 = 1 : Bool) = decide (action = .reinstate)) : action = turn n := by
  cases action with
  | suspend =>
    have heven : n % 2 = 0 := by
      simp only [reduceCtorEq, decide_false, decide_eq_false_iff_not] at h
      omega
    simp [turn, heven]
  | reinstate =>
    have hodd : n % 2 = 1 := by simpa using h
    simp [turn, hodd]

-- the read _transition compares against still shows the suspension the call's own check had seen
def undisturbed (p : LedgerPool) (l : Nat × LedgerTick) : Bool :=
  match p.threads[l.1]? with
  | some (.reading req agent) =>
    isSuspended (p.shared.enforcement.getState agent.agentId) = decide (req.action = .reinstate)
  | _ => true

theorem isSuspended_current (p : LedgerPool) (agentId : String) :
    isSuspended (p.shared.enforcement.getState agentId) =
      (current p agentId).suspendedAt.isSome := by
  rw [current, EnforcementBackend.currentState]
  cases p.shared.enforcement.getState agentId <;> rfl

structure InTurn (es : List EnforcementCommit) (p : LedgerPool) : Prop where
  accounted : Accounted es p
  alternating : ∀ agentId, Alternating (commitsOf agentId es)
  checked : ∀ (j : Nat) req agent now state, p.threads[j]? = some (.recording req agent now state) →
    state.suspendedAt.isSome = decide (req.action = .reinstate)

theorem InTurn.fire (h : InTurn es p) (hu : undisturbed p l = true)
    (hf : Pool.fire LedgerThread.step p l = some q) : InTurn (es ++ committing p l) q := by
  refine ⟨h.accounted.fire hf, ?_, ?_⟩
  · intro a
    cases fire_case hf with
    | silent t t' ht hnone hshared hq hread hfailed =>
      rw [hnone, List.append_nil]
      exact h.alternating a
    | committed req agent now state b ht hlog hrecord hshared hq =>
      rw [hlog, commitsOf_append]
      by_cases ha : agent.agentId = a
      · subst ha
        rw [commitsOf_own (show (req.transition agent now l.2.uuid).agentId =
          agent.agentId from rfl)]
        refine (h.alternating agent.agentId).concat ?_
        have hstate := (h.accounted.committed ht hrecord).2
        have hchecked := h.checked l.1 req agent now state ht
        rw [hstate, (h.accounted.account agent.agentId).suspendedAt, Option.isSome_map,
          (h.alternating agent.agentId).last_suspends] at hchecked
        exact action_of_parity hchecked
      · rw [commitsOf_other ha, List.append_nil]
        exact h.alternating a
  · intro j req agent now state hj
    cases fire_case hf with
    | silent t t' ht hnone hshared hq hread hfailed =>
      rw [hq] at hj
      rcases getElem?_set_cases hj with he | hj
      · obtain ⟨rfl, rfl⟩ := hread req agent now state he.symm
        simp only [undisturbed, ht, decide_eq_true_eq] at hu
        rw [← hu, isSuspended_current]
        rfl
      · exact h.checked j req agent now state hj
    | committed req' agent' now' state' b ht hlog hrecord hshared hq =>
      rw [hq] at hj
      rcases getElem?_set_cases hj with he | hj
      · cases he
      · exact h.checked j req agent now state hj

theorem enforcement_transitions_alternate (agents : AgentRepository)
    (administrative : AdministrativeStateRepository) (b : EnforcementBackend) (hb : b.Pristine)
    (reqs : List EnforcementRequest) (ls : List (Nat × LedgerTick)) (q : LedgerPool)
    (hu : Pool.AllSteps LedgerThread.step (fun p l => undisturbed p l = true) ls
      ⟨⟨agents, administrative, b⟩, reqs.map .start⟩)
    (h : Pool.run LedgerThread.step ls ⟨⟨agents, administrative, b⟩, reqs.map .start⟩ = some q)
    (agentId : String) :
    Alternating (commitsOf agentId (commits ls ⟨⟨agents, administrative, b⟩, reqs.map .start⟩)) ∧
      (current q agentId).recoveryGeneration =
        (commitsOf agentId
          (commits ls ⟨⟨agents, administrative, b⟩, reqs.map .start⟩)).length / 2 := by
  have hstart : InTurn [] ⟨⟨agents, administrative, b⟩, reqs.map .start⟩ := by
    refine ⟨accounted_start hb reqs, fun _ => rfl, ?_⟩
    intro j req agent now state hj
    rw [List.getElem?_map] at hj
    obtain ⟨r, -, hr⟩ := Option.map_eq_some_iff.mp hj
    cases hr
  have hq := Pool.run_trace_invariant_of_steps committing (fun p l => undisturbed p l = true) InTurn
    (fun _ _ _ _ hu h hf => h.fire hu hf) hu [] hstart h
  refine ⟨hq.alternating agentId, ?_⟩
  rw [(hq.accounted.account agentId).recoveryGeneration]
  exact (hq.alternating agentId).reinstates

theorem enforcement_transitions_alternate_sample : ∃ q : LedgerPool,
    Pool.run LedgerThread.step (turns 0 0 9 ++ turns 9 1 8) ⟨⟨sampleAgents, .empty, sampleSql⟩,
        [sampleSuspension, sampleReinstatement].map .start⟩ = some q ∧
      Alternating (commitsOf "agent-1" (commits (turns 0 0 9 ++ turns 9 1 8)
        ⟨⟨sampleAgents, .empty, sampleSql⟩,
          [sampleSuspension, sampleReinstatement].map .start⟩)) := by
  have hsome : (Pool.run LedgerThread.step (turns 0 0 9 ++ turns 9 1 8)
      ⟨⟨sampleAgents, .empty, sampleSql⟩,
        [sampleSuspension, sampleReinstatement].map .start⟩).isSome = true := by decide +kernel
  obtain ⟨q, hq⟩ := Option.isSome_iff_exists.mp hsome
  exact ⟨q, hq, (enforcement_transitions_alternate sampleAgents .empty sampleSql pristine_sampleSql
    [sampleSuspension, sampleReinstatement] _ q (by decide +kernel) hq "agent-1").1⟩

-- two instances suspend one agent: the second reads its compare-and-set state
-- after the first commit
def sampleOvertaking : List (Nat × LedgerTick) := turns 0 0 6 ++ turns 6 1 8 ++ turns 14 0 3

theorem suspension_recorded_twice : ¬ ∀ (agents : AgentRepository)
    (administrative : AdministrativeStateRepository) (b : EnforcementBackend)
    (reqs : List EnforcementRequest) (ls : List (Nat × LedgerTick)) (q : LedgerPool)
    (agentId : String), b.Pristine →
    Pool.run LedgerThread.step ls ⟨⟨agents, administrative, b⟩, reqs.map .start⟩ = some q →
    Alternating
      (commitsOf agentId (commits ls ⟨⟨agents, administrative, b⟩, reqs.map .start⟩)) := by
  intro hall
  have hsome : (Pool.run LedgerThread.step sampleOvertaking
      ⟨⟨sampleAgents, .empty, .inMemory .empty⟩,
        [sampleSuspension, sampleSuspension].map .start⟩).isSome = true := by decide +kernel
  obtain ⟨q, hq⟩ := Option.isSome_iff_exists.mp hsome
  have halternating := hall sampleAgents .empty (.inMemory .empty)
    [sampleSuspension, sampleSuspension] sampleOvertaking q "agent-1" ⟨fun _ => rfl, rfl⟩ hq
  exact absurd halternating (by decide +kernel)

end LedgerPool

end AgentSecurityPlatform
