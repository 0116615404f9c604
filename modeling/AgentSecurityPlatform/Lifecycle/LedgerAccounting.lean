import AgentSecurityPlatform.Lifecycle.LedgerThreads

namespace AgentSecurityPlatform

open EnforcementCommit in
theorem AgentService.nextState_fields (state : AgentEnforcementState) (now : Instant)
    (reason : String) (watermark : Option BaselineWatermark) (action : EnforcementAction) :
    (nextState state now reason watermark action).epoch = state.epoch + 1 ∧
      (nextState state now reason watermark action).agentId = state.agentId := by
  cases action <;> exact ⟨rfl, rfl⟩

namespace LedgerPool

variable {p q : LedgerPool} {l : Nat × LedgerTick} {ls : List (Nat × LedgerTick)}
  {es : List EnforcementCommit}

def committing (p : LedgerPool) (l : Nat × LedgerTick) : List EnforcementCommit :=
  match p.threads[l.1]? with
  | some (.recording req agent now state) =>
    if l.2.outage then []
    else
      match (p.shared.enforcement.recordTransition (req.transition agent now l.2.uuid)
        (req.newState state now) state.epoch).2 with
      | .ok true => [⟨req.transition agent now l.2.uuid, req.watermark, state.epoch + 1⟩]
      | _ => []
  | _ => []

def commits (ls : List (Nat × LedgerTick)) (p : LedgerPool) : List EnforcementCommit :=
  Pool.trace LedgerThread.step committing ls p

-- a step either commits the transition its thread carries, or leaves every store as it was
inductive StepCase (p : LedgerPool) (l : Nat × LedgerTick) (q : LedgerPool) : Prop where
  | silent (t t' : LedgerThread) (ht : p.threads[l.1]? = some t) (hnone : committing p l = [])
      (hshared : q.shared = p.shared) (hq : q.threads = p.threads.set l.1 t')
      (hread : ∀ req agent now state, t' = .recording req agent now state →
        t = .reading req agent ∧ state = p.shared.enforcement.currentState agent.agentId)
      (hfailed : ∀ req agent now state, t = .recording req agent now state →
        ∃ e, t' = .returned (.error e))
  | committed (req : EnforcementRequest) (agent : Agent) (now : Instant)
      (state : AgentEnforcementState) (b : EnforcementBackend)
      (ht : p.threads[l.1]? = some (.recording req agent now state))
      (hlog : committing p l =
        [⟨req.transition agent now l.2.uuid, req.watermark, state.epoch + 1⟩])
      (hrecord : p.shared.enforcement.recordTransition (req.transition agent now l.2.uuid)
        (req.newState state now) state.epoch = (b, .ok true))
      (hshared : q.shared = { p.shared with enforcement := b })
      (hq : q.threads = p.threads.set l.1 (.presenting agent (req.newState state now)))

theorem advance_quiet {tick : LedgerTick} {s s' : LifecycleStores} {t t' : LedgerThread}
    (ht : ∀ req agent now state, t ≠ .recording req agent now state)
    (h : t.advance tick s = (s', t')) : s' = s ∧
      ∀ req agent now state, t' = .recording req agent now state →
        t = .reading req agent ∧ state = s.enforcement.currentState agent.agentId := by
  cases t with
  | start req =>
    simp only [LedgerThread.advance, LedgerThread.refuse] at h
    split at h <;> (cases h; exact ⟨rfl, by simp⟩)
  | found req agent =>
    cases h
    exact ⟨rfl, by simp⟩
  | projecting req agent seen =>
    cases req with
    | suspend a reason trigger =>
      cases h
      exact ⟨rfl, by simp⟩
    | reinstate a actor reason watermark =>
      simp only [LedgerThread.advance, LedgerThread.refuse] at h
      split at h
      · cases h
        exact ⟨rfl, by simp⟩
      · split at h <;> (cases h; exact ⟨rfl, by simp⟩)
  | screening req agent =>
    cases h
    exact ⟨rfl, by simp⟩
  | checking req agent disabled =>
    cases req <;>
      simp only [LedgerThread.advance, LedgerThread.refuse] at h <;>
      split at h <;> (cases h; exact ⟨rfl, by simp⟩)
  | entering req agent =>
    simp only [LedgerThread.advance] at h
    split at h <;> (cases h; exact ⟨rfl, by simp⟩)
  | reading req agent =>
    cases h
    refine ⟨rfl, ?_⟩
    rintro req' agent' now state he
    cases he
    exact ⟨rfl, rfl⟩
  | recording req agent now state => exact absurd rfl (ht req agent now state)
  | presenting agent newState =>
    cases h
    exact ⟨rfl, by simp⟩
  | returned result =>
    cases h
    exact ⟨rfl, by simp⟩

theorem committing_of_thread {t : LedgerThread} (ht : p.threads[l.1]? = some t)
    (hne : ∀ req agent now state, t ≠ .recording req agent now state) : committing p l = [] := by
  unfold committing
  rw [ht]
  split
  · rename_i req agent now state he
    exact absurd (Option.some.inj he) (hne req agent now state)
  · rfl

theorem fire_recording {req : EnforcementRequest} {agent : Agent} {now : Instant}
    {state : AgentEnforcementState} (ht : p.threads[l.1]? = some (.recording req agent now state))
    (h : Pool.fire LedgerThread.step p l = some q) : StepCase p l q := by
  obtain ⟨t, t', ht', hm, hq⟩ := Pool.fire_eq_some h
  rw [ht] at ht'
  cases ht'
  simp only [LedgerThread.step] at hm
  have hquiet (e : LedgerError) (hnone : committing p l = []) (hshared : q.shared = p.shared)
      (he : t' = .returned (.error e)) : StepCase p l q := by
    refine .silent _ t' ht hnone hshared hq ?_ fun _ _ _ _ _ => ⟨e, he⟩
    intro req' agent' now' state' hrec
    rw [he] at hrec
    cases hrec
  split at hm
  · rename_i hout
    obtain ⟨hs, he⟩ := Prod.mk.inj (Option.some.inj hm)
    exact hquiet _ (by simp only [committing, ht, if_pos hout]) hs.symm he.symm
  · rename_i hout
    cases hrec : p.shared.enforcement.recordTransition (req.transition agent now l.2.uuid)
        (req.newState state now) state.epoch with
    | mk b reply =>
      simp only [LedgerThread.advance, hrec] at hm
      rcases reply with e | (_ | _)
      · obtain ⟨hs, he⟩ := Prod.mk.inj (Option.some.inj hm)
        rw [EnforcementBackend.recordTransition_refused hrec (by simp)] at hs
        exact hquiet _ (by simp only [committing, ht, if_neg hout, hrec]) hs.symm he.symm
      · obtain ⟨hs, he⟩ := Prod.mk.inj (Option.some.inj hm)
        rw [EnforcementBackend.recordTransition_refused hrec (by simp)] at hs
        exact hquiet _ (by simp only [committing, ht, if_neg hout, hrec]) hs.symm he.symm
      · obtain ⟨hs, he⟩ := Prod.mk.inj (Option.some.inj hm)
        refine .committed req agent now state b ht ?_ hrec hs.symm (by rw [hq, ← he])
        simp only [committing, ht, if_neg hout, hrec]

theorem fire_case (h : Pool.fire LedgerThread.step p l = some q) : StepCase p l q := by
  obtain ⟨t, t', ht, hm, hq⟩ := Pool.fire_eq_some h
  by_cases hrec : ∃ req agent now state, t = .recording req agent now state
  · obtain ⟨req, agent, now, state, rfl⟩ := hrec
    exact fire_recording ht h
  · have hne : ∀ req agent now state, t ≠ .recording req agent now state :=
      fun req agent now state he => hrec ⟨req, agent, now, state, he⟩
    have hnone := committing_of_thread ht hne
    have hfailed : ∀ req agent now state, t = .recording req agent now state →
        ∃ e, t' = .returned (.error e) := fun req agent now state he =>
      absurd he (hne req agent now state)
    simp only [LedgerThread.step] at hm
    split at hm
    · cases hm
    · split at hm
      · obtain ⟨hs, he⟩ := Prod.mk.inj (Option.some.inj hm)
        refine .silent _ t' ht hnone hs.symm hq ?_ hfailed
        intro req agent now state hstate
        rw [← he] at hstate
        cases hstate
      · obtain ⟨hs, hread⟩ := advance_quiet hne (Option.some.inj hm)
        exact .silent _ t' ht hnone hs hq hread hfailed

open EnforcementCommit

def current (p : LedgerPool) (agentId : String) : AgentEnforcementState :=
  p.shared.enforcement.currentState agentId

structure Accounted (es : List EnforcementCommit) (p : LedgerPool) : Prop where
  replayed : ∀ agentId, current p agentId = replay agentId (commitsOf agentId es)
  ledger : p.shared.enforcement.ledger = es.map (·.transition)
  epochs : ∀ agentId, (commitsOf agentId es).map (·.epoch) =
    List.range' 1 (commitsOf agentId es).length
  held : ∀ (j : Nat) req agent now state, p.threads[j]? = some (.recording req agent now state) →
    state.agentId = agent.agentId ∧
      (state.epoch < (current p agent.agentId).epoch ∨ state = current p agent.agentId)

theorem commitsOf_append (agentId : String) (es ds : List EnforcementCommit) :
    commitsOf agentId (es ++ ds) = commitsOf agentId es ++ commitsOf agentId ds :=
  List.filter_append ..

theorem commitsOf_own {agentId : String} {c : EnforcementCommit}
    (h : c.transition.agentId = agentId) : commitsOf agentId [c] = [c] := by
  simp [commitsOf, h]

theorem commitsOf_other {agentId : String} {c : EnforcementCommit}
    (h : ¬ c.transition.agentId = agentId) : commitsOf agentId [c] = [] := by
  simp [commitsOf, h]

theorem Accounted.agentId_current (h : Accounted es p) (agentId : String) :
    (current p agentId).agentId = agentId := by
  rw [h.replayed, agentId_replay]

theorem getElem?_set_cases {α : Type} {xs : List α} {i j : Nat} {x y : α}
    (h : (xs.set i x)[j]? = some y) : y = x ∨ xs[j]? = some y := by
  by_cases hij : i = j
  · subst hij
    rw [List.getElem?_set] at h
    split at h
    · split at h
      · exact .inl (Option.some.inj h).symm
      · cases h
    · exact .inr h
  · rw [List.getElem?_set_ne hij] at h
    exact .inr h

theorem Accounted.commit (h : Accounted es p) {c : EnforcementCommit} {a : String}
    (ha : c.transition.agentId = a) (hepoch : c.epoch = (current p a).epoch + 1)
    (hcurrent : ∀ k, current q k = if a = k then apply (current p a) c else current p k)
    (hledger : q.shared.enforcement.ledger = p.shared.enforcement.ledger ++ [c.transition])
    (hthreads : ∀ (j : Nat) req agent now state,
      q.threads[j]? = some (.recording req agent now state) →
        p.threads[j]? = some (.recording req agent now state)) : Accounted (es ++ [c]) q := by
  refine ⟨?_, ?_, ?_, ?_⟩
  · intro k
    rw [hcurrent, commitsOf_append]
    by_cases hk : a = k
    · subst hk
      rw [if_pos rfl, commitsOf_own ha, replay_concat, h.replayed]
    · rw [if_neg hk, commitsOf_other (by rw [ha]; exact hk), List.append_nil, h.replayed]
  · rw [hledger, h.ledger, List.map_append]
    rfl
  · intro k
    rw [commitsOf_append]
    by_cases hk : a = k
    · subst hk
      rw [h.replayed, epoch_replay] at hepoch
      rw [commitsOf_own ha, List.map_append, h.epochs, List.length_append, List.length_singleton,
        List.range'_concat, List.map_singleton, hepoch]
      simp [Nat.add_comm]
    · rw [commitsOf_other (by rw [ha]; exact hk), List.append_nil, h.epochs]
  · intro j req agent now state hj
    obtain ⟨hid, hheld⟩ := h.held j req agent now state (hthreads j req agent now state hj)
    refine ⟨hid, ?_⟩
    rw [hcurrent]
    by_cases hk : a = agent.agentId
    · -- a commit moves the epoch past whatever another thread had read
      rw [if_pos hk]
      left
      have hnext : (apply (current p a) c).epoch = (current p a).epoch + 1 :=
        (AgentService.nextState_fields _ _ _ _ _).1
      rw [← hk] at hheld
      rcases hheld with hlt | he
      · omega
      · rw [he]
        omega
    · rw [if_neg hk]
      exact hheld

theorem Accounted.committed (h : Accounted es p) {req : EnforcementRequest} {agent : Agent}
    {now : Instant} {state : AgentEnforcementState} {uuid : String} {b : EnforcementBackend}
    (ht : p.threads[l.1]? = some (.recording req agent now state))
    (hrecord : p.shared.enforcement.recordTransition (req.transition agent now uuid)
      (req.newState state now) state.epoch = (b, .ok true)) :
    EnforcementBackend.Committed p.shared.enforcement (req.transition agent now uuid)
        (req.newState state now) state.epoch b ∧ state = current p agent.agentId := by
  obtain ⟨hid, hheld⟩ := h.held l.1 req agent now state ht
  have hfields := AgentService.nextState_fields state now req.reason req.watermark req.action
  have hc := EnforcementBackend.recordTransition_committed (hfields.2.trans hid) hrecord
  refine ⟨hc, ?_⟩
  have hexpected : (current p agent.agentId).epoch = state.epoch := hc.expected
  rcases hheld with hlt | he
  · omega
  · exact he

theorem Accounted.fire (h : Accounted es p) (hf : Pool.fire LedgerThread.step p l = some q) :
    Accounted (es ++ committing p l) q := by
  cases fire_case hf with
  | silent t t' ht hnone hshared hq hread hfailed =>
    have hsame (agentId : String) : current q agentId = current p agentId := by
      rw [current, hshared]
      rfl
    rw [hnone, List.append_nil]
    refine ⟨fun a => (hsame a).trans (h.replayed a), by rw [hshared]; exact h.ledger, h.epochs, ?_⟩
    intro j req agent now state hj
    rw [hsame]
    rw [hq] at hj
    rcases getElem?_set_cases hj with he | hj
    · obtain ⟨-, rfl⟩ := hread req agent now state he.symm
      exact ⟨h.agentId_current agent.agentId, .inr rfl⟩
    · exact h.held j req agent now state hj
  | committed req agent now state b ht hlog hrecord hshared hq =>
    obtain ⟨hc, hstate⟩ := h.committed ht hrecord
    rw [hlog]
    refine h.commit (a := agent.agentId) rfl (by rw [← hstate]) ?_
      (by rw [hshared]; exact hc.ledger) ?_
    · intro k
      rw [current, hshared, ← hstate]
      exact hc.currentState k
    · intro j req' agent' now' state' hj
      rw [hq] at hj
      rcases getElem?_set_cases hj with he | hj
      · cases he
      · exact hj

theorem accounted_start {agents : AgentRepository} {administrative : AdministrativeStateRepository}
    {b : EnforcementBackend} (hb : b.Pristine) (reqs : List EnforcementRequest) :
    Accounted [] ⟨⟨agents, administrative, b⟩, reqs.map .start⟩ := by
  refine ⟨?_, hb.2, fun _ => rfl, ?_⟩
  · intro agentId
    simp only [current, EnforcementBackend.currentState, hb.1 agentId]
    rfl
  · intro j req agent now state hj
    rw [List.getElem?_map] at hj
    obtain ⟨r, -, hr⟩ := Option.map_eq_some_iff.mp hj
    cases hr

theorem run_accounted {agents : AgentRepository} {administrative : AdministrativeStateRepository}
    {b : EnforcementBackend} (hb : b.Pristine) {reqs : List EnforcementRequest}
    (h : Pool.run LedgerThread.step ls ⟨⟨agents, administrative, b⟩, reqs.map .start⟩ = some q) :
    Accounted (commits ls ⟨⟨agents, administrative, b⟩, reqs.map .start⟩) q :=
  Pool.run_trace_invariant committing Accounted (fun _ _ _ _ h hf => h.fire hf) []
    (accounted_start hb reqs) h

theorem fire_planes (h : Pool.fire LedgerThread.step p l = some q) :
    q.shared.agents = p.shared.agents ∧ q.shared.administrative = p.shared.administrative := by
  cases fire_case h with
  | silent t t' ht hnone hshared hq hread hfailed =>
    rw [hshared]
    exact ⟨rfl, rfl⟩
  | committed req agent now state b ht hlog hrecord hshared hq =>
    rw [hshared]
    exact ⟨rfl, rfl⟩

theorem run_planes (h : Pool.run LedgerThread.step ls p = some q) :
    q.shared.agents = p.shared.agents ∧ q.shared.administrative = p.shared.administrative := by
  refine Pool.run_invariant (fun r : LedgerPool => r.shared.agents = p.shared.agents ∧
    r.shared.administrative = p.shared.administrative) ?_ ⟨rfl, rfl⟩ h
  rintro p₁ l p₂ ⟨h₁, h₂⟩ hf
  obtain ⟨ha, hd⟩ := fire_planes hf
  exact ⟨ha.trans h₁, hd.trans h₂⟩

theorem run_ledger (hp : Accounted es p) (h : Pool.run LedgerThread.step ls p = some q) :
    p.shared.enforcement.ledger <+: q.shared.enforcement.ledger := by
  have hq := Pool.run_trace_invariant committing Accounted (fun _ _ _ _ h hf => h.fire hf) es hp h
  rw [hp.ledger, hq.ledger, List.map_append]
  exact List.prefix_append _ _

structure AgentAccount (agentId : String) (mine : List EnforcementCommit)
    (state : AgentEnforcementState) : Prop where
  epoch : state.epoch = mine.length
  recoveryGeneration : state.recoveryGeneration = (mine.filter isReinstate).length
  suspendedAt : state.suspendedAt =
    (mine.getLast?.filter (fun c => c.transition.action = .suspend)).map
      (fun c => c.transition.occurredAt)
  baseline : AgentService.watermarkOf agentId state =
    EnforcementCommit.baseline agentId (mine.filter isReinstate).getLast?
  inOrder : mine.map (·.epoch) = List.range' 1 mine.length

theorem Accounted.account (h : Accounted es p) (agentId : String) :
    AgentAccount agentId (commitsOf agentId es) (current p agentId) := by
  rw [h.replayed]
  exact ⟨epoch_replay _ _, recoveryGeneration_replay _ _, suspendedAt_replay _ _,
    baseline_replay _ _, h.epochs agentId⟩

theorem enforcement_ledger_accounting (agents : AgentRepository)
    (administrative : AdministrativeStateRepository) (b : EnforcementBackend) (hb : b.Pristine)
    (reqs : List EnforcementRequest) (ls : List (Nat × LedgerTick)) (q : LedgerPool)
    (h : Pool.run LedgerThread.step ls ⟨⟨agents, administrative, b⟩, reqs.map .start⟩ = some q) :
    (∀ agentId, AgentAccount agentId
        (commitsOf agentId (commits ls ⟨⟨agents, administrative, b⟩, reqs.map .start⟩))
        (current q agentId)) ∧
      q.shared.enforcement.ledger =
        (commits ls ⟨⟨agents, administrative, b⟩, reqs.map .start⟩).map (·.transition) ∧
      q.shared.administrative = administrative ∧
      ∀ ls₁ l ls₂, ls = ls₁ ++ l :: ls₂ → ∃ p₁ p₂ : LedgerPool,
        Pool.run LedgerThread.step ls₁ ⟨⟨agents, administrative, b⟩, reqs.map .start⟩ = some p₁ ∧
          Pool.fire LedgerThread.step p₁ l = some p₂ ∧
          p₁.shared.enforcement.ledger <+: q.shared.enforcement.ledger ∧
          (committing p₁ l = [] → p₂.shared = p₁.shared) ∧
          ∀ req agent now state, p₁.threads[l.1]? = some (.recording req agent now state) →
            committing p₁ l = [] → ∃ e, p₂.threads[l.1]? = some (.returned (.error e)) := by
  have hq := run_accounted hb h
  refine ⟨hq.account, hq.ledger, (run_planes h).2, ?_⟩
  rintro ls₁ l ls₂ rfl
  obtain ⟨p₁, h₁, hrest⟩ := Pool.run_append h
  obtain ⟨p₂, hf, -⟩ := Pool.run_cons hrest
  refine ⟨p₁, p₂, h₁, hf, run_ledger (run_accounted hb h₁) hrest, ?_, ?_⟩
  · intro hnone
    cases fire_case hf with
    | silent t t' ht hnone' hshared hq' hread hfailed => exact hshared
    | committed req agent now state b ht hlog hrecord hshared hq' =>
      rw [hlog] at hnone
      cases hnone
  · intro req agent now state hthread hnone
    cases fire_case hf with
    | silent t t' ht hnone' hshared hq' hread hfailed =>
      rw [hthread] at ht
      obtain ⟨e, he⟩ := hfailed req agent now state (Option.some.inj ht).symm
      refine ⟨e, ?_⟩
      rw [hq', List.getElem?_set_self (List.getElem?_eq_some_iff.mp hthread).1, he]
    | committed req agent now state b ht hlog hrecord hshared hq' =>
      rw [hlog] at hnone
      cases hnone

def sampleAgents : AgentRepository :=
  AgentRepository.empty.save ⟨"agent-1", "Agent", "owner", .low, ["file_reader"], .registered⟩

def sampleSql : EnforcementBackend := .sql ⟨["agent-1"], .empty, []⟩

theorem pristine_sampleSql : sampleSql.Pristine := ⟨fun _ => rfl, rfl⟩

def sampleSuspension : EnforcementRequest := .suspend "agent-1" "critical risk" none

def sampleReinstatement : EnforcementRequest := .reinstate "agent-1" "operator" "reviewed" none

def turns (start i n : Nat) : List (Nat × LedgerTick) :=
  (List.range' start n).map (fun k => (i, { now := k, uuid := toString k }))

theorem enforcement_ledger_accounting_sample : ∃ q : LedgerPool,
    Pool.run LedgerThread.step (turns 0 0 9 ++ turns 9 1 8) ⟨⟨sampleAgents, .empty, sampleSql⟩,
        [sampleSuspension, sampleReinstatement].map .start⟩ = some q ∧
      AgentAccount "agent-1" (commitsOf "agent-1" (commits (turns 0 0 9 ++ turns 9 1 8)
        ⟨⟨sampleAgents, .empty, sampleSql⟩, [sampleSuspension, sampleReinstatement].map .start⟩))
        (current q "agent-1") := by
  have hsome : (Pool.run LedgerThread.step (turns 0 0 9 ++ turns 9 1 8)
      ⟨⟨sampleAgents, .empty, sampleSql⟩,
        [sampleSuspension, sampleReinstatement].map .start⟩).isSome = true := by decide +kernel
  obtain ⟨q, hq⟩ := Option.isSome_iff_exists.mp hsome
  exact ⟨q, hq, (enforcement_ledger_accounting sampleAgents .empty sampleSql pristine_sampleSql
    [sampleSuspension, sampleReinstatement] _ q hq).1 "agent-1"⟩

end LedgerPool

end AgentSecurityPlatform
