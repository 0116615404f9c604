import AgentSecurityPlatform.Library.Refinement
import AgentSecurityPlatform.Lifecycle.Ledger
import AgentSecurityPlatform.Persistence.Columns

namespace AgentSecurityPlatform

structure TriggerColumns where
  triggerSessionId : Option String
  triggerRiskLevel : Option String
  triggerRiskScore : Option Int
  triggerFindingIds : Option (List String)
  deriving DecidableEq, Repr

structure TransitionColumns extends TriggerColumns where
  transitionId : String
  agentId : String
  epoch : Nat
  action : String
  actor : String
  reason : String
  previousStatus : String
  newStatus : String
  occurredAt : Instant
  deriving DecidableEq, Repr

namespace TriggerColumns

def ofTrigger : Option EnforcementTrigger → TriggerColumns
  | none => ⟨none, none, none, none⟩
  | some trigger =>
    { triggerSessionId := trigger.sessionId
      triggerRiskLevel := trigger.riskLevel.map (·.value)
      triggerRiskScore := trigger.riskScore
      triggerFindingIds := if trigger.findingIds ≠ [] then some trigger.findingIds else none }

def isSet (c : TriggerColumns) : Bool :=
  c.triggerSessionId.any (· ≠ "") || c.triggerRiskLevel.any (· ≠ "") ||
    c.triggerRiskScore.any (· ≠ 0) || c.triggerFindingIds.any (· ≠ [])

def riskLevel (c : TriggerColumns) : Except RepositoryError (Option RiskLevel) :=
  match c.triggerRiskLevel.filter (· ≠ "") with
  | none => .ok none
  | some v =>
    match RiskLevel.ofValue v with
    | some level => .ok (some level)
    | none => .error .enforcementStateUnavailable

def toDomain (c : TriggerColumns) : Except RepositoryError (Option EnforcementTrigger) :=
  if c.isSet then
    match c.riskLevel with
    | .error e => .error e
    | .ok level =>
      .ok (some ⟨c.triggerSessionId, level, c.triggerRiskScore, c.triggerFindingIds.getD []⟩)
  else .ok none

end TriggerColumns

namespace TransitionColumns

def toDomain (c : TransitionColumns) : Except RepositoryError EnforcementTransition :=
  match EnforcementAction.ofValue c.action, AgentStatus.ofValue c.previousStatus,
    AgentStatus.ofValue c.newStatus, c.toTriggerColumns.toDomain with
  | some action, some previousStatus, some newStatus, .ok trigger =>
    .ok
      { transitionId := c.transitionId
        agentId := c.agentId
        action
        actor := c.actor
        reason := c.reason
        previousStatus
        newStatus
        trigger
        occurredAt := c.occurredAt }
  | _, _, _, _ => .error .enforcementStateUnavailable

end TransitionColumns

def TransitionRow.columns (row : TransitionRow) : TransitionColumns :=
  { TriggerColumns.ofTrigger row.trigger with
    transitionId := row.transitionId
    agentId := row.agentId
    epoch := row.epoch
    action := row.action.value
    actor := row.actor
    reason := row.reason
    previousStatus := row.previousStatus.value
    newStatus := row.newStatus.value
    occurredAt := row.occurredAt }

namespace SqlEnforcementStateRepository

def listTransitions (r : SqlEnforcementStateRepository) (agentId : Option String) :
    Except RepositoryError (List EnforcementTransition) :=
  ((r.transitionRows.filter (fun row => agentId.all (· = row.columns.agentId))).insertionSort
    (fun t u => t.columns.occurredAt < u.columns.occurredAt ∨
      (t.columns.occurredAt = u.columns.occurredAt ∧
        t.columns.transitionId ≤ u.columns.transitionId))).mapM (fun row => row.columns.toDomain)

def getEpoch (r : SqlEnforcementStateRepository) (agentId : String) (asOf : Instant) : Nat :=
  (r.transitionRows.filter (fun row => row.columns.agentId = agentId &&
    row.columns.action = EnforcementAction.value .reinstate &&
      row.columns.occurredAt ≤ asOf)).length

end SqlEnforcementStateRepository

inductive EnforcementCall where
  | getState (agentId : String)
  | recordTransition (t : EnforcementTransition) (newState : AgentEnforcementState)
      (expectedEpoch : Nat)
  | listTransitions (agentId : Option String)
  | getEpoch (agentId : String) (asOf : Instant)
  deriving DecidableEq, Repr

def EnforcementCall.isRead : EnforcementCall → Bool
  | .recordTransition _ _ _ => false
  | _ => true

inductive EnforcementReply where
  | state (s : Option AgentEnforcementState)
  | recorded (r : Except RepositoryError Bool)
  | transitions (r : Except RepositoryError (List EnforcementTransition))
  | epoch (n : Nat)

def EnforcementStateRepository.answer (r : EnforcementStateRepository) :
    EnforcementCall → EnforcementStateRepository × EnforcementReply
  | .getState agentId => (r, .state (r.getState agentId))
  | .recordTransition t newState expectedEpoch =>
    let (r', reply) := r.recordTransition t newState expectedEpoch
    (r', .recorded reply)
  | .listTransitions agentId => (r, .transitions (.ok (r.listTransitions agentId)))
  | .getEpoch agentId asOf => (r, .epoch (r.getEpoch agentId asOf))

def SqlEnforcementStateRepository.answer (r : SqlEnforcementStateRepository) :
    EnforcementCall → SqlEnforcementStateRepository × EnforcementReply
  | .getState agentId => (r, .state (r.getState agentId))
  | .recordTransition t newState expectedEpoch =>
    let (r', reply) := r.recordTransition t newState expectedEpoch
    (r', .recorded reply)
  | .listTransitions agentId => (r, .transitions (r.listTransitions agentId))
  | .getEpoch agentId asOf => (r, .epoch (r.getEpoch agentId asOf))

-- the fields the reader tests for truth, as one condition on the trigger that was committed
def EnforcementTrigger.legible (trigger : EnforcementTrigger) : Bool :=
  trigger.sessionId.any (· ≠ "") || trigger.riskLevel.isSome || trigger.riskScore.any (· ≠ 0) ||
    trigger.findingIds ≠ []

def EnforcementTransition.Legible (t : EnforcementTransition) : Prop :=
  t.trigger.all (·.legible) = true

def EnforcementTransition.readBack (t : EnforcementTransition) : EnforcementTransition :=
  { t with trigger := t.trigger.filter (·.legible) }

theorem EnforcementTransition.readBack_eq_iff (t : EnforcementTransition) :
    t.readBack = t ↔ t.Legible := by
  constructor
  · intro h
    have hfilter : t.trigger.filter (·.legible) = t.trigger :=
      congrArg EnforcementTransition.trigger h
    cases ht : t.trigger with
    | none => simp [Legible, ht]
    | some trigger =>
      rw [ht] at hfilter
      simpa [Legible, ht] using (Option.filter_eq_some_iff.mp hfilter).2
  · intro h
    have hfilter : t.trigger.filter (·.legible) = t.trigger := by
      cases ht : t.trigger with
      | none => rfl
      | some trigger =>
        have hlegible : trigger.legible = true := by simpa [Legible, ht] using h
        rw [Option.filter_some, if_pos hlegible]
    rw [readBack, hfilter]

theorem TriggerColumns.isSet_ofTrigger (trigger : EnforcementTrigger) :
    (ofTrigger (some trigger)).isSet = trigger.legible := by
  cases hl : trigger.riskLevel with
  | none =>
    cases hf : trigger.findingIds <;> simp [isSet, ofTrigger, EnforcementTrigger.legible, hl, hf]
  | some level =>
    have hne := level.value_ne
    simp [isSet, ofTrigger, EnforcementTrigger.legible, hl, hne]

theorem TriggerColumns.toDomain_ofTrigger (trigger : Option EnforcementTrigger) :
    (ofTrigger trigger).toDomain = .ok (trigger.filter (·.legible)) := by
  cases trigger with
  | none => rfl
  | some trigger =>
    have hlevel : (ofTrigger (some trigger)).riskLevel = .ok trigger.riskLevel := by
      cases hl : trigger.riskLevel with
      | none => simp [riskLevel, ofTrigger, hl]
      | some level =>
        have hset : (some level.value).filter (· ≠ "") = some level.value := by
          rw [Option.filter_some, if_pos (by simp [level.value_ne])]
        simp only [riskLevel, ofTrigger, hl, Option.map_some, hset, RiskLevel.ofValue_value]
    have hfindings : (ofTrigger (some trigger)).triggerFindingIds.getD [] = trigger.findingIds := by
      cases hf : trigger.findingIds <;> simp [ofTrigger, hf]
    simp only [toDomain, isSet_ofTrigger, hlevel, hfindings, Option.filter_some]
    split <;> rfl

theorem TransitionRow.toDomain_columns (row : TransitionRow) :
    row.columns.toDomain = .ok row.toEnforcementTransition.readBack := by
  simp only [TransitionColumns.toDomain, columns, EnforcementAction.ofValue_value,
    AgentStatus.ofValue_value, TriggerColumns.toDomain_ofTrigger]
  rfl

namespace EnforcementStateRepository

variable {m : EnforcementStateRepository} {q : SqlEnforcementStateRepository} {rows : List String}

-- what the two adapters share at every point of a run
structure Mirrors (rows : List String) (m : EnforcementStateRepository)
    (q : SqlEnforcementStateRepository) : Prop where
  agents : q.agentRows = rows
  states : ∀ agentId, q.stateRows.get? agentId = m.states.get? agentId
  ledger : q.transitionRows.map (·.toEnforcementTransition) = m.transitions

theorem mirrors_empty (rows : List String) : Mirrors rows empty ⟨rows, .empty, []⟩ :=
  ⟨rfl, fun _ => rfl, rfl⟩

theorem currentEpoch_eq_getD (m : EnforcementStateRepository) (agentId : String) :
    m.currentEpoch agentId = ((m.states.get? agentId).map (·.epoch)).getD 0 := by
  cases h : m.states.get? agentId with
  | none => simp [currentEpoch, h, Dict.getD, m.epochs_absent agentId h]
  | some s => simp [currentEpoch, h]

theorem currentGeneration_eq_getD (m : EnforcementStateRepository) (agentId : String) :
    m.currentGeneration agentId = ((m.states.get? agentId).map (·.recoveryGeneration)).getD 0 := by
  cases h : m.states.get? agentId <;> simp [currentGeneration, h]

structure Proper (rows : List String) (m : EnforcementStateRepository) (t : EnforcementTransition)
    (n : AgentEnforcementState) : Prop where
  known : t.agentId ∈ rows
  named : n.agentId = t.agentId
  fresh : ∀ u ∈ m.transitions, u.transitionId ≠ t.transitionId

theorem Mirrors.recordTransition (h : Mirrors rows m q) {t : EnforcementTransition}
    {n : AgentEnforcementState} (hp : Proper rows m t n) (e : Nat) :
    (q.recordTransition t n e).2 = (m.recordTransition t n e).2 ∧
      Mirrors rows (m.recordTransition t n e).1 (q.recordTransition t n e).1 := by
  have hknown : ¬ t.agentId ∉ q.agentRows := by
    rw [h.agents, not_not]
    exact hp.known
  have hfresh : ¬ q.transitionRows.any (·.transitionId = t.transitionId) = true := by
    rw [List.any_eq_true]
    rintro ⟨row, hrow, hid⟩
    refine hp.fresh row.toEnforcementTransition ?_ (of_decide_eq_true hid)
    rw [← h.ledger]
    exact List.mem_map_of_mem hrow
  have hnamed : { n with agentId := t.agentId } = n := by rw [← hp.named]
  simp only [SqlEnforcementStateRepository.recordTransition, if_neg hknown, h.states,
    ← currentEpoch_eq_getD, ← currentGeneration_eq_getD,
    EnforcementStateRepository.recordTransition, if_neg hfresh, hnamed]
  split_ifs
  · exact ⟨rfl, h⟩
  · exact ⟨rfl, h⟩
  · refine ⟨rfl, h.agents, ?_, ?_⟩
    · intro k
      simp only [Dict.get?_set, h.states]
    · simp [← h.ledger]

theorem Mirrors.getEpoch (h : Mirrors rows m q) (agentId : String) (asOf : Instant) :
    q.getEpoch agentId asOf = m.getEpoch agentId asOf := by
  simp only [SqlEnforcementStateRepository.getEpoch,
    EnforcementStateRepository.getEpoch, ← h.ledger, List.filter_map, List.length_map]
  congr 2
  funext row
  have haction : decide (row.columns.action = EnforcementAction.value .reinstate) =
      decide (row.action = .reinstate) := decide_eq_decide.mpr EnforcementAction.value_inj
  rw [haction]
  rfl

-- the rows come back as they went in, but for the triggers the reader takes for absent
theorem Mirrors.listTransitions (h : Mirrors rows m q) (agentId : Option String) :
    q.listTransitions agentId = .ok ((m.listTransitions agentId).map (·.readBack)) := by
  have hread : (fun row : TransitionRow => row.columns.toDomain) =
      fun row => pure row.toEnforcementTransition.readBack := by
    funext row
    exact row.toDomain_columns
  simp only [SqlEnforcementStateRepository.listTransitions, hread, List.mapM_pure,
    EnforcementStateRepository.listTransitions]
  congr 1
  have hsort := List.map_insertionSort
    (fun t u : TransitionRow => t.columns.occurredAt < u.columns.occurredAt ∨
      (t.columns.occurredAt = u.columns.occurredAt ∧
        t.columns.transitionId ≤ u.columns.transitionId))
    (fun t u : EnforcementTransition => t.occurredAt < u.occurredAt ∨
      (t.occurredAt = u.occurredAt ∧ t.transitionId ≤ u.transitionId))
    TransitionRow.toEnforcementTransition
    (q.transitionRows.filter (fun row => agentId.all (· = row.columns.agentId)))
    (fun _ _ _ _ => Iff.rfl)
  rw [← h.ledger, List.filter_map]
  calc _ = ((List.insertionSort _ _).map TransitionRow.toEnforcementTransition).map
        EnforcementTransition.readBack := (List.map_map ..).symm
    _ = _ := congrArg (List.map EnforcementTransition.readBack) hsort

def LegibleLedger (m : EnforcementStateRepository) : Prop := ∀ t ∈ m.transitions, t.Legible

theorem mem_listTransitions {t : EnforcementTransition} :
    t ∈ m.listTransitions none ↔ t ∈ m.transitions := by
  simp [EnforcementStateRepository.listTransitions]

theorem legibleLedger_iff : m.LegibleLedger ↔
    ∀ agentId, (m.listTransitions agentId).map (·.readBack) = m.listTransitions agentId := by
  constructor
  · intro h agentId
    rw [List.map_congr_left, List.map_id]
    intro t ht
    rw [EnforcementStateRepository.listTransitions, List.mem_insertionSort] at ht
    exact (EnforcementTransition.readBack_eq_iff t).mpr (h t (List.mem_of_mem_filter ht))
  · intro h t ht
    rw [← EnforcementTransition.readBack_eq_iff]
    have hmap := List.map_eq_map_iff.mp ((h none).trans (List.map_id _).symm)
    exact hmap t (mem_listTransitions.mpr ht)

structure Accepts (m : EnforcementStateRepository) (t : EnforcementTransition)
    (n : AgentEnforcementState) (e : Nat) : Prop where
  expected : m.currentEpoch t.agentId = e
  advances : n.epoch = e + 1
  generation : n.recoveryGeneration = m.currentGeneration t.agentId ∨
    n.recoveryGeneration = m.currentGeneration t.agentId + 1

theorem mem_recordTransition {t u : EnforcementTransition} {n : AgentEnforcementState} {e : Nat} :
    u ∈ (m.recordTransition t n e).1.transitions ↔
      u ∈ m.transitions ∨ (m.Accepts t n e ∧ u = t) := by
  by_cases ha : m.Accepts t n e
  · have hcas : ¬ (m.currentEpoch t.agentId ≠ e ∨ n.epoch ≠ e + 1) := by
      rw [not_or, not_not, not_not]
      exact ⟨ha.expected, ha.advances⟩
    have hgen : ¬ (n.recoveryGeneration ≠ m.currentGeneration t.agentId ∧
        n.recoveryGeneration ≠ m.currentGeneration t.agentId + 1) := by
      have := ha.generation
      tauto
    simp [EnforcementStateRepository.recordTransition, if_neg hcas, if_neg hgen, ha]
  · have hsame : (m.recordTransition t n e).1 = m := by
      simp only [EnforcementStateRepository.recordTransition]
      split_ifs with hcas hgen
      · rfl
      · rfl
      · rw [not_or, not_not, not_not] at hcas
        exact absurd ⟨hcas.1, hcas.2, by tauto⟩ ha
    rw [hsame]
    simp [ha]

end EnforcementStateRepository

namespace EnforcementCall

variable {rows : List String} {m : EnforcementStateRepository} {q : SqlEnforcementStateRepository}
  {calls : List EnforcementCall}

def Proper (rows : List String) (m : EnforcementStateRepository) : EnforcementCall → Prop
  | .recordTransition t newState _ => m.Proper rows t newState
  | _ => True

def Legible (m : EnforcementStateRepository) : EnforcementCall → Prop
  | .recordTransition t newState expectedEpoch => m.Accepts t newState expectedEpoch → t.Legible
  | _ => True

theorem answer_mirrors (h : m.Mirrors rows q) {c : EnforcementCall} (hc : c.Proper rows m) :
    (m.answer c).1.Mirrors rows (q.answer c).1 := by
  cases c with
  | recordTransition t n e => exact (h.recordTransition hc e).2
  | _ => exact h

theorem answer_reply (h : m.Mirrors rows q) (hl : m.LegibleLedger) {c : EnforcementCall}
    (hc : c.Proper rows m) : (m.answer c).2 = (q.answer c).2 := by
  cases c with
  | getState agentId => exact congrArg EnforcementReply.state (h.states agentId).symm
  | recordTransition t n e =>
    exact congrArg EnforcementReply.recorded (h.recordTransition hc e).1.symm
  | listTransitions agentId =>
    have hlist := h.listTransitions agentId
    rw [EnforcementStateRepository.legibleLedger_iff.mp hl agentId] at hlist
    exact congrArg EnforcementReply.transitions hlist.symm
  | getEpoch agentId asOf =>
    exact congrArg EnforcementReply.epoch (h.getEpoch agentId asOf).symm

theorem answer_legible (hl : m.LegibleLedger) {c : EnforcementCall} (hc : c.Legible m) :
    (m.answer c).1.LegibleLedger := by
  cases c with
  | recordTransition t n e =>
    intro u hu
    rcases EnforcementStateRepository.mem_recordTransition.mp hu with hu | ⟨ha, rfl⟩
    · exact hl u hu
    · exact hc ha
  | _ => exact hl

theorem refines (rows : List String) :
    Run.Refines EnforcementStateRepository.answer SqlEnforcementStateRepository.answer
      (fun m c => c.Proper rows m ∧ c.Legible m)
        (fun m q => m.Mirrors rows q ∧ m.LegibleLedger) Eq :=
  ⟨fun _ _ _ h hc => answer_reply h.1 h.2 hc.1,
    fun _ _ _ h hc => ⟨answer_mirrors h.1 hc.1, answer_legible h.2 hc.2⟩⟩

theorem meets_reads {P : EnforcementStateRepository → EnforcementCall → Prop}
    {reads : List EnforcementCall} (hreads : ∀ c ∈ reads, c.isRead = true)
    (hP : ∀ m c, c.isRead = true → P m c) (m : EnforcementStateRepository) :
    Run.Meets EnforcementStateRepository.answer P m reads := by
  induction reads generalizing m with
  | nil => trivial
  | cons c reads ih =>
    exact ⟨hP m c (hreads c (by simp)), ih (fun d hd => hreads d (by simp [hd])) _⟩

theorem proper_of_isRead {c : EnforcementCall} (hc : c.isRead = true) :
    c.Proper rows m ∧ c.Legible m := by
  cases c with
  | recordTransition t n e => cases hc
  | _ => exact ⟨trivial, trivial⟩

theorem final_mirrors (h : m.Mirrors rows q)
    (hp : Run.Meets EnforcementStateRepository.answer (fun m c => c.Proper rows m) m calls) :
    (Run.final EnforcementStateRepository.answer m calls).Mirrors rows
      (Run.final SqlEnforcementStateRepository.answer q calls) := by
  induction calls generalizing m q with
  | nil => exact h
  | cons c calls ih => exact ih (answer_mirrors h hp.1) hp.2

theorem subset_final : m.transitions ⊆
    (Run.final EnforcementStateRepository.answer m calls).transitions := by
  induction calls generalizing m with
  | nil => exact fun _ h => h
  | cons c calls ih =>
    refine List.Subset.trans ?_ ih
    cases c with
    | recordTransition t n e =>
      exact fun u hu => EnforcementStateRepository.mem_recordTransition.mpr (.inl hu)
    | _ => exact fun _ h => h

-- the ledger only grows, so a final ledger without illegible triggers never took one in
theorem meets_legible (hl : (Run.final EnforcementStateRepository.answer m calls).LegibleLedger) :
    Run.Meets EnforcementStateRepository.answer (fun m c => c.Legible m) m calls := by
  induction calls generalizing m with
  | nil => trivial
  | cons c calls ih =>
    refine ⟨?_, ih hl⟩
    cases c with
    | recordTransition t n e =>
      intro ha
      have hmem : t ∈ (m.recordTransition t n e).1.transitions :=
        EnforcementStateRepository.mem_recordTransition.mpr (.inr ⟨ha, rfl⟩)
      exact hl t (subset_final (m := (m.recordTransition t n e).1) hmem)
    | _ => trivial

theorem enforcement_adapters_agree_iff (rows : List String) (calls : List EnforcementCall)
    (h : Run.Meets EnforcementStateRepository.answer (fun m c => c.Proper rows m) .empty calls) :
    (∀ reads : List EnforcementCall, (∀ c ∈ reads, c.isRead = true) →
      Run.replies EnforcementStateRepository.answer .empty (calls ++ reads) =
        Run.replies SqlEnforcementStateRepository.answer ⟨rows, .empty, []⟩ (calls ++ reads)) ↔
      Run.Meets EnforcementStateRepository.answer (fun m c => c.Legible m) .empty calls := by
  have hstart := EnforcementStateRepository.mirrors_empty rows
  constructor
  · intro hagree
    apply meets_legible
    rw [EnforcementStateRepository.legibleLedger_iff]
    intro agentId
    have hreply := hagree [.listTransitions agentId] (by simp [isRead])
    rw [Run.replies_append, Run.replies_append] at hreply
    have hlist := List.append_inj_right hreply (by rw [Run.length_replies, Run.length_replies])
    simp only [Run.replies, Run.history, List.map_cons, List.map_nil, List.cons.injEq, and_true,
      EnforcementStateRepository.answer, SqlEnforcementStateRepository.answer,
      EnforcementReply.transitions.injEq] at hlist
    rw [(final_mirrors hstart h).listTransitions agentId] at hlist
    exact (Except.ok.inj hlist).symm
  · intro hlegible reads hreads
    apply (refines rows).replies_eq ⟨hstart, by simp [EnforcementStateRepository.LegibleLedger,
      EnforcementStateRepository.empty]⟩
    rw [Run.meets_append]
    exact ⟨h.and hlegible, meets_reads hreads (fun _ _ hc => proper_of_isRead hc) _⟩

def sampleTransition (riskScore : Int) : EnforcementTransition :=
  { transitionId := "transition-1"
    agentId := "agent-1"
    action := .suspend
    actor := runtimeActor
    reason := "critical risk"
    previousStatus := .active
    newStatus := .suspended
    trigger := some ⟨none, none, some riskScore, []⟩
    occurredAt := 5 }

def sampleCalls (riskScore : Int) : List EnforcementCall :=
  [.recordTransition (sampleTransition riskScore)
    { agentId := "agent-1", epoch := 1, suspendedAt := some 5 } 0]

theorem sampleCalls_proper (riskScore : Int) :
    Run.Meets EnforcementStateRepository.answer (fun m c => c.Proper ["agent-1"] m) .empty
      (sampleCalls riskScore) :=
  ⟨⟨by simp [sampleTransition], rfl, by simp [EnforcementStateRepository.empty]⟩, trivial⟩

theorem enforcement_adapters_agree_sample :
    Run.replies EnforcementStateRepository.answer .empty
      (sampleCalls 120 ++ [.listTransitions none]) =
      Run.replies SqlEnforcementStateRepository.answer ⟨["agent-1"], .empty, []⟩
        (sampleCalls 120 ++ [.listTransitions none]) :=
  (enforcement_adapters_agree_iff ["agent-1"] (sampleCalls 120) (sampleCalls_proper 120)).mpr
    ⟨fun _ => rfl, trivial⟩ [.listTransitions none] (by decide)

theorem zero_score_trigger_lost :
    Run.Meets EnforcementStateRepository.answer (fun m c => c.Proper ["agent-1"] m) .empty
        (sampleCalls 0 ++ [.listTransitions none]) ∧
      Run.replies EnforcementStateRepository.answer .empty
        (sampleCalls 0 ++ [.listTransitions none]) =
        [.recorded (.ok true), .transitions (.ok [sampleTransition 0])] ∧
      Run.replies SqlEnforcementStateRepository.answer ⟨["agent-1"], .empty, []⟩
          (sampleCalls 0 ++ [.listTransitions none]) =
        [.recorded (.ok true), .transitions
          (.ok [{ sampleTransition 0 with trigger := none }])] := by
  refine ⟨?_, rfl, rfl⟩
  rw [Run.meets_append]
  exact ⟨sampleCalls_proper 0, trivial, trivial⟩

end EnforcementCall

end AgentSecurityPlatform
