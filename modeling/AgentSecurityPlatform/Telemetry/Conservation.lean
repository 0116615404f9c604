import AgentSecurityPlatform.Executor.ToolExecutor
import AgentSecurityPlatform.Telemetry.Dispatcher

namespace AgentSecurityPlatform

variable {E : Type}

def EmitPoint.held : EmitPoint E → List E
  | .between => []
  | .puts e => [e]
  | .counts e => [e]

def Emitter.held (t : Emitter E) : Multiset E := t.point.held + t.remaining

def WorkerPoint.held : WorkerPoint E → List E
  | .dispatches e => [e]
  | _ => []

def WorkerPoint.unsettled : WorkerPoint E → Nat
  | .dispatches _ => 1
  | .settles _ => 1
  | _ => 0

def WorkerPoint.isStopped : WorkerPoint E → Bool
  | .stopped => true
  | _ => false

def EmitPoint.putting : EmitPoint E → Bool
  | .puts _ => true
  | _ => false

namespace InMemoryTelemetryDispatcher

def held (d : InMemoryTelemetryDispatcher E) : Multiset E := d.queue.items + d.worker.held

def Settles (d : InMemoryTelemetryDispatcher E) : Prop :=
  d.queue.unfinishedTasks = d.queue.items.length + d.worker.unsettled

-- the worker is gone and events are left that nobody will take
def Stranded (d : InMemoryTelemetryDispatcher E) : Prop :=
  d.worker.isStopped = true ∧ d.queue.items ≠ []

end InMemoryTelemetryDispatcher

namespace TelemetrySystem

def accounted (effects : List (TelemetryEffect E)) : Multiset E := handled effects + counted effects

def held (s : TelemetrySystem E) : Multiset E :=
  s.dispatcher.held + (s.emitters.map Emitter.held).sum

-- close has returned with the worker stopped, and so has every emit call
structure Quiescent (s : TelemetrySystem E) : Prop where
  closed : s.closing = .returned
  stopped : s.dispatcher.worker.isStopped = true
  emitted : ∀ t ∈ s.emitters, t = ⟨[], .between⟩

-- every emitted event went to the handler or to the counter, once
structure Conserved (emissions : List (List E)) (effects : List (TelemetryEffect E))
    (s : TelemetrySystem E) : Prop where
  once : (handled effects ++ counted effects).Perm emissions.flatten
  count : s.dispatcher.droppedEventsCount = (counted effects).length

-- nothing is put after the worker has stopped, and it does not leave events behind
def Safe (s : TelemetrySystem E) : TelemetryAction → Prop
  | .emit thread =>
    ∀ t, s.emitters[thread]? = some t → t.point.putting = true →
      s.dispatcher.worker.isStopped = false
  | .work _ =>
    s.dispatcher.worker matches .settles true → s.dispatcher.queue.items = []
  | .close => True

section Balance

theorem accounted_append (es fs : List (TelemetryEffect E)) :
    accounted (es ++ fs) = accounted es + accounted fs := by
  simp only [accounted, handled, counted, List.filterMap_append, ← Multiset.coe_add]
  abel

theorem emit_balance (d : InMemoryTelemetryDispatcher E) (t : Emitter E) :
    (d.emit t).1.held + (d.emit t).2.1.held + accounted (d.emit t).2.2 = d.held + t.held := by
  obtain ⟨remaining, point⟩ := t
  cases point with
  | between =>
    cases remaining with
    | nil => simp [InMemoryTelemetryDispatcher.emit, accounted, handled, counted]
    | cons e remaining =>
      simp only [InMemoryTelemetryDispatcher.emit]
      split <;> simp [Emitter.held, EmitPoint.held, accounted, handled, counted]
  | puts e =>
    simp only [InMemoryTelemetryDispatcher.emit]
    split
    · rename_i queue hput
      obtain ⟨hitems, -⟩ := BoundedQueue.putNowait_eq_some hput
      simp only [InMemoryTelemetryDispatcher.held, Emitter.held, EmitPoint.held, hitems, accounted,
        handled, counted, List.filterMap_nil, ← Multiset.coe_add, Multiset.coe_nil]
      abel
    · simp [Emitter.held, EmitPoint.held, accounted, handled, counted]
  | counts e =>
    simp only [InMemoryTelemetryDispatcher.emit, InMemoryTelemetryDispatcher.held, Emitter.held,
      EmitPoint.held, accounted, handled, counted, List.filterMap_cons, List.filterMap_nil,
      TelemetryEffect.handledEvent, TelemetryEffect.countedEvent, Multiset.coe_nil]
    abel

theorem workerLoop_balance (d : InMemoryTelemetryDispatcher E) (outcome : SubscriberOutcome) :
    (d.workerLoop outcome).1.held + accounted (d.workerLoop outcome).2 = d.held := by
  obtain ⟨queue, count, running, worker⟩ := d
  cases worker with
  | readsRunning =>
    cases running <;> simp [InMemoryTelemetryDispatcher.workerLoop,
      InMemoryTelemetryDispatcher.held, WorkerPoint.held, accounted, handled, counted]
  | readsEmpty =>
    cases hitems : queue.items <;> simp [InMemoryTelemetryDispatcher.workerLoop,
      InMemoryTelemetryDispatcher.held, WorkerPoint.held, accounted, handled, counted, hitems]
  | gets =>
    simp only [InMemoryTelemetryDispatcher.workerLoop]
    split
    · simp [InMemoryTelemetryDispatcher.held, WorkerPoint.held, accounted, handled, counted]
    · rename_i e rest hget
      obtain ⟨hitems, -⟩ := BoundedQueue.get_eq_some hget
      simp only [InMemoryTelemetryDispatcher.held, WorkerPoint.held, hitems, accounted, handled,
        counted, List.filterMap_nil, Multiset.coe_nil, ← Multiset.cons_coe,
        ← Multiset.singleton_add]
      abel
  | dispatches e =>
    simp only [InMemoryTelemetryDispatcher.workerLoop, InMemoryTelemetryDispatcher.held,
      WorkerPoint.held, accounted, handled, counted, List.filterMap_cons, List.filterMap_nil,
      TelemetryEffect.handledEvent, TelemetryEffect.countedEvent, Multiset.coe_nil]
    abel
  | settles escaping =>
    simp only [InMemoryTelemetryDispatcher.workerLoop]
    split
    · simp [InMemoryTelemetryDispatcher.held, WorkerPoint.held, accounted, handled, counted]
    · rename_i rest hdone
      have hitems : rest.items = queue.items := by
        simp only [BoundedQueue.taskDone] at hdone
        split at hdone
        · cases hdone
        · cases hdone
          rfl
      cases escaping <;>
        simp [InMemoryTelemetryDispatcher.held, WorkerPoint.held, accounted, handled,
          counted, hitems]
  | stopped =>
    simp [InMemoryTelemetryDispatcher.workerLoop, accounted, handled, counted]

theorem close_keeps (d : InMemoryTelemetryDispatcher E) (point : ClosePoint) :
    (d.close point).1.queue = d.queue ∧ (d.close point).1.worker = d.worker ∧
      (d.close point).1.droppedEventsCount = d.droppedEventsCount := by
  cases point with
  | readsAlive =>
    simp only [InMemoryTelemetryDispatcher.close]
    split <;> exact ⟨rfl, rfl, rfl⟩
  | _ => exact ⟨rfl, rfl, rfl⟩

theorem sum_set {emitters : List (Emitter E)} {i : Nat} {t : Emitter E} (u : Emitter E)
    (h : emitters[i]? = some t) :
    ((emitters.set i u).map Emitter.held).sum + t.held =
      (emitters.map Emitter.held).sum + u.held := by
  induction emitters generalizing i with
  | nil => cases h
  | cons v emitters ih =>
    cases i with
    | zero =>
      cases h
      simp only [List.set_cons_zero, List.map_cons, List.sum_cons]
      abel
    | succ i =>
      simp only [List.getElem?_cons_succ] at h
      simp only [List.set_cons_succ, List.map_cons, List.sum_cons, add_assoc, ih h]

theorem step_balance (s : TelemetrySystem E) (a : TelemetryAction) :
    (s.step a).1.held + accounted (s.step a).2 = s.held := by
  have hnone : accounted ([] : List (TelemetryEffect E)) = 0 := rfl
  cases a with
  | emit thread =>
    simp only [step]
    cases hthread : s.emitters[thread]? with
    | none => simp only [hnone, add_zero]
    | some t =>
      have hemit := emit_balance s.dispatcher t
      have hset := sum_set (s.dispatcher.emit t).2.1 hthread
      apply add_right_cancel (b := t.held)
      calc _ = (s.dispatcher.emit t).1.held + accounted (s.dispatcher.emit t).2.2 +
            (((s.emitters.set thread (s.dispatcher.emit t).2.1).map Emitter.held).sum +
              t.held) := by
            simp only [held]
            abel
        _ = ((s.dispatcher.emit t).1.held + (s.dispatcher.emit t).2.1.held +
              accounted (s.dispatcher.emit t).2.2) + (s.emitters.map Emitter.held).sum := by
            rw [hset]
            abel
        _ = _ := by
            rw [hemit, held]
            abel
  | work outcome =>
    have hwork := workerLoop_balance s.dispatcher outcome
    simp only [step, held, ← hwork]
    abel
  | close =>
    obtain ⟨hqueue, hworker, -⟩ := close_keeps s.dispatcher s.closing
    simp only [step, held, InMemoryTelemetryDispatcher.held, hqueue, hworker, hnone, add_zero]

end Balance

section Stranding

theorem emit_worker (d : InMemoryTelemetryDispatcher E) (t : Emitter E) :
    (d.emit t).1.worker = d.worker := by
  simp only [InMemoryTelemetryDispatcher.emit]
  split
  · split
    · rfl
    · split <;> rfl
  · split <;> rfl
  · rfl

theorem emit_settles {d : InMemoryTelemetryDispatcher E} (h : d.Settles) (t : Emitter E) :
    (d.emit t).1.Settles := by
  simp only [InMemoryTelemetryDispatcher.Settles, emit_worker] at h ⊢
  simp only [InMemoryTelemetryDispatcher.emit]
  split
  · split
    · exact h
    · split <;> exact h
  · split
    · rename_i queue hput
      obtain ⟨hitems, htasks⟩ := BoundedQueue.putNowait_eq_some hput
      simp only [hitems, htasks, h, List.length_append, List.length_singleton]
      omega
    · exact h
  · exact h

theorem workerLoop_settles {d : InMemoryTelemetryDispatcher E} (h : d.Settles)
    (outcome : SubscriberOutcome) : (d.workerLoop outcome).1.Settles := by
  obtain ⟨queue, count, running, worker⟩ := d
  simp only [InMemoryTelemetryDispatcher.Settles] at h ⊢
  cases worker with
  | readsRunning => cases running <;> exact h
  | readsEmpty =>
    simp only [InMemoryTelemetryDispatcher.workerLoop]
    split <;> exact h
  | gets =>
    simp only [InMemoryTelemetryDispatcher.workerLoop]
    split
    · exact h
    · rename_i e rest hget
      obtain ⟨hitems, htasks⟩ := BoundedQueue.get_eq_some hget
      rw [hitems] at h
      simpa [htasks, WorkerPoint.unsettled] using h
  | dispatches e => exact h
  | settles escaping =>
    simp only [WorkerPoint.unsettled] at h
    simp only [InMemoryTelemetryDispatcher.workerLoop,
      BoundedQueue.taskDone_eq_some (q := queue) (by omega)]
    cases escaping <;> simp [WorkerPoint.unsettled, h]
  | stopped => exact h

theorem step_settles {s : TelemetrySystem E} (h : s.dispatcher.Settles) (a : TelemetryAction) :
    (s.step a).1.dispatcher.Settles := by
  cases a with
  | emit thread =>
    simp only [step]
    split
    · exact h
    · exact emit_settles h _
  | work outcome => exact workerLoop_settles h outcome
  | close =>
    obtain ⟨hqueue, hworker, -⟩ := close_keeps s.dispatcher s.closing
    simpa only [step, InMemoryTelemetryDispatcher.Settles, hqueue, hworker] using h

theorem emit_count (d : InMemoryTelemetryDispatcher E) (t : Emitter E) :
    (d.emit t).1.droppedEventsCount = d.droppedEventsCount + (counted (d.emit t).2.2).length := by
  simp only [InMemoryTelemetryDispatcher.emit]
  split
  · split
    · rfl
    · split <;> rfl
  · split <;> rfl
  · rfl

theorem workerLoop_count (d : InMemoryTelemetryDispatcher E) (outcome : SubscriberOutcome) :
    (d.workerLoop outcome).1.droppedEventsCount = d.droppedEventsCount ∧
      counted (d.workerLoop outcome).2 = [] := by
  simp only [InMemoryTelemetryDispatcher.workerLoop]
  split
  case h_3 => split <;> exact ⟨rfl, rfl⟩
  case h_5 => split <;> exact ⟨rfl, rfl⟩
  all_goals exact ⟨rfl, rfl⟩

theorem step_count (s : TelemetrySystem E) (a : TelemetryAction) :
    (s.step a).1.dispatcher.droppedEventsCount =
      s.dispatcher.droppedEventsCount + (counted (s.step a).2).length := by
  cases a with
  | emit thread =>
    simp only [step]
    split
    · rfl
    · exact emit_count _ _
  | work outcome =>
    obtain ⟨hcount, heffects⟩ := workerLoop_count s.dispatcher outcome
    simp only [step, hcount, heffects, List.length_nil, Nat.add_zero]
  | close =>
    obtain ⟨-, -, hcount⟩ := close_keeps s.dispatcher s.closing
    simp only [step, hcount]
    rfl

theorem workerLoop_stopped {d : InMemoryTelemetryDispatcher E} (h : d.worker.isStopped = true)
    (outcome : SubscriberOutcome) : d.workerLoop outcome = (d, []) := by
  obtain ⟨queue, count, running, worker⟩ := d
  cases worker with
  | stopped => rfl
  | _ => cases h

-- a worker that stops on its own account has seen the queue empty
theorem workerLoop_stranded_iff {d : InMemoryTelemetryDispatcher E} (hsettles : d.Settles)
    (h : d.worker.isStopped = false) (outcome : SubscriberOutcome) :
    (d.workerLoop outcome).1.Stranded ↔
      (d.worker matches .settles true) = true ∧ d.queue.items ≠ [] := by
  obtain ⟨queue, count, running, worker⟩ := d
  simp only [InMemoryTelemetryDispatcher.Stranded]
  cases worker with
  | readsRunning =>
    cases running <;> simp [InMemoryTelemetryDispatcher.workerLoop, WorkerPoint.isStopped]
  | readsEmpty =>
    cases hitems : queue.items <;>
      simp [InMemoryTelemetryDispatcher.workerLoop, WorkerPoint.isStopped, hitems]
  | gets =>
    simp only [InMemoryTelemetryDispatcher.workerLoop]
    split <;> simp [WorkerPoint.isStopped]
  | dispatches e => simp [InMemoryTelemetryDispatcher.workerLoop, WorkerPoint.isStopped]
  | settles escaping =>
    simp only [InMemoryTelemetryDispatcher.Settles, WorkerPoint.unsettled] at hsettles
    simp only [InMemoryTelemetryDispatcher.workerLoop,
      BoundedQueue.taskDone_eq_some (q := queue) (by omega)]
    cases escaping <;> simp [WorkerPoint.isStopped]
  | stopped => cases h

theorem emit_stranded_iff (d : InMemoryTelemetryDispatcher E) (t : Emitter E) :
    (d.emit t).1.Stranded ↔
      d.Stranded ∨ (t.point.putting = true ∧ d.worker.isStopped = true) := by
  obtain ⟨remaining, point⟩ := t
  simp only [InMemoryTelemetryDispatcher.Stranded, emit_worker]
  cases point with
  | between =>
    cases remaining with
    | nil => simp [InMemoryTelemetryDispatcher.emit, EmitPoint.putting]
    | cons e remaining =>
      simp only [InMemoryTelemetryDispatcher.emit]
      split <;> simp [EmitPoint.putting]
  | puts e =>
    simp only [InMemoryTelemetryDispatcher.emit]
    split
    · rename_i queue hput
      obtain ⟨hitems, -⟩ := BoundedQueue.putNowait_eq_some hput
      have happended : queue.items ≠ [] := by simp [hitems]
      simp only [happended, EmitPoint.putting, ne_eq, not_false_eq_true, and_true, true_and]
      exact ⟨Or.inr, fun h => h.elim And.left id⟩
    · rename_i hput
      have hfull := BoundedQueue.putNowait_eq_none hput
      simp [hfull, EmitPoint.putting]
  | counts e => simp [InMemoryTelemetryDispatcher.emit, EmitPoint.putting]

theorem step_stranded_iff {s : TelemetrySystem E} (hsettles : s.dispatcher.Settles)
    (a : TelemetryAction) :
    (s.step a).1.dispatcher.Stranded ↔ s.dispatcher.Stranded ∨ ¬ s.Safe a := by
  cases a with
  | emit thread =>
    simp only [step, Safe]
    cases hthread : s.emitters[thread]? with
    | none => simp
    | some t =>
      rw [emit_stranded_iff]
      simp
  | work outcome =>
    simp only [step, Safe]
    cases hstopped : s.dispatcher.worker.isStopped with
    | true =>
      rw [workerLoop_stopped hstopped]
      have hpoint : (s.dispatcher.worker matches .settles true) = false := by
        cases hworker : s.dispatcher.worker with
        | stopped => rfl
        | _ => simp [hworker, WorkerPoint.isStopped] at hstopped
      simp [hpoint]
    | false =>
      rw [workerLoop_stranded_iff hsettles hstopped]
      simp [InMemoryTelemetryDispatcher.Stranded, hstopped]
  | close =>
    obtain ⟨hqueue, hworker, -⟩ := close_keeps s.dispatcher s.closing
    simp [step, Safe, InMemoryTelemetryDispatcher.Stranded, hqueue, hworker]

end Stranding

section Runs

theorem final_snoc (s : TelemetrySystem E) (pre : List TelemetryAction) (a : TelemetryAction) :
    Run.final step s (pre ++ [a]) = ((Run.final step s pre).step a).1 :=
  Run.final_append step s pre [a]

theorem effects_snoc (s : TelemetrySystem E) (pre : List TelemetryAction) (a : TelemetryAction) :
    s.effects (pre ++ [a]) = s.effects pre ++ ((Run.final step s pre).step a).2 := by
  simp [effects, Run.history_append, Run.history]

variable (s : TelemetrySystem E) (actions : List TelemetryAction)

theorem final_balance :
    (Run.final step s actions).held + accounted (s.effects actions) = s.held := by
  induction actions using List.reverseRecOn with
  | nil => exact add_zero _
  | append_singleton pre a ih =>
    have hstep := step_balance (Run.final step s pre) a
    rw [final_snoc, effects_snoc, accounted_append, ← ih, ← hstep]
    abel

theorem final_count :
    (Run.final step s actions).dispatcher.droppedEventsCount =
      s.dispatcher.droppedEventsCount + (counted (s.effects actions)).length := by
  induction actions using List.reverseRecOn with
  | nil => rfl
  | append_singleton pre a ih =>
    rw [final_snoc, effects_snoc, step_count, ih, counted, counted, counted, List.filterMap_append,
      List.length_append, Nat.add_assoc]

theorem final_settles (h : s.dispatcher.Settles) :
    (Run.final step s actions).dispatcher.Settles := by
  induction actions using List.reverseRecOn with
  | nil => exact h
  | append_singleton pre a ih =>
    rw [final_snoc]
    exact step_settles ih a

def AllSafe : Prop :=
  ∀ pre a post, actions = pre ++ a :: post → (Run.final step s pre).Safe a

theorem allSafe_snoc (pre : List TelemetryAction) (a : TelemetryAction) :
    s.AllSafe (pre ++ [a]) ↔ s.AllSafe pre ∧ (Run.final step s pre).Safe a := by
  constructor
  · intro h
    refine ⟨?_, h pre a [] rfl⟩
    intro p b q hsplit
    exact h p b (q ++ [a]) (by simp [hsplit])
  · rintro ⟨hpre, ha⟩ p b q hsplit
    rcases List.eq_nil_or_concat q with rfl | ⟨q, c, rfl⟩
    · obtain ⟨rfl, hb⟩ := List.append_inj' hsplit rfl
      cases hb
      exact ha
    · rw [List.concat_eq_append, ← List.cons_append, ← List.append_assoc] at hsplit
      obtain ⟨rfl, -⟩ := List.append_inj' hsplit rfl
      exact hpre p b q rfl

theorem stranded_iff (hsettles : s.dispatcher.Settles) (h : ¬ s.dispatcher.Stranded) :
    (Run.final step s actions).dispatcher.Stranded ↔ ¬ s.AllSafe actions := by
  induction actions using List.reverseRecOn with
  | nil =>
    constructor
    · intro hstranded
      exact absurd hstranded h
    · intro hunsafe
      exact absurd (fun pre a post hsplit => by simp at hsplit) hunsafe
  | append_singleton pre a ih =>
    rw [final_snoc, step_stranded_iff (final_settles s pre hsettles), ih, allSafe_snoc]
    tauto

end Runs

theorem start_held (maxQueueSize : Int) (emissions : List (List E)) :
    (start maxQueueSize emissions).held = emissions.flatten := by
  have hemitters : ((emissions.map fun events => (⟨events, .between⟩ : Emitter E)).map
      Emitter.held).sum = (emissions.flatten : Multiset E) := by
    induction emissions with
    | nil => rfl
    | cons events emissions ih =>
      rw [List.map_cons, List.map_cons, List.sum_cons, ih, List.flatten_cons, ← Multiset.coe_add]
      simp [Emitter.held, EmitPoint.held]
  simp only [held, start, hemitters]
  exact zero_add _

theorem Quiescent.held {s : TelemetrySystem E} (h : s.Quiescent) :
    s.held = s.dispatcher.queue.items := by
  have hemitters : (s.emitters.map Emitter.held).sum = 0 := by
    apply List.sum_eq_zero
    intro m hm
    obtain ⟨t, ht, rfl⟩ := List.mem_map.mp hm
    rw [h.emitted t ht]
    rfl
  have hworker : s.dispatcher.worker.held = [] := by
    have hstopped := h.stopped
    cases hpoint : s.dispatcher.worker with
    | dispatches e => simp [hpoint, WorkerPoint.isStopped] at hstopped
    | _ => rfl
  simp [TelemetrySystem.held, InMemoryTelemetryDispatcher.held, hemitters, hworker]

theorem start_settles (maxQueueSize : Int) (emissions : List (List E)) :
    (start maxQueueSize emissions).dispatcher.Settles := rfl

theorem start_not_stranded (maxQueueSize : Int) (emissions : List (List E)) :
    ¬ (start maxQueueSize emissions).dispatcher.Stranded := by
  rintro ⟨hstopped, -⟩
  cases hstopped

theorem telemetry_conserved_iff (maxQueueSize : Int) (emissions : List (List E))
    (actions : List TelemetryAction)
    (hquiescent : (Run.final step (start maxQueueSize emissions) actions).Quiescent) :
    Conserved emissions ((start maxQueueSize emissions).effects actions)
        (Run.final step (start maxQueueSize emissions) actions) ↔
      (start maxQueueSize emissions).AllSafe actions := by
  have hbalance := final_balance (start maxQueueSize emissions) actions
  have hcount := final_count (start maxQueueSize emissions) actions
  have hstranded := stranded_iff _ actions (start_settles maxQueueSize emissions)
    (start_not_stranded maxQueueSize emissions)
  rw [hquiescent.held, start_held] at hbalance
  rw [← not_iff_not, ← hstranded]
  constructor
  · intro hlost
    refine ⟨hquiescent.stopped, ?_⟩
    intro hempty
    apply hlost
    refine ⟨?_, by rw [hcount]; exact Nat.zero_add _⟩
    rw [hempty] at hbalance
    apply Multiset.coe_eq_coe.mp
    rw [← hbalance, Multiset.coe_nil, zero_add, accounted, Multiset.coe_add]
  · rintro ⟨-, hleft⟩ hconserved
    have honce := Multiset.coe_eq_coe.mpr hconserved.once
    rw [← hbalance, ← Multiset.coe_add, ← accounted, right_eq_add] at honce
    exact hleft (by simpa using honce)

def sampleEvent (traceId : String) : BehavioralEvent :=
  { eventType := .executionCompleted
    sessionId := "session-1"
    agentId := "agent-1"
    traceId
    toolId := "read_file" }

def sampleEmissions : List (List BehavioralEvent) :=
  [[sampleEvent "trace-1"], [sampleEvent "trace-2"]]

-- the first event is handled; the second comes after close and is counted
def sampleSchedule : List TelemetryAction :=
  [.emit 0, .emit 0, .work .completed, .work .completed, .work .exception, .work .completed, .close,
    .work .completed, .work .completed, .emit 1, .emit 1, .close, .close]

theorem telemetry_conserved_sample :
    (start 10000 sampleEmissions).AllSafe sampleSchedule ∧
      (start 10000 sampleEmissions).effects sampleSchedule =
        [.handled (sampleEvent "trace-1"), .counted (sampleEvent "trace-2")] := by
  have heffects : (start 10000 sampleEmissions).effects sampleSchedule =
      [.handled (sampleEvent "trace-1"), .counted (sampleEvent "trace-2")] := rfl
  refine ⟨?_, heffects⟩
  apply (telemetry_conserved_iff 10000 sampleEmissions sampleSchedule ?_).mp
  · exact ⟨List.Perm.refl _, rfl⟩
  · refine ⟨rfl, rfl, ?_⟩
    intro t ht
    have hemitters : (Run.final step (start 10000 sampleEmissions) sampleSchedule).emitters =
        [⟨[], .between⟩, ⟨[], .between⟩] := rfl
    simpa [hemitters] using ht

-- emit sees the flag still set; its event is put when the worker has already left
def straddlingSchedule : List TelemetryAction :=
  [.emit 0, .close, .work .completed, .work .completed, .emit 0, .close, .close]

theorem telemetry_event_lost :
    (Run.final step (start 10000 [[sampleEvent "trace-1"]]) straddlingSchedule).Quiescent ∧
      (start 10000 [[sampleEvent "trace-1"]]).effects straddlingSchedule = [] ∧
      ¬ Conserved [[sampleEvent "trace-1"]]
        ((start 10000 [[sampleEvent "trace-1"]]).effects straddlingSchedule)
        (Run.final step (start 10000 [[sampleEvent "trace-1"]]) straddlingSchedule) := by
  have heffects : (start 10000 [[sampleEvent "trace-1"]]).effects straddlingSchedule = [] := rfl
  refine ⟨⟨rfl, rfl, ?_⟩, heffects, ?_⟩
  · intro t ht
    have hemitters : (Run.final step (start 10000 [[sampleEvent "trace-1"]])
        straddlingSchedule).emitters = [⟨[], .between⟩] := rfl
    simpa [hemitters] using ht
  · rintro ⟨honce, -⟩
    rw [heffects] at honce
    exact absurd honce.length_eq (by decide)

end TelemetrySystem

end AgentSecurityPlatform
