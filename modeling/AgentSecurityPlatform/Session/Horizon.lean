import AgentSecurityPlatform.Session.Calls
import AgentSecurityPlatform.Session.EventNumbers

namespace AgentSecurityPlatform

namespace SessionBackend

variable {b b' : SessionBackend} {es : List SessionEvent} {horizon : Instant}

def reaches (horizon : Instant) (e : SessionEvent) : Bool := horizon ≤ e.timestamp

def LogChange.keeps (horizon : Instant) : LogChange → Prop
  | .silent => True
  | .recorded _ => True
  | .pruned cutoff => cutoff ≤ horizon
  | .finalized => False

-- every recorded event from the horizon on is still stored, in the order of recording
structure Retained (horizon : Instant) (es : List SessionEvent) (b : SessionBackend) : Prop where
  counting : b.Counting
  logged : b.Logged es
  kept : b.events.filter (reaches horizon) = es.filter (reaches horizon)

theorem Retained.change {change : LogChange} (h : Retained horizon es b)
    (he : LogEffect b b' change) (hc : b'.Counting) (hk : change.keeps horizon) :
    Retained horizon (es ++ change.event.toList) b' := by
  refine ⟨hc, he.logged h.logged, ?_⟩
  cases he with
  | silent hsession hagent hevents =>
    rw [hevents, h.kept, LogChange.event, Option.toList_none, List.append_nil]
  | recorded e hnumber hposition hsession hagent hevents =>
    rw [hevents, LogChange.event, Option.toList_some, List.filter_append,
      List.filter_append, h.kept]
  | pruned cutoff hsession hagent hevents =>
    rw [hevents, List.filter_filter, LogChange.event, Option.toList_none, List.append_nil, ← h.kept]
    -- an event the horizon reaches is not older than the cutoff
    refine List.filter_congr fun e _ => ?_
    simp only [reaches]
    have hcutoff : cutoff ≤ horizon := hk
    by_cases hreach : horizon ≤ e.timestamp
    · simp [hreach, hcutoff.trans hreach]
    · simp [hreach]
  | finalized sessionId n decision hsession hagent hevents => exact hk.elim

theorem Retained.silent (h : Retained horizon es b) (he : LogEffect b b' .silent)
    (hc : b'.Counting) : Retained horizon es b' := by
  simpa [LogChange.event] using h.change he hc trivial

theorem Retained.pruneExpired (h : Retained horizon es b) (policy : DetectionRetentionPolicy)
    {now : Instant} (hnow : now - policy.totalRetentionSeconds ≤ horizon) :
    Retained horizon es (b.pruneExpired (some policy) now).1 := by
  obtain ⟨heffect, hcounting⟩ := b.pruneEvents_log h.counting (now - policy.totalRetentionSeconds)
  simpa [LogChange.event, SessionBackend.pruneExpired] using h.change heffect hcounting hnow

theorem Retained.terminalizeSession (h : Retained horizon es b) (sessionId : String)
    (t : TerminalSessionTombstone) : Retained horizon es (b.terminalizeSession sessionId t).1 := by
  obtain ⟨heffect, hcounting⟩ := b.terminalizeSession_log h.counting sessionId t
  exact h.silent heffect hcounting

theorem Retained.endSession (h : Retained horizon es b) (sessionId agentId : String)
    (now : Instant) : Retained horizon es (b.endSession sessionId agentId now).1 := by
  simp only [SessionBackend.endSession]
  split
  · exact h
  · split
    · exact h
    · split
      · exact h
      · split
        · exact h
        · rename_i t _
          have hnext := h.terminalizeSession sessionId t
          split
          · rename_i b' hb'
            rw [hb'] at hnext
            exact hnext
          · rename_i b' hb'
            rw [hb'] at hnext
            split
            · exact hnext
            · exact hnext

theorem Retained.expireAll (h : Retained horizon es b) (threshold now : Instant) (l : List Session)
    (expiredIds : List String) :
    Retained horizon es (SessionBackend.expireAll threshold now l expiredIds b).1 := by
  induction l generalizing b expiredIds with
  | nil => exact h
  | cons s l ih =>
    simp only [SessionBackend.expireAll]
    split
    · split
      · exact h
      · rename_i t _
        have hnext := h.terminalizeSession s.sessionId t
        split
        all_goals
          rename_i b' hb'
          rw [hb'] at hnext
          exact ih hnext _
    · exact ih h expiredIds

theorem listEligibleEvents_eq (b : SessionBackend) (query : HorizonQuery) :
    b.listEligibleEvents query = (b.events.filter (SessionRepository.eligible query)).insertionSort
      (fun d e => SessionRepository.horizonKey d query.scope ≤
        SessionRepository.horizonKey e query.scope) := by
  cases b <;> rfl

theorem eligible_agent (agentId : String) (window t : Instant) (baseline : Nat) (e : SessionEvent) :
    SessionRepository.eligible ⟨agentId, .agent, none, window, t, baseline⟩ e =
      decide (e.agentId = agentId ∧ baseline < e.agentSequence ∧ t - window ≤ e.timestamp ∧
        e.timestamp ≤ t) := by
  simp only [SessionRepository.eligible, Bool.and_assoc, Bool.decide_and, ne_eq, reduceCtorEq,
    not_false_eq_true, decide_true, Bool.true_or, Bool.true_and]

-- an event the query can see is one the horizon reaches
theorem Retained.filter_eligible {agentId : String} {window t : Instant} {baseline : Nat}
    (h : b.Retained (t - window) es) :
    b.events.filter (SessionRepository.eligible ⟨agentId, .agent, none, window, t, baseline⟩) =
      es.filter (SessionRepository.eligible ⟨agentId, .agent, none, window, t, baseline⟩) := by
  have hreach : ∀ l : List SessionEvent,
      (l.filter (reaches (t - window))).filter
          (SessionRepository.eligible ⟨agentId, .agent, none, window, t, baseline⟩) =
        l.filter (SessionRepository.eligible ⟨agentId, .agent, none, window, t, baseline⟩) := by
    intro l
    rw [List.filter_filter]
    refine List.filter_congr fun e _ => ?_
    rw [eligible_agent, reaches, ← Bool.decide_and, decide_eq_decide]
    tauto
  rw [← hreach, h.kept, hreach]

theorem Logged.agentSequence_increasing (h : b.Logged es) (agentId : String) :
    (es.filter (fun e => e.agentId = agentId)).Pairwise
      (fun d e => d.agentSequence < e.agentSequence) := by
  rw [← List.pairwise_map (f := fun e : SessionEvent => e.agentSequence), h.agent agentId]
  exact List.pairwise_lt_range'

end SessionBackend

def SessionReply.event : Except SessionStoreError SessionReply → Option SessionEvent
  | .ok (.outcome (.event e)) => some e
  | _ => none

namespace SessionCall

variable {b : SessionBackend} {es : List SessionEvent} {horizon : Instant}

def recorded (h : List ((SessionCall × RowOrder) × Except SessionStoreError SessionReply)) :
    List SessionEvent :=
  h.filterMap (fun x => SessionReply.event x.2)

-- the calls of a history that only records, prunes, binds, ends and reads
def records : SessionCall → Prop
  | .request (.updateEventFinalDecision _ _ _) => False
  | _ => True

theorem event_map_none {x : Except SessionStoreError SessionOutcome}
    (h : ∀ e, x ≠ .ok (.event e)) : SessionReply.event (x.map .outcome) = none := by
  cases x with
  | error err => rfl
  | ok o =>
    cases o with
    | event e => exact absurd rfl (h e)
    | _ => rfl

theorem endSession_not_event (b : SessionBackend) (sessionId agentId : String) (now : Instant)
    (e : SessionEvent) : (b.endSession sessionId agentId now).2 ≠ .ok (.event e) := by
  simp only [SessionBackend.endSession, SessionBackend.ownership]
  repeat' split
  all_goals simp

theorem request_retained (h : b.Retained horizon es) (policy : DetectionRetentionPolicy)
    (order : RowOrder) (req : SessionRequest) (hrecords : (SessionCall.request req).records)
    (hevent : ∀ e, (req.serve (some policy) order b).2 = .ok (.event e) →
      e.timestamp - policy.totalRetentionSeconds ≤ horizon) :
    (req.serve (some policy) order b).1.Retained horizon
      (es ++ (SessionReply.event ((req.serve (some policy) order b).2.map .outcome)).toList) := by
  cases req with
  | createSession s =>
    obtain ⟨heffect, hcounting⟩ := b.createSession_log h.counting s
    simp only [SessionRequest.serve]
    rw [event_map_none (by cases (b.createSession s).2 <;> rintro e ⟨⟩), Option.toList_none,
      List.append_nil]
    exact h.silent heffect hcounting
  | bindOrValidate sessionId agentId now =>
    obtain ⟨heffect, hcounting⟩ := b.bindOrCreateSession_log h.counting sessionId agentId now
    simp only [SessionRequest.serve]
    rw [event_map_none (by cases (b.bindOrCreateSession sessionId agentId now).2 <;> rintro e ⟨⟩),
      Option.toList_none, List.append_nil]
    exact h.silent heffect hcounting
  | recordEvent e =>
    obtain ⟨heffect, hcounting⟩ := b.recordEvent_log h.counting e
    simp only [SessionRequest.serve] at hevent ⊢
    cases hr : b.recordEvent e with
    | mk b' reply =>
      rw [hr] at heffect hcounting hevent
      cases reply with
      | error err =>
        rw [event_map_none (by rintro e ⟨⟩), Option.toList_none, List.append_nil]
        exact h.silent heffect hcounting
      | ok recorded =>
        have hrecorded := h.change heffect hcounting trivial
        exact hrecorded.pruneExpired policy (hevent recorded rfl)
  | updateEventFinalDecision sessionId n decision => exact hrecords.elim
  | endSession sessionId agentId now =>
    simp only [SessionRequest.serve]
    rw [event_map_none (endSession_not_event b sessionId agentId now), Option.toList_none,
      List.append_nil]
    exact h.endSession sessionId agentId now
  | expireIdleSessions threshold now =>
    simp only [SessionRequest.serve]
    split
    · simpa [Except.map, SessionReply.event] using h
    · rw [event_map_none, Option.toList_none, List.append_nil]
      · exact h.expireAll threshold now _ []
      · intro e
        cases (SessionBackend.expireAll threshold now (b.listSessions order) [] b).2
          <;> simp [Except.map]

theorem serve_retained (h : b.Retained horizon es) (policy : DetectionRetentionPolicy)
    (c : SessionCall × RowOrder) (hrecords : c.1.records)
    (hprunes : ∀ now, c.1 = .pruneEvents now → now - policy.totalRetentionSeconds ≤ horizon)
    (hevent : ∀ e, SessionReply.event (serve (some policy) b c).2 = some e →
      e.timestamp - policy.totalRetentionSeconds ≤ horizon) :
    (serve (some policy) b c).1.Retained horizon
      (es ++ (SessionReply.event (serve (some policy) b c).2).toList) := by
  obtain ⟨call, order⟩ := c
  cases call with
  | request req =>
    apply request_retained h policy order req hrecords
    intro e he
    apply hevent e
    simp only [serve, he, Except.map, SessionReply.event]
  | getSession sessionId =>
    simp only [serve]
    split <;> simpa [SessionReply.event] using h
  | pruneEvents now =>
    simpa [serve, SessionReply.event] using h.pruneExpired policy (hprunes now rfl)
  | currentAgentSequence agentId => simpa [serve, SessionReply.event] using h
  | listEvents sessionId => simpa [serve, SessionReply.event] using h
  | listEligibleEvents query => simpa [serve, SessionReply.event] using h

theorem history_retained {rows : List String} (hb : b.Fresh rows)
    (policy : DetectionRetentionPolicy)
    {calls : List (SessionCall × RowOrder)} (hrecords : ∀ c ∈ calls, c.1.records)
    (hprunes : ∀ c ∈ calls, ∀ now, c.1 = .pruneEvents now →
      now - policy.totalRetentionSeconds ≤ horizon)
    (hevents : ∀ e ∈ recorded (Run.history (serve (some policy)) b calls),
      e.timestamp - policy.totalRetentionSeconds ≤ horizon) :
    (Run.final (serve (some policy)) b calls).Retained horizon
      (recorded (Run.history (serve (some policy)) b calls)) := by
  revert hevents
  apply Run.history_invariant (serve (some policy)) (fun h b =>
    (∀ e ∈ recorded h, e.timestamp - policy.totalRetentionSeconds ≤ horizon) →
      b.Retained horizon (recorded h))
  · intro _
    obtain ⟨hcounting, hlogged⟩ := b.logged_fresh hb
    refine ⟨hcounting, hlogged, ?_⟩
    rcases hb with rfl | rfl <;> rfl
  · intro pre c post heq ih hevents
    have hmem : c ∈ calls := by simp [heq]
    simp only [recorded, RepositoryCall.filterMap_snoc] at hevents ⊢
    apply serve_retained _ policy c (hrecords c hmem) (hprunes c hmem)
    · intro e he
      exact hevents e (List.mem_append_right _ (by simp [he]))
    · exact ih (fun e he => hevents e (List.mem_append_left _ he))

theorem retention_preserves_horizon (rows : List String) (b : SessionBackend) (hb : b.Fresh rows)
    (policy : DetectionRetentionPolicy) (calls : List (SessionCall × RowOrder))
    (hrecords : ∀ c ∈ calls, c.1.records) (t : Instant)
    (hlate : ∀ e ∈ recorded (Run.history (serve (some policy)) b calls),
      e.timestamp ≤ t + policy.lateArrivalGraceSeconds)
    (hprunes : ∀ c ∈ calls, ∀ now, c.1 = .pruneEvents now →
      now ≤ t + policy.lateArrivalGraceSeconds)
    (agentId : String) (baseline : Nat) (order : RowOrder) (visible : List SessionEvent)
    (hvisible : visible = (recorded (Run.history (serve (some policy)) b calls)).filter (fun e =>
      e.agentId = agentId ∧ baseline < e.agentSequence ∧
        t - policy.retentionWindowSeconds ≤ e.timestamp ∧ e.timestamp ≤ t)) :
    serve (some policy) (Run.final (serve (some policy)) b calls)
        (.listEligibleEvents ⟨agentId, .agent, none, policy.retentionWindowSeconds, t, baseline⟩,
          order) =
      (Run.final (serve (some policy)) b calls, .ok (.events visible)) ∧
      visible.Pairwise (fun d e => d.agentSequence < e.agentSequence) := by
  have hcut : ∀ now : Instant, now ≤ t + policy.lateArrivalGraceSeconds →
      now - policy.totalRetentionSeconds ≤ t - policy.retentionWindowSeconds := by
    intro now hnow
    rw [DetectionRetentionPolicy.totalRetentionSeconds]
    linarith
  have hretained := history_retained hb policy hrecords
    (fun c hc now hnow => hcut now (hprunes c hc now hnow)) (fun e he => hcut _ (hlate e he))
  have hsorted : visible.Pairwise (fun d e => d.agentSequence < e.agentSequence) := by
    refine (hretained.logged.agentSequence_increasing agentId).sublist ?_
    rw [hvisible]
    refine List.monotone_filter_right _ fun e he => ?_
    simp only [decide_eq_true_eq] at he ⊢
    exact he.1
  refine ⟨?_, hsorted⟩
  have hstored : (Run.final (serve (some policy)) b calls).events.filter (SessionRepository.eligible
      ⟨agentId, .agent, none, policy.retentionWindowSeconds, t, baseline⟩) = visible := by
    rw [hretained.filter_eligible, hvisible]
    exact List.filter_congr fun e _ => SessionBackend.eligible_agent agentId _ t baseline e
  simp only [serve, SessionBackend.listEligibleEvents_eq, hstored]
  rw [List.Pairwise.insertionSort_eq]
  exact hsorted.imp (fun h => h.le)

def window : DetectionRetentionPolicy := .fromDetectionWindow 10 5 (by decide) (by decide)

def lateCalls : List (SessionCall × RowOrder) :=
  [.request (.bindOrValidate "session-1" "agent-1" 0),
    .request (.recordEvent (RepositoryCall.denial 10)),
    .request (.recordEvent (RepositoryCall.denial 20)),
    .request (.recordEvent (RepositoryCall.denial 12)),
    .pruneEvents 25].map (fun c => (c, .asStored))

-- events of 10, 20 and 12, in this order, all seen from 20 with a window of 10
theorem retention_preserves_horizon_late :
    (serve (some window) (Run.final (serve (some window)) (.inMemory .empty) lateCalls)
      (.listEligibleEvents ⟨"agent-1", .agent, none, 10, 20, 0⟩, .asStored)).2 =
      .ok
        (.events (recorded (Run.history (serve (some window)) (.inMemory .empty) lateCalls))) := by
  have h := retention_preserves_horizon [] (.inMemory .empty) (.inl rfl) window lateCalls
    (by simp [lateCalls, records]) 20 (by decide +kernel)
    (by simp [lateCalls, window, DetectionRetentionPolicy.fromDetectionWindow]) "agent-1" 0
    .asStored (recorded (Run.history (serve (some window)) (.inMemory .empty) lateCalls))
    (by decide +kernel)
  exact congrArg Prod.snd h.1

end SessionCall

end AgentSecurityPlatform
