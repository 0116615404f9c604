import AgentSecurityPlatform.Session.Service

namespace AgentSecurityPlatform

namespace SessionRepository

variable {r r' : SessionRepository} {e recorded : SessionEvent}

def Known (r : SessionRepository) (sessionId : String) : Prop :=
  r.getTombstone sessionId = none → r.sessions.contains sessionId = true

structure Pending (events : List SessionEvent) (e : SessionEvent) : Prop where
  undecided : e.finalDecision = none
  last : ∃ before, events = before ++ [e] ∧
    ∀ x ∈ before, x.sessionId = e.sessionId → x.sequenceNumber ≠ e.sequenceNumber

theorem finalizeFirst_append {before after : List SessionEvent} {decision : Decision}
    (h : ∀ x ∈ before, x.sessionId = e.sessionId → x.sequenceNumber ≠ e.sequenceNumber)
    (hnone : e.finalDecision = none) :
    finalizeFirst e.sessionId e.sequenceNumber decision (before ++ e :: after) =
      .ok (before ++ { e with finalDecision := some decision } :: after) := by
  induction before with
  | nil => simp [finalizeFirst, hnone]
  | cons x before ih =>
    have hx : ¬ (x.sessionId = e.sessionId ∧ x.sequenceNumber = e.sequenceNumber) := by
      rintro ⟨hs, hn⟩
      exact h x (by simp) hs hn
    simp only [List.cons_append, finalizeFirst, if_neg hx]
    rw [ih (fun y hy => h y (by simp [hy]))]
    rfl

theorem updateEventFinalDecision_terminal {sessionId : String} {n : Nat} {decision : Decision}
    {t : TerminalSessionTombstone} (h : r.getTombstone sessionId = some t) :
    r.updateEventFinalDecision sessionId n decision =
      (r, .error (.terminal sessionId t.agentId t.agentId)) := by
  simp only [getTombstone] at h
  simp only [updateEventFinalDecision, h]

theorem updateEventFinalDecision_counters (r : SessionRepository) (sessionId : String) (n : Nat)
    (decision : Decision) :
    (r.updateEventFinalDecision sessionId n decision).1.sessions = r.sessions ∧
      (r.updateEventFinalDecision sessionId n decision).1.tombstones = r.tombstones ∧
      (r.updateEventFinalDecision sessionId n decision).1.sessionSequences = r.sessionSequences ∧
      (r.updateEventFinalDecision sessionId n decision).1.agentSequences = r.agentSequences := by
  unfold updateEventFinalDecision
  split
  · exact ⟨rfl, rfl, rfl, rfl⟩
  · split
    · exact ⟨rfl, rfl, rfl, rfl⟩
    · split <;> exact ⟨rfl, rfl, rfl, rfl⟩

theorem updateEventFinalDecision_pending (decision : Decision) (hp : Pending r.events e)
    (hk : r.Known e.sessionId) (hlive : r.getTombstone e.sessionId = none) :
    ∃ r', r.updateEventFinalDecision e.sessionId e.sequenceNumber decision = (r', .ok ()) ∧
      r'.events = r.events.dropLast ++ [{ e with finalDecision := some decision }] := by
  obtain ⟨before, hevents, hbefore⟩ := hp.last
  have hfirst : finalizeFirst e.sessionId e.sequenceNumber decision r.events =
      .ok (before ++ [{ e with finalDecision := some decision }]) := by
    rw [hevents]
    exact finalizeFirst_append hbefore hp.undecided
  have hcontains := hk hlive
  simp only [getTombstone] at hlive
  simp only [updateEventFinalDecision, hlive, hcontains, Bool.not_true,
    Bool.false_eq_true, if_false]
  split
  · rename_i err herr
    rw [hfirst] at herr
    cases herr
  · rename_i events hok
    rw [hfirst] at hok
    cases hok
    refine ⟨_, rfl, ?_⟩
    simp [hevents]

theorem pending_appendEvent (active : Session) (hnone : e.finalDecision = none) :
    Pending (r.appendEvent e active).1.events (r.appendEvent e active).2 := by
  refine ⟨hnone, r.events, rfl, ?_⟩
  intro x hx hs hn
  have hle := r.events_numbered x hx
  simp only [appendEvent] at hs hn
  rw [hs] at hle
  omega

theorem pending_pruneEvents {cutoff : Instant} (hp : Pending r.events e)
    (hc : cutoff ≤ e.timestamp) : Pending (r.pruneEvents cutoff).1.events e := by
  obtain ⟨before, hevents, hbefore⟩ := hp.last
  refine ⟨hp.undecided, before.filter (fun x => cutoff ≤ x.timestamp), ?_, ?_⟩
  · simp [pruneEvents, hevents, hc]
  · intro x hx
    exact hbefore x (List.mem_of_mem_filter hx)

theorem recordEvent_ok (h : r.recordEvent e = (r', .ok recorded)) :
    ∃ active, r.getTombstone e.sessionId = none ∧ r.sessions.get? e.sessionId = some active ∧
      active.agentId = e.agentId ∧ (r', recorded) = r.appendEvent e active := by
  unfold recordEvent at h
  split at h
  · cases h
  · rename_i htomb
    split at h
    · cases h
    · rename_i active hactive
      split_ifs at h with hagent hseq hpos
      · cases h
      · cases h
      · cases h
      · obtain ⟨hr, hrec⟩ := Prod.mk.inj h
        exact ⟨active, htomb, hactive, not_not.mp hagent,
          Prod.ext hr.symm (Except.ok.inj hrec).symm⟩

end SessionRepository

namespace SessionService

variable {r r' : SessionRepository} {e recorded : SessionEvent}
  {retention : Option DetectionRetentionPolicy}

theorem pruneEvents_sessions (retention : Option DetectionRetentionPolicy) (r : SessionRepository)
    (now : Instant) : (pruneEvents retention r now).sessions = r.sessions ∧
      (pruneEvents retention r now).tombstones = r.tombstones := by
  cases retention <;> exact ⟨rfl, rfl⟩

theorem recordEvent_pending (h : recordEvent retention r e = (r', .ok recorded))
    (hnone : e.finalDecision = none) :
    SessionRepository.Pending r'.events recorded ∧ r'.Known e.sessionId ∧
      recorded = { e with
        sequenceNumber := recorded.sequenceNumber
        agentSequence := recorded.agentSequence } := by
  unfold recordEvent at h
  split at h
  · cases h
  · rename_i r₁ rec₁ hrec
    simp only [Prod.mk.injEq, Except.ok.injEq] at h
    obtain ⟨rfl, rfl⟩ := h
    obtain ⟨active, htomb, hactive, howner, heq⟩ := SessionRepository.recordEvent_ok hrec
    obtain ⟨rfl, rfl⟩ := Prod.ext_iff.mp heq
    have hp := SessionRepository.pending_appendEvent (r := r) active hnone
    refine ⟨?_, ?_, rfl⟩
    · cases retention with
      | none => exact hp
      | some policy =>
        apply SessionRepository.pending_pruneEvents hp
        have hw := policy.window_pos
        have hg := policy.grace_nonneg
        change e.timestamp - (policy.retentionWindowSeconds + policy.lateArrivalGraceSeconds) ≤
          e.timestamp
        linarith
    · intro _
      rw [(pruneEvents_sessions _ _ _).1]
      simp [SessionRepository.appendEvent, Dict.contains]

theorem bindOrValidate_cases (r : SessionRepository) (sessionId agentId : String) (now : Instant) :
    (bindOrValidate r sessionId agentId now).1.events = r.events ∧
    (∀ s, (bindOrValidate r sessionId agentId now).2 = .ok s →
      (bindOrValidate r sessionId agentId now).1.Known sessionId) := by
  unfold bindOrValidate SessionRepository.bindOrCreateSession
  split
  · exact ⟨rfl, by simp⟩
  · split
    · exact ⟨rfl, fun s _ _ => by simp [SessionRepository.withSessions, Dict.contains]⟩
    · split
      · exact ⟨rfl, by simp⟩
      · exact ⟨rfl, fun s _ _ => by simp [SessionRepository.withSessions, Dict.contains]⟩

end SessionService

namespace SessionRepository

variable {r r' : SessionRepository}

structure Terminates (r r' : SessionRepository) : Prop where
  events : r'.events = r.events
  known : ∀ sessionId, r.Known sessionId → r'.Known sessionId

theorem Terminates.refl (r : SessionRepository) : Terminates r r := ⟨rfl, fun _ h => h⟩

theorem terminalizeSession_terminates (r : SessionRepository) (sessionId : String)
    (t : TerminalSessionTombstone) : Terminates r (r.terminalizeSession sessionId t).1 := by
  unfold terminalizeSession
  split
  · exact .refl r
  · split
    · exact .refl r
    · refine ⟨rfl, ?_⟩
      intro k hk hnone
      simp only [getTombstone, Dict.get?_set] at hnone
      split at hnone
      · cases hnone
      · rename_i hne
        have := hk hnone
        simpa [Dict.contains, hne] using this

end SessionRepository

end AgentSecurityPlatform
