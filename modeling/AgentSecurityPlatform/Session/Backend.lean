import AgentSecurityPlatform.Library.Run
import AgentSecurityPlatform.Persistence.SessionAdapters

namespace AgentSecurityPlatform

inductive SessionBackend where
  | inMemory (r : SessionRepository)
  | sql (q : SqlSessionRepository)

namespace SessionBackend

def lift {α : Type} (x : SessionRepository × Except SessionError α) :
    SessionBackend × Except SessionStoreError α :=
  (.inMemory x.1, x.2.mapError .refused)

def liftSql {α : Type} (x : SqlSessionRepository × α) : SessionBackend × α := (.sql x.1, x.2)

def getSession : SessionBackend → String → Option Session
  | .inMemory r, sessionId => r.getSession sessionId
  | .sql q, sessionId => q.getSession sessionId

def getTombstone : SessionBackend → String → Option TerminalSessionTombstone
  | .inMemory r, sessionId => r.getTombstone sessionId
  | .sql q, sessionId => q.getTombstone sessionId

def listSessions : SessionBackend → RowOrder → List Session
  | .inMemory r, _ => r.listSessions
  | .sql q, order => q.listSessions order

def createSession : SessionBackend → Session → SessionBackend × Except SessionStoreError Session
  | .inMemory r, s => lift (r.createSession s)
  | .sql q, s => liftSql (q.createSession s)

def bindOrCreateSession : SessionBackend → String → String → Instant →
    SessionBackend × Except SessionStoreError Session
  | .inMemory r, sessionId, agentId, now => lift (r.bindOrCreateSession sessionId agentId now)
  | .sql q, sessionId, agentId, now => liftSql (q.bindOrCreateSession sessionId agentId now)

def terminalizeSession : SessionBackend → String → TerminalSessionTombstone → SessionBackend × Bool
  | .inMemory r, sessionId, t => ((r.terminalizeSession sessionId t).map .inMemory id)
  | .sql q, sessionId, t => liftSql (q.terminalizeSession sessionId t)

def recordEvent : SessionBackend → SessionEvent →
    SessionBackend × Except SessionStoreError SessionEvent
  | .inMemory r, e => lift (r.recordEvent e)
  | .sql q, e => liftSql (q.recordEvent e)

def updateEventFinalDecision : SessionBackend → String → Nat → Decision →
    SessionBackend × Except SessionStoreError Unit
  | .inMemory r, sessionId, n, decision => lift (r.updateEventFinalDecision sessionId n decision)
  | .sql q, sessionId, n, decision => liftSql (q.updateEventFinalDecision sessionId n decision)

def pruneEvents : SessionBackend → Instant → SessionBackend × Nat
  | .inMemory r, cutoff => (r.pruneEvents cutoff).map .inMemory id
  | .sql q, cutoff => liftSql (q.pruneEvents cutoff)

def currentAgentSequence : SessionBackend → String → Nat
  | .inMemory r, agentId => r.currentAgentSequence agentId
  | .sql q, agentId => q.currentAgentSequence agentId

def listEvents : SessionBackend → String → List SessionEvent
  | .inMemory r, sessionId => r.listEvents sessionId
  | .sql q, sessionId => q.listEvents sessionId

def listEligibleEvents : SessionBackend → HorizonQuery → List SessionEvent
  | .inMemory r, query => r.listEligibleEvents query
  | .sql q, query => q.listEligibleEvents query

def events : SessionBackend → List SessionEvent
  | .inMemory r => r.events
  | .sql q => q.eventRows

def Fresh (rows : List String) (b : SessionBackend) : Prop :=
  b = .inMemory .empty ∨ b = .sql ⟨rows, .empty, .empty, []⟩

def View (rows : List String) : SessionBackend → SessionRepository → Prop
  | .inMemory r, m => r = m
  | .sql q, m => m.Mirrors rows q

-- a call either fails without a trace, or does what the in-memory adapter does
inductive Follows {α : Type} (rows : List String) (b : SessionBackend)
    (y : SessionRepository × Except SessionError α) :
    SessionBackend × Except SessionStoreError α → Prop where
  | failed (e : SessionStoreError) : Follows rows b y (b, .error e)
  | done (b' : SessionBackend) (h : b'.View rows y.1) :
      Follows rows b y (b', y.2.mapError .refused)

variable {rows : List String} {b : SessionBackend} {m : SessionRepository}

theorem Follows.of_alike {α : Type} {q : SqlSessionRepository}
    {x : SessionRepository × Except SessionError α}
    {y : SqlSessionRepository × Except SessionStoreError α} (h : SessionRepository.Alike rows x y) :
    Follows rows (.sql q) x (liftSql y) := by
  obtain ⟨q', reply⟩ := y
  have hreply : reply = x.2.mapError .refused := h.reply
  subst hreply
  exact .done _ h.next

theorem recordEvent_refused {e : SessionEvent} {err : SessionStoreError}
    (h : (b.recordEvent e).2 = .error err) : (b.recordEvent e).1 = b := by
  cases b with
  | inMemory r =>
    cases hr : r.recordEvent e with
    | mk r' reply =>
      cases reply with
      | ok recorded => simp [recordEvent, lift, hr, Except.mapError] at h
      | error err' =>
        have hsame := SessionRepository.recordEvent_error hr
        simp [recordEvent, lift, hr, hsame]
  | sql q =>
    rcases q.recordEvent_cases e with ⟨err', hq⟩ | ⟨row, -, -, -, hq⟩
    · simp [recordEvent, liftSql, hq]
    · simp [recordEvent, liftSql, hq] at h

theorem updateEventFinalDecision_refused {sessionId : String} {n : Nat} {decision : Decision}
    {err : SessionStoreError}
    (h : (b.updateEventFinalDecision sessionId n decision).2 = .error err) :
    (b.updateEventFinalDecision sessionId n decision).1 = b := by
  cases b with
  | inMemory r =>
    cases hr : r.updateEventFinalDecision sessionId n decision with
    | mk r' reply =>
      cases reply with
      | ok u => simp [updateEventFinalDecision, lift, hr, Except.mapError] at h
      | error err' =>
        have hsame := SessionRepository.updateEventFinalDecision_error hr
        simp [updateEventFinalDecision, lift, hr, hsame]
  | sql q =>
    rcases q.updateEventFinalDecision_cases sessionId n decision with ⟨err', hq⟩ | ⟨events, -, hq⟩
    · simp [updateEventFinalDecision, liftSql, hq]
    · simp [updateEventFinalDecision, liftSql, hq] at h

theorem View.getSession (h : b.View rows m) (sessionId : String) :
    b.getSession sessionId = m.getSession sessionId := by
  cases b with
  | inMemory r =>
    cases h
    rfl
  | sql q => exact SessionRepository.Mirrors.getSession h sessionId

theorem View.getTombstone (h : b.View rows m) (sessionId : String) :
    b.getTombstone sessionId = m.getTombstone sessionId := by
  cases b with
  | inMemory r =>
    cases h
    rfl
  | sql q => exact SessionRepository.Mirrors.getTombstone h sessionId

theorem View.listSessions (h : b.View rows m) (order : RowOrder) :
    (b.listSessions order).Perm m.listSessions := by
  cases b with
  | inMemory r =>
    cases h
    exact .refl _
  | sql q => exact SessionRepository.Mirrors.listSessions h order

theorem View.events (h : b.View rows m) : b.events = m.events := by
  cases b with
  | inMemory r =>
    cases h
    rfl
  | sql q => exact SessionRepository.Mirrors.events h

theorem View.createSession (h : b.View rows m) (s : Session) :
    Follows rows b (m.createSession s) (b.createSession s) := by
  cases b with
  | inMemory r =>
    cases h
    exact .done _ rfl
  | sql q =>
    have hm : m.Mirrors rows q := h
    by_cases hknown : q.sessionRows.get? s.sessionId = none → s.agentId ∈ rows
    · exact .of_alike (hm.createSession hknown)
    · rw [Classical.not_imp, ← hm.agents] at hknown
      simp only [createSession, SqlSessionRepository.createSession, hknown.1,
        SqlSessionRepository.insertSession, if_pos hknown.2]
      exact .failed _

theorem View.bindOrCreateSession (h : b.View rows m) (sessionId agentId : String) (now : Instant) :
    Follows rows b (m.bindOrCreateSession sessionId agentId now)
      (b.bindOrCreateSession sessionId agentId now) := by
  cases b with
  | inMemory r =>
    cases h
    exact .done _ rfl
  | sql q =>
    have hm : m.Mirrors rows q := h
    by_cases hknown : q.sessionRows.get? sessionId = none → agentId ∈ rows
    · exact .of_alike (hm.bindOrCreateSession hknown now)
    · rw [Classical.not_imp, ← hm.agents] at hknown
      simp only [bindOrCreateSession, SqlSessionRepository.bindOrCreateSession, hknown.1,
        SqlSessionRepository.insertSession, if_pos hknown.2]
      exact .failed _

theorem View.recordEvent (h : b.View rows m) (e : SessionEvent) :
    Follows rows b (m.recordEvent e) (b.recordEvent e) := by
  cases b with
  | inMemory r =>
    cases h
    exact .done _ rfl
  | sql q =>
    have hm : m.Mirrors rows q := h
    by_cases hseq : e.sequenceNumber = 0
    · by_cases hpos : e.agentSequence = 0
      · exact .of_alike (hm.recordEvent hseq hpos)
      · simp only [recordEvent, SqlSessionRepository.recordEvent, if_neg (not_not.mpr hseq),
          if_pos hpos]
        exact .failed _
    · simp only [recordEvent, SqlSessionRepository.recordEvent, if_pos hseq]
      exact .failed _

theorem View.updateEventFinalDecision (h : b.View rows m) (sessionId : String) (n : Nat)
    (decision : Decision) : Follows rows b (m.updateEventFinalDecision sessionId n decision)
      (b.updateEventFinalDecision sessionId n decision) := by
  cases b with
  | inMemory r =>
    cases h
    exact .done _ rfl
  | sql q =>
    exact .of_alike (SessionRepository.Mirrors.updateEventFinalDecision h sessionId n decision)

theorem View.pruneEvents (h : b.View rows m) (cutoff : Instant) :
    (b.pruneEvents cutoff).2 = (m.pruneEvents cutoff).2 ∧
      (b.pruneEvents cutoff).1.View rows (m.pruneEvents cutoff).1 := by
  cases b with
  | inMemory r =>
    cases h
    exact ⟨rfl, rfl⟩
  | sql q => exact SessionRepository.Mirrors.pruneEvents h cutoff

theorem View.terminalizeSession (h : b.View rows m) {sessionId : String}
    {t : TerminalSessionTombstone} (hid : t.sessionId = sessionId)
    (howner : ∀ s, m.sessions.get? sessionId = some s → t.agentId = s.agentId) :
    (b.terminalizeSession sessionId t).2 = (m.terminalizeSession sessionId t).2 ∧
      (b.terminalizeSession sessionId t).1.View rows (m.terminalizeSession sessionId t).1 := by
  cases b with
  | inMemory r =>
    cases h
    exact ⟨rfl, rfl⟩
  | sql q => exact SessionRepository.Mirrors.terminalizeSession h hid howner

end SessionBackend

inductive SessionRequest where
  | createSession (s : Session)
  | bindOrValidate (sessionId agentId : String) (now : Instant)
  | recordEvent (e : SessionEvent)
  | updateEventFinalDecision (sessionId : String) (sequenceNumber : Nat) (finalDecision : Decision)
  | endSession (sessionId agentId : String) (now : Instant)
  | expireIdleSessions (idleThresholdSeconds now : Instant)
  deriving DecidableEq, Repr

inductive SessionOutcome where
  | session (s : Session)
  | event (e : SessionEvent)
  | finalized
  | ended
  | expired (sessionIds : List String)
  deriving DecidableEq, Repr

inductive SessionWork where
  | start (req : SessionRequest)
  | pruning (recorded : SessionEvent)
  | endChecked (sessionId agentId : String) (now : Instant)
  | endFound (sessionId agentId : String) (tombstone : TerminalSessionTombstone)
  | endLost (sessionId agentId : String)
  | expiring (idleThresholdSeconds now : Instant) (remaining : List Session)
      (expiredIds : List String)
  | done (result : Except SessionStoreError SessionOutcome)

abbrev SessionPool := Pool SessionBackend SessionWork

namespace SessionWork

theorem construct_eq_some {sessionId agentId : String} {now : Instant} {reason : TerminalReason}
    {t : TerminalSessionTombstone}
    (h : TerminalSessionTombstone.construct sessionId agentId now reason = some t) :
    t.sessionId = sessionId ∧ t.agentId = agentId ∧ t.terminatedAt = now := by
  simp only [TerminalSessionTombstone.construct] at h
  split at h
  · cases h
    exact ⟨rfl, rfl, rfl⟩
  · cases h

def finish {α : Type} (f : α → SessionOutcome)
    (x : SessionBackend × Except SessionStoreError α) : SessionBackend × SessionWork :=
  (x.1, .done (x.2.map f))

def refuse (e : SessionError) : SessionWork := .done (.error (.refused e))

def ownedBy (sessionId owner agentId : String) : SessionWork :=
  if owner ≠ agentId then refuse (.binding sessionId owner agentId) else .done (.ok .ended)

-- one repository call of a SessionService method, with what follows it up to the next
def advance (retention : Option DetectionRetentionPolicy) (order : RowOrder) (b : SessionBackend) :
    SessionWork → SessionBackend × SessionWork
  | .start (.createSession s) => finish .session (b.createSession s)
  | .start (.bindOrValidate sessionId agentId now) =>
    finish .session (b.bindOrCreateSession sessionId agentId now)
  | .start (.recordEvent e) =>
    match b.recordEvent e with
    | (b', .error err) => (b', .done (.error err))
    | (b', .ok recorded) => (b', .pruning recorded)
  | .start (.updateEventFinalDecision sessionId n decision) =>
    finish (fun _ => .finalized) (b.updateEventFinalDecision sessionId n decision)
  | .start (.endSession sessionId agentId now) =>
    match b.getTombstone sessionId with
    | some t => (b, ownedBy sessionId t.agentId agentId)
    | none => (b, .endChecked sessionId agentId now)
  | .start (.expireIdleSessions threshold now) =>
    if threshold ≤ 0 then (b, refuse .invalidThreshold)
    else (b, .expiring threshold now (b.listSessions order) [])
  | .pruning recorded =>
    match retention with
    | none => (b, .done (.ok (.event recorded)))
    | some policy => ((b.pruneEvents (recorded.timestamp - policy.totalRetentionSeconds)).1,
        .done (.ok (.event recorded)))
  | .endChecked sessionId agentId now =>
    match b.getSession sessionId with
    | none => (b, refuse (.notFound sessionId))
    | some existing =>
      if existing.agentId ≠ agentId then
        (b, refuse (.binding sessionId existing.agentId agentId))
      else
        match TerminalSessionTombstone.construct sessionId agentId now .explicitEnd with
        | none => (b, refuse .validation)
        | some t => (b, .endFound sessionId agentId t)
  | .endFound sessionId agentId t =>
    match b.terminalizeSession sessionId t with
    | (b', true) => (b', .done (.ok .ended))
    | (b', false) => (b', .endLost sessionId agentId)
  | .endLost sessionId agentId =>
    match b.getTombstone sessionId with
    | some t => (b, ownedBy sessionId t.agentId agentId)
    | none => (b, refuse (.notFound sessionId))
  | .expiring _ _ [] expiredIds => (b, .done (.ok (.expired expiredIds)))
  | .expiring threshold now (s :: remaining) expiredIds =>
    if threshold ≤ now - s.lastActivityAt then
      match TerminalSessionTombstone.construct s.sessionId s.agentId now .idleTimeout with
      | none => (b, refuse .validation)
      | some t =>
        match b.terminalizeSession s.sessionId t with
        | (b', true) => (b', .expiring threshold now remaining (expiredIds ++ [s.sessionId]))
        | (b', false) => (b', .expiring threshold now remaining expiredIds)
    else (b, .expiring threshold now remaining expiredIds)
  | .done result => (b, .done result)

def step (retention : Option DetectionRetentionPolicy) (order : RowOrder) (b : SessionBackend)
    (w : SessionWork) : Option (SessionBackend × SessionWork) :=
  match w with
  | .done _ => none
  | w => some (w.advance retention order b)

-- end_session or expire_idle_sessions, at any point
def ends : SessionWork → Bool
  | .start (.endSession ..) => true
  | .start (.expireIdleSessions ..) => true
  | .start _ => false
  | .pruning _ => false
  | _ => true

theorem ends_ownedBy (sessionId owner agentId : String) :
    (ownedBy sessionId owner agentId).ends = true := by
  unfold ownedBy
  split <;> rfl

theorem advance_terminates (retention : Option DetectionRetentionPolicy) (order : RowOrder)
    (r : SessionRepository) {w : SessionWork} (hw : w.ends = true) :
    ∃ r' w', w.advance retention order (.inMemory r) = (.inMemory r', w') ∧ w'.ends = true ∧
      SessionRepository.Terminates r r' := by
  have hterminalize (sessionId : String) (t : TerminalSessionTombstone) :
      SessionBackend.terminalizeSession (.inMemory r) sessionId t =
        (.inMemory (r.terminalizeSession sessionId t).1, (r.terminalizeSession sessionId t).2) :=
          rfl
  cases w with
  | start req =>
    cases req with
    | endSession sessionId agentId now =>
      simp only [advance]
      split
      · exact ⟨r, _, rfl, ends_ownedBy .., .refl r⟩
      · exact ⟨r, _, rfl, rfl, .refl r⟩
    | expireIdleSessions threshold now =>
      simp only [advance]
      split <;> exact ⟨r, _, rfl, rfl, .refl r⟩
    | _ => cases hw
  | pruning recorded => cases hw
  | endChecked sessionId agentId now =>
    simp only [advance]
    split
    · exact ⟨r, _, rfl, rfl, .refl r⟩
    · split
      · exact ⟨r, _, rfl, rfl, .refl r⟩
      · split <;> exact ⟨r, _, rfl, rfl, .refl r⟩
  | endFound sessionId agentId t =>
    have hr := r.terminalizeSession_terminates sessionId t
    simp only [advance, hterminalize]
    cases (r.terminalizeSession sessionId t).2 <;> exact ⟨_, _, rfl, rfl, hr⟩
  | endLost sessionId agentId =>
    simp only [advance]
    split
    · exact ⟨r, _, rfl, ends_ownedBy .., .refl r⟩
    · exact ⟨r, _, rfl, rfl, .refl r⟩
  | expiring threshold now remaining expiredIds =>
    cases remaining with
    | nil => exact ⟨r, _, rfl, rfl, .refl r⟩
    | cons s remaining =>
      simp only [advance]
      split
      · split
        · exact ⟨r, _, rfl, rfl, .refl r⟩
        · rename_i t _
          have hr := r.terminalizeSession_terminates s.sessionId t
          simp only [hterminalize]
          cases (r.terminalizeSession s.sessionId t).2 <;> exact ⟨_, _, rfl, rfl, hr⟩
      · exact ⟨r, _, rfl, rfl, .refl r⟩
  | done result => exact ⟨r, _, rfl, rfl, .refl r⟩

def stepInMemory (retention : Option DetectionRetentionPolicy) (r : SessionRepository)
    (w : SessionWork) : Option (SessionRepository × SessionWork) :=
  match w.step retention .asStored (.inMemory r) with
  | some (.inMemory r', w') => some (r', w')
  | _ => none

theorem stepInMemory_terminates {retention : Option DetectionRetentionPolicy}
    {r r' : SessionRepository} {w w' : SessionWork} (hw : w.ends = true)
    (h : w.stepInMemory retention r = some (r', w')) :
    w'.ends = true ∧ SessionRepository.Terminates r r' := by
  obtain ⟨r₁, w₁, hadvance, hends, hterminates⟩ := advance_terminates retention .asStored r hw
  have hstep : w.step retention .asStored (.inMemory r) = some (.inMemory r₁, w₁) ∨
      w.step retention .asStored (.inMemory r) = none := by
    cases w with
    | done result => exact .inr rfl
    | _ => exact .inl (congrArg some hadvance)
  rcases hstep with hstep | hstep
  · simp only [stepInMemory, hstep] at h
    cases h
    exact ⟨hends, hterminates⟩
  · simp only [stepInMemory, hstep] at h
    cases h

end SessionWork

end AgentSecurityPlatform
