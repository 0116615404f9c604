import AgentSecurityPlatform.Session.EventLog
import AgentSecurityPlatform.Persistence.Columns

namespace AgentSecurityPlatform

def TerminalReason.value : TerminalReason → String
  | .explicitEnd => "EXPLICIT_END"
  | .idleTimeout => "IDLE_TIMEOUT"

def TerminalReason.ofValue : String → Option TerminalReason :=
  parseValue [.explicitEnd, .idleTimeout] value

theorem TerminalReason.ofValue_value (r : TerminalReason) : ofValue r.value = some r := by
  cases r <;> rfl

inductive SessionStoreError where
  | integrity
  | refused (e : SessionError)
  deriving DecidableEq, Repr

-- a row turns TERMINAL in terminalize_session only, which writes ended_at and ended_reason with it
inductive SessionStatus where
  | active
  | terminal (endedAt : Instant) (endedReason : String)
  deriving DecidableEq, Repr

structure SessionRow where
  agentId : String
  status : SessionStatus
  nextSessionSequence : Nat
  createdAt : Instant
  lastActivityAt : Instant
  deriving DecidableEq, Repr

def SessionRow.session (sessionId : String) (row : SessionRow) : Session :=
  ⟨sessionId, row.agentId, row.createdAt, row.lastActivityAt⟩

-- the rows of a SELECT without ORDER BY, in whatever order the database returns them
structure RowOrder where
  scan : List Session → List Session
  perm : ∀ rows, (scan rows).Perm rows

def RowOrder.asStored : RowOrder := ⟨id, fun _ => .refl _⟩

structure SqlSessionRepository where
  agentRows : List String
  sessionRows : Dict String SessionRow
  counterRows : Dict String Nat
  eventRows : List SessionEvent

namespace SqlSessionRepository

def getSession (q : SqlSessionRepository) (sessionId : String) : Option Session :=
  match q.sessionRows.get? sessionId with
  | none => none
  | some row =>
    match row.status with
    | .active => some (row.session sessionId)
    | .terminal _ _ => none

def getTombstone (q : SqlSessionRepository) (sessionId : String) :
    Option TerminalSessionTombstone :=
  match q.sessionRows.get? sessionId with
  | none => none
  | some row =>
    match row.status with
    | .active => none
    | .terminal endedAt endedReason =>
      TerminalSessionTombstone.construct sessionId row.agentId endedAt
        ((TerminalReason.ofValue endedReason).getD .explicitEnd)

def activeSessions (q : SqlSessionRepository) : List Session :=
  (q.sessionRows.entries.filter (fun e => e.2.status = .active)).map (fun e => e.2.session e.1)

def listSessions (q : SqlSessionRepository) (order : RowOrder) : List Session :=
  order.scan q.activeSessions

def insertSession (q : SqlSessionRepository) (s : Session) :
    SqlSessionRepository × Except SessionStoreError Session :=
  if s.agentId ∉ q.agentRows then (q, .error .integrity)
  else
    let row : SessionRow := ⟨s.agentId, .active, 1, s.startedAt, s.lastActivityAt⟩
    ({ q with sessionRows := q.sessionRows.set s.sessionId row }, .ok s)

def createSession (q : SqlSessionRepository) (s : Session) :
    SqlSessionRepository × Except SessionStoreError Session :=
  match q.sessionRows.get? s.sessionId with
  | some row =>
    match row.status with
    | .terminal _ _ => (q, .error (.refused (.terminal s.sessionId row.agentId s.agentId)))
    | .active => (q, .error (.refused (.alreadyExists s.sessionId)))
  | none => q.insertSession s

def bindOrCreateSession (q : SqlSessionRepository) (sessionId agentId : String) (now : Instant) :
    SqlSessionRepository × Except SessionStoreError Session :=
  match q.sessionRows.get? sessionId with
  | some row =>
    match row.status with
    | .terminal _ _ => (q, .error (.refused (.terminal sessionId row.agentId agentId)))
    | .active =>
      if row.agentId ≠ agentId then
        (q, .error (.refused (.binding sessionId row.agentId agentId)))
      else
        let touched := { row with lastActivityAt := now }
        ({ q with sessionRows := q.sessionRows.set sessionId touched },
          .ok (touched.session sessionId))
  | none => q.insertSession ⟨sessionId, agentId, now, now⟩

def terminalizeSession (q : SqlSessionRepository) (sessionId : String)
    (tombstone : TerminalSessionTombstone) : SqlSessionRepository × Bool :=
  match q.sessionRows.get? sessionId with
  | none => (q, false)
  | some row =>
    match row.status with
    | .terminal _ _ => (q, false)
    | .active =>
      let ended := { row with
        status := .terminal tombstone.terminatedAt tombstone.terminalReason.value }
      ({ q with sessionRows := q.sessionRows.set sessionId ended }, true)

-- the two unique constraints of session_events, and the foreign key of the agent's counter row
def Rejects (q : SqlSessionRepository) (e : SessionEvent) : Prop :=
  (∃ d ∈ q.eventRows, d.sessionId = e.sessionId ∧ d.sequenceNumber = e.sequenceNumber) ∨
    (∃ d ∈ q.eventRows, d.agentId = e.agentId ∧ d.agentSequence = e.agentSequence) ∨
    e.agentId ∉ q.agentRows

instance (q : SqlSessionRepository) (e : SessionEvent) : Decidable (Rejects q e) :=
  inferInstanceAs (Decidable (_ ∨ _ ∨ _))

def nextAgentSequence (q : SqlSessionRepository) (agentId : String) : Nat :=
  match q.counterRows.get? agentId with
  | none => 1
  | some current => current + 1

def persisted (q : SqlSessionRepository) (e : SessionEvent) (row : SessionRow) : SessionEvent :=
  { e with
    sequenceNumber := row.nextSessionSequence
    agentSequence := q.nextAgentSequence e.agentId }

def appendEvent (q : SqlSessionRepository) (e : SessionEvent) (row : SessionRow) :
    SqlSessionRepository :=
  { q with
    sessionRows := q.sessionRows.set e.sessionId { row with
      nextSessionSequence := row.nextSessionSequence + 1
      lastActivityAt := e.timestamp }
    counterRows := q.counterRows.set e.agentId (q.nextAgentSequence e.agentId)
    eventRows := q.eventRows ++ [q.persisted e row] }

def recordEvent (q : SqlSessionRepository) (e : SessionEvent) :
    SqlSessionRepository × Except SessionStoreError SessionEvent :=
  if e.sequenceNumber ≠ 0 then
    (q, .error (.refused (.suppliedSequenceNumber e.sequenceNumber)))
  else if e.agentSequence ≠ 0 then
    (q, .error (.refused (.suppliedAgentSequence e.agentSequence)))
  else
    match q.sessionRows.get? e.sessionId with
    | none => (q, .error (.refused (.notFound e.sessionId)))
    | some row =>
      match row.status with
      | .terminal _ _ => (q, .error (.refused (.terminal e.sessionId row.agentId e.agentId)))
      | .active =>
        if row.agentId ≠ e.agentId then
          (q, .error (.refused (.binding e.sessionId row.agentId e.agentId)))
        else if Rejects q (q.persisted e row) then (q, .error .integrity)
        else (q.appendEvent e row, .ok (q.persisted e row))

theorem recordEvent_cases (q : SqlSessionRepository) (e : SessionEvent) :
    (∃ err, q.recordEvent e = (q, .error err)) ∨
      ∃ row, q.sessionRows.get? e.sessionId = some row ∧ row.status = .active ∧
        row.agentId = e.agentId ∧
          q.recordEvent e = (q.appendEvent e row, .ok (q.persisted e row)) := by
  simp only [recordEvent]
  split
  · exact .inl ⟨_, rfl⟩
  · split
    · exact .inl ⟨_, rfl⟩
    · split
      · exact .inl ⟨_, rfl⟩
      · rename_i row hrow
        split
        · exact .inl ⟨_, rfl⟩
        · rename_i hstatus
          split
          · exact .inl ⟨_, rfl⟩
          · rename_i howner
            split
            · exact .inl ⟨_, rfl⟩
            · exact .inr ⟨row, hrow, hstatus, not_not.mp howner, rfl⟩

def listEligibleEvents (q : SqlSessionRepository) (query : HorizonQuery) : List SessionEvent :=
  (q.eventRows.filter (SessionRepository.eligible query)).insertionSort
    (fun d e => SessionRepository.horizonKey d query.scope ≤
      SessionRepository.horizonKey e query.scope)

def listEvents (q : SqlSessionRepository) (sessionId : String) : List SessionEvent :=
  (q.eventRows.filter (fun e => e.sessionId = sessionId)).insertionSort (fun d e =>
    d.timestamp < e.timestamp ∨ (d.timestamp = e.timestamp ∧ d.sequenceNumber ≤ e.sequenceNumber))

def pruneEvents (q : SqlSessionRepository) (cutoff : Instant) : SqlSessionRepository × Nat :=
  let deleted := q.eventRows.filter (fun e => e.timestamp < cutoff)
  ({ q with eventRows := q.eventRows.filter (fun e => ¬ e.timestamp < cutoff) }, deleted.length)

def currentAgentSequence (q : SqlSessionRepository) (agentId : String) : Nat :=
  (q.counterRows.get? agentId).getD 0

-- the event row is unique in (session_id, sequence_number), so the first match is the one selected
def updateEventFinalDecision (q : SqlSessionRepository) (sessionId : String) (sequenceNumber : Nat)
    (finalDecision : Decision) : SqlSessionRepository × Except SessionStoreError Unit :=
  match q.sessionRows.get? sessionId with
  | none => (q, .error (.refused (.notFound sessionId)))
  | some row =>
    match row.status with
    | .terminal _ _ => (q, .error (.refused (.terminal sessionId row.agentId row.agentId)))
    | .active =>
      match SessionRepository.finalizeFirst sessionId sequenceNumber finalDecision q.eventRows with
      | .error e => (q, .error (.refused e))
      | .ok eventRows => ({ q with eventRows }, .ok ())

theorem updateEventFinalDecision_cases (q : SqlSessionRepository) (sessionId : String) (n : Nat)
    (decision : Decision) :
    (∃ err, q.updateEventFinalDecision sessionId n decision = (q, .error err)) ∨
      ∃ eventRows, SessionRepository.finalizeFirst sessionId n decision q.eventRows =
        .ok eventRows ∧
        q.updateEventFinalDecision sessionId n decision = ({ q with eventRows }, .ok ()) := by
  simp only [updateEventFinalDecision]
  split
  · exact .inl ⟨_, rfl⟩
  · split
    · exact .inl ⟨_, rfl⟩
    · split
      · exact .inl ⟨_, rfl⟩
      · rename_i eventRows hok
        exact .inr ⟨eventRows, hok, rfl⟩

end SqlSessionRepository

namespace SessionRepository

theorem recordEvent_error {r r' : SessionRepository} {e : SessionEvent} {err : SessionError}
    (h : r.recordEvent e = (r', .error err)) : r' = r := by
  simp only [recordEvent] at h
  split at h
  · cases h
    rfl
  · split at h
    · cases h
      rfl
    · split_ifs at h
      · cases h
        rfl
      · cases h
        rfl
      · cases h
        rfl
      · cases h

theorem updateEventFinalDecision_error {r r' : SessionRepository} {sessionId : String} {n : Nat}
    {decision : Decision} {err : SessionError}
    (h : r.updateEventFinalDecision sessionId n decision = (r', .error err)) : r' = r := by
  simp only [updateEventFinalDecision] at h
  split at h
  · cases h
    rfl
  · split at h
    · cases h
      rfl
    · split at h
      · cases h
        rfl
      · cases h

variable {rows : List String} {m : SessionRepository} {q : SqlSessionRepository}

inductive RowView (sessionId : String) :
    Option Session → Option TerminalSessionTombstone → Option SessionRow → Prop where
  | absent : RowView sessionId none none none
  | live (row : SessionRow) (hstatus : row.status = .active) :
      RowView sessionId (some (row.session sessionId)) none (some row)
  | dead (t : TerminalSessionTombstone) (row : SessionRow)
      (hstatus : row.status = .terminal t.terminatedAt t.terminalReason.value)
      (howner : row.agentId = t.agentId) (hid : t.sessionId = sessionId) :
      RowView sessionId none (some t) (some row)

-- one row stands for the session or its tombstone, and the counters count alike
structure Mirrors (rows : List String) (m : SessionRepository) (q : SqlSessionRepository) :
    Prop where
  agents : q.agentRows = rows
  row : ∀ sessionId, RowView sessionId (m.sessions.get? sessionId) (m.tombstones.get? sessionId)
    (q.sessionRows.get? sessionId)
  numbered : ∀ sessionId row, q.sessionRows.get? sessionId = some row →
    row.nextSessionSequence = m.sessionSequences.getD sessionId 0 + 1
  unnumbered : ∀ sessionId, q.sessionRows.get? sessionId = none →
    m.sessionSequences.getD sessionId 0 = 0
  counters : ∀ agentId, (q.counterRows.get? agentId).getD 0 = m.agentSequences.getD agentId 0
  owners : ∀ sessionId row, q.sessionRows.get? sessionId = some row → row.agentId ∈ rows
  events : q.eventRows = m.events

theorem mirrors_empty (rows : List String) : Mirrors rows empty ⟨rows, .empty, .empty, []⟩ := by
  refine ⟨rfl, fun _ => .absent, ?_, fun _ _ => rfl, fun _ => rfl, ?_, rfl⟩
  · intro sessionId row h
    cases h
  · intro sessionId row h
    cases h

theorem Mirrors.getSession (h : Mirrors rows m q) (sessionId : String) :
    q.getSession sessionId = m.getSession sessionId := by
  have hrow := h.row sessionId
  simp only [SqlSessionRepository.getSession, SessionRepository.getSession]
  generalize m.sessions.get? sessionId = s, m.tombstones.get? sessionId = t,
    q.sessionRows.get? sessionId = row at hrow ⊢
  cases hrow with
  | absent => rfl
  | live row hstatus => simp only [hstatus]
  | dead t row hstatus howner hid => simp only [hstatus]

theorem Mirrors.getTombstone (h : Mirrors rows m q) (sessionId : String) :
    q.getTombstone sessionId = m.getTombstone sessionId := by
  have hrow := h.row sessionId
  simp only [SqlSessionRepository.getTombstone, SessionRepository.getTombstone]
  generalize m.sessions.get? sessionId = s, m.tombstones.get? sessionId = t,
    q.sessionRows.get? sessionId = row at hrow ⊢
  cases hrow with
  | absent => rfl
  | live row hstatus => simp only [hstatus]
  | dead t row hstatus howner hid =>
    subst hid
    simp only [hstatus, howner, TerminalReason.ofValue_value, Option.getD_some,
      TerminalSessionTombstone.construct, dif_pos (And.intro t.sessionId_ne t.agentId_ne)]

theorem Mirrors.mem_activeSessions (h : Mirrors rows m q) (s : Session) :
    s ∈ q.activeSessions ↔ s ∈ m.listSessions := by
  simp only [SqlSessionRepository.activeSessions, List.mem_map, List.mem_filter, Prod.exists,
    Dict.mem_entries_iff, SessionRepository.listSessions, Dict.mem_values_iff, decide_eq_true_eq]
  constructor
  · rintro ⟨k, row, ⟨hrow, hactive⟩, rfl⟩
    have hview := h.row k
    rw [hrow] at hview
    refine ⟨k, ?_⟩
    generalize m.sessions.get? k = a, m.tombstones.get? k = b at hview ⊢
    cases hview with
    | live row hstatus => rfl
    | dead t row hstatus howner hid =>
      rw [hstatus] at hactive
      cases hactive
  · rintro ⟨k, hk⟩
    have hview := h.row k
    rw [hk] at hview
    generalize hq : q.sessionRows.get? k = row, m.tombstones.get? k = b at hview
    cases hview with
    | live row hstatus => exact ⟨k, row, ⟨hq, hstatus⟩, rfl⟩

theorem Mirrors.sessionId_eq (h : Mirrors rows m q) {sessionId : String} {s : Session}
    (hs : m.sessions.get? sessionId = some s) : s.sessionId = sessionId := by
  have hview := h.row sessionId
  rw [hs] at hview
  generalize m.tombstones.get? sessionId = t, q.sessionRows.get? sessionId = row at hview
  cases hview
  rfl

theorem Mirrors.nodup_sessionIds (h : Mirrors rows m q) :
    (m.listSessions.map Session.sessionId).Nodup := by
  have hkeys : m.listSessions.map Session.sessionId = m.sessions.entries.map Prod.fst := by
    rw [SessionRepository.listSessions, Dict.values, List.map_map]
    refine List.map_congr_left fun e he => ?_
    exact h.sessionId_eq ((m.sessions.mem_entries_iff e.1 e.2).mp he)
  rw [hkeys]
  exact m.sessions.nodup

theorem Mirrors.perm_sessions (h : Mirrors rows m q) : q.activeSessions.Perm m.listSessions := by
  rw [List.perm_ext_iff_of_nodup]
  · exact h.mem_activeSessions
  · refine List.Nodup.of_map Session.sessionId ?_
    rw [SqlSessionRepository.activeSessions, List.map_map]
    exact q.sessionRows.nodup.sublist (List.filter_sublist.map Prod.fst)
  · exact List.Nodup.of_map Session.sessionId h.nodup_sessionIds

theorem Mirrors.listSessions (h : Mirrors rows m q) (order : RowOrder) :
    (q.listSessions order).Perm m.listSessions :=
  (order.perm _).trans h.perm_sessions

theorem Mirrors.set_row (h : Mirrors rows m q) {sessionId : String} (row : SessionRow)
    (hstatus : row.status = .active) (howner : row.agentId ∈ rows)
    (hlive : m.tombstones.get? sessionId = none)
    (hseq : row.nextSessionSequence = m.sessionSequences.getD sessionId 0 + 1) :
    Mirrors rows (m.withSessions (m.sessions.set sessionId (row.session sessionId)))
      { q with sessionRows := q.sessionRows.set sessionId row } := by
  refine ⟨h.agents, ?_, ?_, ?_, h.counters, ?_, h.events⟩
  · intro k
    simp only [withSessions, Dict.get?_set]
    split
    · rename_i hk
      rw [← hk, hlive]
      exact .live row hstatus
    · exact h.row k
  · intro k row' hk
    simp only [Dict.get?_set] at hk
    split at hk
    · rename_i he
      cases hk
      rw [← he]
      exact hseq
    · exact h.numbered k row' hk
  · intro k hk
    simp only [Dict.get?_set] at hk
    split at hk
    · cases hk
    · exact h.unnumbered k hk
  · intro k row' hk
    simp only [Dict.get?_set] at hk
    split at hk
    · cases hk
      exact howner
    · exact h.owners k row' hk

-- what an operation leaves behind in both stores, and the two replies
structure Alike {α : Type} (rows : List String) (x : SessionRepository × Except SessionError α)
    (y : SqlSessionRepository × Except SessionStoreError α) : Prop where
  reply : y.2 = x.2.mapError .refused
  next : Mirrors rows x.1 y.1

theorem Mirrors.insertSession (h : Mirrors rows m q) {s : Session} (ha : s.agentId ∈ rows)
    (hlive : m.tombstones.get? s.sessionId = none)
    (hrow : q.sessionRows.get? s.sessionId = none) :
    Alike rows (m.withSessions (m.sessions.set s.sessionId s), .ok s) (q.insertSession s) := by
  have hknown : ¬ s.agentId ∉ q.agentRows := by
    rw [h.agents, not_not]
    exact ha
  simp only [SqlSessionRepository.insertSession, if_neg hknown]
  refine ⟨rfl, ?_⟩
  exact h.set_row ⟨s.agentId, .active, 1, s.startedAt, s.lastActivityAt⟩ rfl ha hlive
    (by rw [h.unnumbered _ hrow])

theorem Mirrors.createSession (h : Mirrors rows m q) {s : Session}
    (ha : q.sessionRows.get? s.sessionId = none → s.agentId ∈ rows) :
    Alike rows (m.createSession s) (q.createSession s) := by
  have hrow := h.row s.sessionId
  generalize hs : m.sessions.get? s.sessionId = session, ht : m.tombstones.get? s.sessionId = tomb,
    hr : q.sessionRows.get? s.sessionId = row at hrow
  cases hrow with
  | absent =>
    simp only [SessionRepository.createSession, SqlSessionRepository.createSession, ht, hr,
      Dict.contains, hs, Option.isSome_none, Bool.false_eq_true, if_false]
    exact h.insertSession (ha hr) ht hr
  | live row hstatus =>
    simp only [SessionRepository.createSession, SqlSessionRepository.createSession, ht, hr, hstatus,
      Dict.contains, hs, Option.isSome_some, if_true]
    exact ⟨rfl, h⟩
  | dead t row hstatus howner hid =>
    simp only [SessionRepository.createSession, SqlSessionRepository.createSession, ht, hr, hstatus,
      howner]
    exact ⟨rfl, h⟩

theorem Mirrors.bindOrCreateSession (h : Mirrors rows m q) {sessionId agentId : String}
    (ha : q.sessionRows.get? sessionId = none → agentId ∈ rows) (now : Instant) :
    Alike rows (m.bindOrCreateSession sessionId agentId now)
      (q.bindOrCreateSession sessionId agentId now) := by
  have hrow := h.row sessionId
  generalize hs : m.sessions.get? sessionId = session, ht : m.tombstones.get? sessionId = tomb,
    hr : q.sessionRows.get? sessionId = row at hrow
  cases hrow with
  | absent =>
    simp only [SessionRepository.bindOrCreateSession, SqlSessionRepository.bindOrCreateSession, ht,
      hr, hs]
    exact h.insertSession (s := ⟨sessionId, agentId, now, now⟩) (ha hr) ht hr
  | live row hstatus =>
    simp only [SessionRepository.bindOrCreateSession, SqlSessionRepository.bindOrCreateSession, ht,
      hr, hs, hstatus, SessionRow.session]
    split
    · exact ⟨rfl, h⟩
    · refine ⟨rfl, ?_⟩
      exact h.set_row { row with status := .active, lastActivityAt := now } rfl
        (h.owners sessionId row hr) ht (h.numbered sessionId row hr)
  | dead t row hstatus howner hid =>
    simp only [SessionRepository.bindOrCreateSession, SqlSessionRepository.bindOrCreateSession, ht,
      hr, hstatus, howner]
    exact ⟨rfl, h⟩

theorem Mirrors.terminalizeSession (h : Mirrors rows m q) {sessionId : String}
    {t : TerminalSessionTombstone} (hid : t.sessionId = sessionId)
    (howner : ∀ s, m.sessions.get? sessionId = some s → t.agentId = s.agentId) :
    (q.terminalizeSession sessionId t).2 = (m.terminalizeSession sessionId t).2 ∧
      Mirrors rows (m.terminalizeSession sessionId t).1 (q.terminalizeSession sessionId t).1 := by
  have hrow := h.row sessionId
  generalize hs : m.sessions.get? sessionId = session, ht : m.tombstones.get? sessionId = tomb,
    hr : q.sessionRows.get? sessionId = row at hrow
  cases hrow with
  | absent =>
    simp only [SessionRepository.terminalizeSession, SqlSessionRepository.terminalizeSession, hr,
      Dict.contains, hs, Option.isSome_none, Bool.not_false, if_true]
    exact ⟨trivial, h⟩
  | live row hstatus =>
    simp only [SessionRepository.terminalizeSession, SqlSessionRepository.terminalizeSession, hr,
      hstatus, Dict.contains, hs, ht, Option.isSome_some, Option.isSome_none, Bool.not_true,
      Bool.false_eq_true, if_false]
    refine ⟨trivial, h.agents, ?_, ?_, ?_, h.counters, ?_, h.events⟩
    · intro k
      simp only [Dict.get?_set, Dict.get?_erase]
      split
      · rename_i hk
        exact .dead t _ rfl (howner _ hs).symm (by rw [hid, hk])
      · exact h.row k
    · intro k row' hk
      simp only [Dict.get?_set] at hk
      split at hk
      · rename_i he
        cases hk
        rw [← he]
        exact h.numbered sessionId row hr
      · exact h.numbered k row' hk
    · intro k hk
      simp only [Dict.get?_set] at hk
      split at hk
      · cases hk
      · exact h.unnumbered k hk
    · intro k row' hk
      simp only [Dict.get?_set] at hk
      split at hk
      · cases hk
        exact h.owners sessionId row hr
      · exact h.owners k row' hk
  | dead t' row hstatus howner' hid' =>
    simp only [SessionRepository.terminalizeSession, SqlSessionRepository.terminalizeSession, hr,
      hstatus, Dict.contains, hs, Option.isSome_none, Bool.not_false, if_true]
    exact ⟨trivial, h⟩

theorem Mirrors.accepts (h : Mirrors rows m q) {e : SessionEvent} (ha : e.agentId ∈ rows)
    (hn : m.sessionSequences.getD e.sessionId 0 < e.sequenceNumber)
    (hp : m.agentSequences.getD e.agentId 0 < e.agentSequence) : ¬ q.Rejects e := by
  rintro (⟨d, hd, hs, hseq⟩ | ⟨d, hd, hs, hseq⟩ | habsent)
  · rw [h.events] at hd
    have hle := m.events_numbered d hd
    rw [hs, hseq] at hle
    omega
  · rw [h.events] at hd
    have hle := m.events_positioned d hd
    rw [hs, hseq] at hle
    omega
  · rw [h.agents] at habsent
    exact habsent ha

theorem Mirrors.recordEvent (h : Mirrors rows m q) {e : SessionEvent}
    (hseq : e.sequenceNumber = 0) (hpos : e.agentSequence = 0) :
    Alike rows (m.recordEvent e) (q.recordEvent e) := by
  have hrow := h.row e.sessionId
  generalize hs : m.sessions.get? e.sessionId = session, ht : m.tombstones.get? e.sessionId = tomb,
    hr : q.sessionRows.get? e.sessionId = row at hrow
  have hseq' : ¬ e.sequenceNumber ≠ 0 := not_not.mpr hseq
  have hpos' : ¬ e.agentSequence ≠ 0 := not_not.mpr hpos
  cases hrow with
  | absent =>
    simp only [SessionRepository.recordEvent, SqlSessionRepository.recordEvent, ht, hr, hs,
      if_neg hseq', if_neg hpos']
    exact ⟨rfl, h⟩
  | dead t row hstatus howner hid =>
    simp only [SessionRepository.recordEvent, SqlSessionRepository.recordEvent, ht, hr,
      if_neg hseq', if_neg hpos', hstatus, howner]
    exact ⟨rfl, h⟩
  | live row hstatus =>
    have hnumber := h.numbered e.sessionId row hr
    have hcounter : q.nextAgentSequence e.agentId = m.agentSequences.getD e.agentId 0 + 1 := by
      rw [← h.counters, SqlSessionRepository.nextAgentSequence]
      cases q.counterRows.get? e.agentId <;> rfl
    simp only [SessionRepository.recordEvent, SqlSessionRepository.recordEvent, ht, hr, hs,
      if_neg hseq', if_neg hpos', hstatus, SessionRow.session, SqlSessionRepository.persisted,
      SqlSessionRepository.appendEvent, hcounter, hnumber]
    split
    · exact ⟨rfl, h⟩
    · rename_i howner
      rw [not_not] at howner
      have hagent : e.agentId ∈ rows := by
        rw [← howner]
        exact h.owners e.sessionId row hr
      have haccepts : ¬ q.Rejects { e with
          sequenceNumber := m.sessionSequences.getD e.sessionId 0 + 1
          agentSequence := m.agentSequences.getD e.agentId 0 + 1 } :=
        h.accepts hagent (Nat.lt_succ_self _) (Nat.lt_succ_self _)
      rw [if_neg haccepts]
      refine ⟨rfl, h.agents, ?_, ?_, ?_, ?_, ?_, ?_⟩
      · intro k
        simp only [SessionRepository.appendEvent, Dict.get?_set]
        split
        · rename_i hk
          subst hk
          rw [ht]
          exact .live ⟨row.agentId, .active, m.sessionSequences.getD e.sessionId 0 + 1 + 1,
            row.createdAt, e.timestamp⟩ rfl
        · exact h.row k
      · intro k row' hk
        simp only [Dict.get?_set] at hk
        simp only [SessionRepository.appendEvent, Dict.getD_set]
        split at hk
        · rename_i he
          cases hk
          rw [if_pos he]
        · rename_i he
          rw [if_neg he]
          exact h.numbered k row' hk
      · intro k hk
        simp only [Dict.get?_set] at hk
        simp only [SessionRepository.appendEvent, Dict.getD_set]
        split at hk
        · cases hk
        · rename_i he
          rw [if_neg he]
          exact h.unnumbered k hk
      · intro a
        simp only [SessionRepository.appendEvent, Dict.getD_set, Dict.get?_set]
        split
        · rfl
        · exact h.counters a
      · intro k row' hk
        simp only [Dict.get?_set] at hk
        split at hk
        · cases hk
          exact h.owners e.sessionId row hr
        · exact h.owners k row' hk
      · simp only [SessionRepository.appendEvent, h.events]

theorem Mirrors.listEligibleEvents (h : Mirrors rows m q) (query : HorizonQuery) :
    q.listEligibleEvents query = m.listEligibleEvents query := by
  rw [SqlSessionRepository.listEligibleEvents, h.events, SessionRepository.listEligibleEvents]

theorem Mirrors.listEvents (h : Mirrors rows m q) (sessionId : String) :
    q.listEvents sessionId = m.listEvents sessionId := by
  rw [SqlSessionRepository.listEvents, h.events, SessionRepository.listEvents]

theorem Mirrors.currentAgentSequence (h : Mirrors rows m q) (agentId : String) :
    q.currentAgentSequence agentId = m.currentAgentSequence agentId := h.counters agentId

theorem Mirrors.pruneEvents (h : Mirrors rows m q) (cutoff : Instant) :
    (q.pruneEvents cutoff).2 = (m.pruneEvents cutoff).2 ∧
      Mirrors rows (m.pruneEvents cutoff).1 (q.pruneEvents cutoff).1 := by
  have hkept : q.eventRows.filter (fun e => ¬ e.timestamp < cutoff) =
      m.events.filter (fun e => cutoff ≤ e.timestamp) := by
    rw [h.events]
    refine List.filter_congr fun e _ => ?_
    rw [decide_eq_decide, not_lt]
  refine ⟨?_, h.agents, h.row, h.numbered, h.unnumbered, h.counters, h.owners, hkept⟩
  have hsum := List.length_eq_length_filter_add (l := m.events)
    (fun e => decide (e.timestamp < cutoff))
  simp only [SqlSessionRepository.pruneEvents, SessionRepository.pruneEvents, ← hkept, h.events]
  simp only [decide_not] at hsum ⊢
  omega

theorem Mirrors.updateEventFinalDecision (h : Mirrors rows m q) (sessionId : String) (n : Nat)
    (decision : Decision) : Alike rows (m.updateEventFinalDecision sessionId n decision)
      (q.updateEventFinalDecision sessionId n decision) := by
  have hrow := h.row sessionId
  generalize hs : m.sessions.get? sessionId = session, ht : m.tombstones.get? sessionId = tomb,
    hr : q.sessionRows.get? sessionId = row at hrow
  cases hrow with
  | absent =>
    simp only [SessionRepository.updateEventFinalDecision,
      SqlSessionRepository.updateEventFinalDecision, ht, hr, Dict.contains, hs, Option.isSome_none,
      Bool.not_false, if_true]
    exact ⟨rfl, h⟩
  | dead t row hstatus howner hid =>
    simp only [SessionRepository.updateEventFinalDecision,
      SqlSessionRepository.updateEventFinalDecision, ht, hr, hstatus, howner]
    exact ⟨rfl, h⟩
  | live row hstatus =>
    simp only [SessionRepository.updateEventFinalDecision, ht, Dict.contains, hs,
      Option.isSome_some, Bool.not_true, Bool.false_eq_true, if_false]
    split
    · rename_i err herr
      simp only [SqlSessionRepository.updateEventFinalDecision, hr, hstatus, h.events, herr]
      exact ⟨rfl, h⟩
    · rename_i events hok
      simp only [SqlSessionRepository.updateEventFinalDecision, hr, hstatus, h.events, hok]
      exact ⟨rfl, h.agents, h.row, h.numbered, h.unnumbered, h.counters, h.owners, rfl⟩

end SessionRepository

end AgentSecurityPlatform
