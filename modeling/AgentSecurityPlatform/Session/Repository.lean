import AgentSecurityPlatform.Lifecycle.Enforcement

namespace AgentSecurityPlatform

inductive TerminalReason where
  | explicitEnd
  | idleTimeout
  deriving DecidableEq, Repr

structure TerminalSessionTombstone where
  sessionId : String
  agentId : String
  terminatedAt : Instant
  terminalReason : TerminalReason
  sessionId_ne : sessionId ≠ ""
  agentId_ne : agentId ≠ ""

instance : DecidableEq TerminalSessionTombstone := fun a b =>
  decidable_of_iff
    (a.sessionId = b.sessionId ∧ a.agentId = b.agentId ∧ a.terminatedAt = b.terminatedAt ∧
      a.terminalReason = b.terminalReason)
    (by cases a; cases b; simp)

theorem TerminalSessionTombstone.identified {sessionId agentId : String}
    (h : sessionId ≠ "" ∧ agentId ≠ "") : sessionId ≠ "" :=
  h.1

theorem TerminalSessionTombstone.owned {sessionId agentId : String}
    (h : sessionId ≠ "" ∧ agentId ≠ "") : agentId ≠ "" :=
  h.2

def TerminalSessionTombstone.construct (sessionId agentId : String) (terminatedAt : Instant)
    (terminalReason : TerminalReason) : Option TerminalSessionTombstone :=
  if h : sessionId ≠ "" ∧ agentId ≠ "" then
    some ⟨sessionId, agentId, terminatedAt, terminalReason, identified h, owned h⟩
  else none

structure Session where
  sessionId : String
  agentId : String
  startedAt : Instant
  lastActivityAt : Instant
  deriving DecidableEq, Repr

inductive AggregationScope where
  | session
  | agent
  deriving DecidableEq, Repr

structure HorizonQuery where
  agentId : String
  scope : AggregationScope
  sessionId : Option String
  windowSeconds : Instant
  evaluationTime : Instant
  baselineAgentSequence : Nat
  deriving DecidableEq, Repr

structure SessionEvent where
  sessionId : String
  agentId : String
  toolId : String
  toolVersion : Option String := none
  decision : Decision
  sequenceNumber : Nat := 0
  agentSequence : Nat := 0
  finalDecision : Option Decision := none
  timestamp : Instant
  deriving DecidableEq, Repr

inductive SessionError where
  | terminal (sessionId ownerAgentId requestedAgentId : String)
  | binding (sessionId ownerAgentId requestedAgentId : String)
  | notFound (sessionId : String)
  | alreadyExists (sessionId : String)
  | suppliedSequenceNumber (sequenceNumber : Nat)
  | suppliedAgentSequence (agentSequence : Nat)
  | alreadyFinalized (sequenceNumber : Nat) (sessionId : String) (recorded offered : Decision)
  | eventNotFound (sequenceNumber : Nat) (sessionId : String)
  | validation
  | invalidThreshold
  deriving DecidableEq, Repr

def SessionError.isBindingError : SessionError → Bool
  | .terminal _ _ _ => true
  | .binding _ _ _ => true
  | _ => false

structure SessionRepository where
  sessions : Dict String Session
  tombstones : Dict String TerminalSessionTombstone
  events : List SessionEvent
  sessionSequences : Dict String Nat
  agentSequences : Dict String Nat
  events_numbered : ∀ e ∈ events, e.sequenceNumber ≤ sessionSequences.getD e.sessionId 0
  events_positioned : ∀ e ∈ events, e.agentSequence ≤ agentSequences.getD e.agentId 0

namespace SessionRepository

def empty : SessionRepository := ⟨.empty, .empty, [], .empty, .empty, by simp, by simp⟩

def getSession (r : SessionRepository) (sessionId : String) : Option Session :=
  r.sessions.get? sessionId

def getTombstone (r : SessionRepository) (sessionId : String) : Option TerminalSessionTombstone :=
  r.tombstones.get? sessionId

def listSessions (r : SessionRepository) : List Session := r.sessions.values

def withSessions (r : SessionRepository) (sessions : Dict String Session) : SessionRepository :=
  { r with sessions }

def createSession (r : SessionRepository) (s : Session) :
    SessionRepository × Except SessionError Session :=
  match r.tombstones.get? s.sessionId with
  | some t => (r, .error (.terminal s.sessionId t.agentId s.agentId))
  | none =>
    if r.sessions.contains s.sessionId then (r, .error (.alreadyExists s.sessionId))
    else (r.withSessions (r.sessions.set s.sessionId s), .ok s)

def bindOrCreateSession (r : SessionRepository) (sessionId agentId : String) (now : Instant) :
    SessionRepository × Except SessionError Session :=
  match r.tombstones.get? sessionId with
  | some t => (r, .error (.terminal sessionId t.agentId agentId))
  | none =>
    match r.sessions.get? sessionId with
    | none =>
      let s : Session := ⟨sessionId, agentId, now, now⟩
      (r.withSessions (r.sessions.set sessionId s), .ok s)
    | some existing =>
      if existing.agentId ≠ agentId then (r, .error (.binding sessionId existing.agentId agentId))
      else
        let touched := { existing with lastActivityAt := now }
        (r.withSessions (r.sessions.set sessionId touched), .ok touched)

def terminalizeSession (r : SessionRepository) (sessionId : String)
    (tombstone : TerminalSessionTombstone) : SessionRepository × Bool :=
  if !r.sessions.contains sessionId then (r, false)
  else if r.tombstones.contains sessionId then (r, false)
  else
    ({ r with
        sessions := r.sessions.erase sessionId
        tombstones := r.tombstones.set sessionId tombstone }, true)

def appendEvent (r : SessionRepository) (e : SessionEvent) (active : Session) :
    SessionRepository × SessionEvent :=
  let nextSeq := r.sessionSequences.getD e.sessionId 0 + 1
  let nextAgentSeq := r.agentSequences.getD e.agentId 0 + 1
  let persisted := { e with sequenceNumber := nextSeq, agentSequence := nextAgentSeq }
  ({ r with
      sessions := r.sessions.set e.sessionId { active with lastActivityAt := e.timestamp }
      events := r.events ++ [persisted]
      sessionSequences := r.sessionSequences.set e.sessionId nextSeq
      agentSequences := r.agentSequences.set e.agentId nextAgentSeq
      events_numbered := by
        intro d hd
        rw [Dict.getD_set]
        rcases List.mem_append.mp hd with hd | hd
        · have := r.events_numbered d hd
          split
          · rename_i h
            rw [← h] at this
            omega
          · exact this
        · rw [List.mem_singleton.mp hd]
          simp [persisted]
      events_positioned := by
        intro d hd
        rw [Dict.getD_set]
        rcases List.mem_append.mp hd with hd | hd
        · have := r.events_positioned d hd
          split
          · rename_i h
            rw [← h] at this
            omega
          · exact this
        · rw [List.mem_singleton.mp hd]
          simp [persisted] },
    persisted)

def recordEvent (r : SessionRepository) (e : SessionEvent) :
    SessionRepository × Except SessionError SessionEvent :=
  match r.tombstones.get? e.sessionId with
  | some t => (r, .error (.terminal e.sessionId t.agentId e.agentId))
  | none =>
    match r.sessions.get? e.sessionId with
    | none => (r, .error (.notFound e.sessionId))
    | some active =>
      if active.agentId ≠ e.agentId then
        (r, .error (.binding e.sessionId active.agentId e.agentId))
      else if e.sequenceNumber ≠ 0 then (r, .error (.suppliedSequenceNumber e.sequenceNumber))
      else if e.agentSequence ≠ 0 then (r, .error (.suppliedAgentSequence e.agentSequence))
      else
        let (r', persisted) := r.appendEvent e active
        (r', .ok persisted)

def eligible (q : HorizonQuery) (e : SessionEvent) : Bool :=
  e.agentId = q.agentId &&
  (q.scope ≠ .session || some e.sessionId = q.sessionId) &&
  q.baselineAgentSequence < e.agentSequence &&
  q.evaluationTime - q.windowSeconds ≤ e.timestamp && e.timestamp ≤ q.evaluationTime

def horizonKey (e : SessionEvent) : AggregationScope → Nat
  | .agent => e.agentSequence
  | .session => e.sequenceNumber

def listEligibleEvents (r : SessionRepository) (q : HorizonQuery) : List SessionEvent :=
  (r.events.filter (eligible q)).insertionSort
    (fun d e => horizonKey d q.scope ≤ horizonKey e q.scope)

def listEvents (r : SessionRepository) (sessionId : String) : List SessionEvent :=
  (r.events.filter (fun e => e.sessionId = sessionId)).insertionSort (fun d e =>
    d.timestamp < e.timestamp ∨ (d.timestamp = e.timestamp ∧ d.sequenceNumber ≤ e.sequenceNumber))

def pruneEvents (r : SessionRepository) (cutoff : Instant) : SessionRepository × Nat :=
  let kept := r.events.filter (fun e => cutoff ≤ e.timestamp)
  ({ r with
      events := kept
      events_numbered := fun e he => r.events_numbered e (List.mem_of_mem_filter he)
      events_positioned := fun e he => r.events_positioned e (List.mem_of_mem_filter he) },
    r.events.length - kept.length)

def currentAgentSequence (r : SessionRepository) (agentId : String) : Nat :=
  r.agentSequences.getD agentId 0

def finalizeFirst (sessionId : String) (sequenceNumber : Nat) (finalDecision : Decision) :
    List SessionEvent → Except SessionError (List SessionEvent)
  | [] => .error (.eventNotFound sequenceNumber sessionId)
  | e :: es =>
    if e.sessionId = sessionId ∧ e.sequenceNumber = sequenceNumber then
      match e.finalDecision with
      | some d =>
        if d ≠ finalDecision then
          .error (.alreadyFinalized sequenceNumber sessionId d finalDecision)
        else .ok ({ e with finalDecision := some finalDecision } :: es)
      | none => .ok ({ e with finalDecision := some finalDecision } :: es)
    else (finalizeFirst sessionId sequenceNumber finalDecision es).map (e :: ·)

theorem finalizeFirst_ok {sessionId : String} {n : Nat} {d : Decision} {es es' : List SessionEvent}
    (h : finalizeFirst sessionId n d es = .ok es') :
    ∃ pre e post, es = pre ++ e :: post ∧
      (∀ x ∈ pre, x.sessionId = sessionId → x.sequenceNumber ≠ n) ∧
      e.sessionId = sessionId ∧ e.sequenceNumber = n ∧
      (e.finalDecision = none ∨ e.finalDecision = some d) ∧
      es' = pre ++ { e with finalDecision := some d } :: post := by
  induction es generalizing es' with
  | nil => cases h
  | cons e es ih =>
    simp only [finalizeFirst] at h
    split at h
    · rename_i he
      split at h
      · rename_i d' hd'
        split at h
        · cases h
        · rename_i hne
          cases h
          exact ⟨[], e, es, rfl, by simp, he.1, he.2, .inr (by rw [hd', not_not.mp hne]), rfl⟩
      · rename_i hd'
        cases h
        exact ⟨[], e, es, rfl, by simp, he.1, he.2, .inl hd', rfl⟩
    · rename_i he
      cases hr : finalizeFirst sessionId n d es with
      | error err =>
        rw [hr] at h
        cases h
      | ok rest =>
        rw [hr] at h
        cases h
        obtain ⟨pre, x, post, rfl, hpre, h1, h2, h3, rfl⟩ := ih hr
        refine ⟨e :: pre, x, post, rfl, ?_, h1, h2, h3, rfl⟩
        intro y hy hs hn
        rcases List.mem_cons.mp hy with rfl | hy
        · exact he ⟨hs, hn⟩
        · exact hpre y hy hs hn

theorem mem_finalizeFirst {sessionId : String} {n : Nat} {d : Decision}
    {es es' : List SessionEvent} (h : finalizeFirst sessionId n d es = .ok es') {x : SessionEvent}
    (hx : x ∈ es') : ∃ y ∈ es, x.sessionId = y.sessionId ∧ x.agentId = y.agentId ∧
      x.sequenceNumber = y.sequenceNumber ∧ x.agentSequence = y.agentSequence := by
  obtain ⟨pre, e, post, rfl, -, -, -, -, rfl⟩ := finalizeFirst_ok h
  rcases List.mem_append.mp hx with hx | hx
  · exact ⟨x, by simp [hx], rfl, rfl, rfl, rfl⟩
  · rcases List.mem_cons.mp hx with rfl | hx
    · exact ⟨e, by simp, rfl, rfl, rfl, rfl⟩
    · exact ⟨x, by simp [hx], rfl, rfl, rfl, rfl⟩

def updateEventFinalDecision (r : SessionRepository) (sessionId : String) (sequenceNumber : Nat)
    (finalDecision : Decision) : SessionRepository × Except SessionError Unit :=
  match r.tombstones.get? sessionId with
  | some t => (r, .error (.terminal sessionId t.agentId t.agentId))
  | none =>
    if !r.sessions.contains sessionId then (r, .error (.notFound sessionId))
    else
      match h : finalizeFirst sessionId sequenceNumber finalDecision r.events with
      | .error e => (r, .error e)
      | .ok events =>
        ({ r with
            events
            events_numbered := by
              intro x hx
              obtain ⟨y, hy, h1, -, h3, -⟩ := mem_finalizeFirst h hx
              rw [h1, h3]
              exact r.events_numbered y hy
            events_positioned := by
              intro x hx
              obtain ⟨y, hy, -, h2, -, h4⟩ := mem_finalizeFirst h hx
              rw [h2, h4]
              exact r.events_positioned y hy }, .ok ())

end SessionRepository

end AgentSecurityPlatform
