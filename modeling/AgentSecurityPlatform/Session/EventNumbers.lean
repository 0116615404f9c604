import AgentSecurityPlatform.Session.Backend

namespace AgentSecurityPlatform

inductive RepositoryCall where
  | createSession (s : Session)
  | bindOrCreateSession (sessionId agentId : String) (now : Instant)
  | terminalizeSession (sessionId : String) (tombstone : TerminalSessionTombstone)
  | recordEvent (e : SessionEvent)
  | pruneEvents (cutoff : Instant)
  | updateEventFinalDecision (sessionId : String) (sequenceNumber : Nat) (finalDecision : Decision)
  deriving DecidableEq

inductive RepositoryReply where
  | session (result : Except SessionStoreError Session)
  | terminalized (done : Bool)
  | recorded (result : Except SessionStoreError SessionEvent)
  | pruned (count : Nat)
  | finalized (result : Except SessionStoreError Unit)

namespace RepositoryCall

def answer (b : SessionBackend) : RepositoryCall → SessionBackend × RepositoryReply
  | .createSession s => (b.createSession s).map id .session
  | .bindOrCreateSession sessionId agentId now =>
    (b.bindOrCreateSession sessionId agentId now).map id .session
  | .terminalizeSession sessionId tombstone =>
    (b.terminalizeSession sessionId tombstone).map id .terminalized
  | .recordEvent e => (b.recordEvent e).map id .recorded
  | .pruneEvents cutoff => (b.pruneEvents cutoff).map id .pruned
  | .updateEventFinalDecision sessionId n decision =>
    (b.updateEventFinalDecision sessionId n decision).map id .finalized

end RepositoryCall

def RepositoryReply.event : RepositoryReply → Option SessionEvent
  | .recorded (.ok d) => some d
  | _ => none

-- the events a history recorded, in order
def recordings (h : List (RepositoryCall × RepositoryReply)) : List SessionEvent :=
  h.filterMap (fun x => x.2.event)

namespace SessionBackend

variable {b b' : SessionBackend}

def sessionSequence : SessionBackend → String → Nat
  | .inMemory r, sessionId => r.sessionSequences.getD sessionId 0
  | .sql q, sessionId =>
    match q.sessionRows.get? sessionId with
    | none => 0
    | some row => row.nextSessionSequence - 1

def Counting : SessionBackend → Prop
  | .inMemory _ => True
  | .sql q => ∀ sessionId row, q.sessionRows.get? sessionId = some row → 1 ≤ row.nextSessionSequence

inductive LogChange where
  | silent
  | recorded (e : SessionEvent)
  | pruned (cutoff : Instant)
  | finalized

def LogChange.event : LogChange → Option SessionEvent
  | .recorded e => some e
  | .silent => none
  | .pruned _ => none
  | .finalized => none

-- what a call can do to the counters and to the events
inductive LogEffect (b b' : SessionBackend) : LogChange → Prop where
  | silent (hsession : ∀ k, b'.sessionSequence k = b.sessionSequence k)
      (hagent : ∀ a, b'.currentAgentSequence a = b.currentAgentSequence a)
      (hevents : b'.events = b.events) : LogEffect b b' .silent
  | recorded (e : SessionEvent)
      (hnumber : e.sequenceNumber = b.sessionSequence e.sessionId + 1)
      (hposition : e.agentSequence = b.currentAgentSequence e.agentId + 1)
      (hsession : ∀ k, b'.sessionSequence k =
        if e.sessionId = k then e.sequenceNumber else b.sessionSequence k)
      (hagent : ∀ a, b'.currentAgentSequence a =
        if e.agentId = a then e.agentSequence else b.currentAgentSequence a)
      (hevents : b'.events = b.events ++ [e]) : LogEffect b b' (.recorded e)
  | pruned (cutoff : Instant) (hsession : ∀ k, b'.sessionSequence k = b.sessionSequence k)
      (hagent : ∀ a, b'.currentAgentSequence a = b.currentAgentSequence a)
      (hevents : b'.events = b.events.filter (fun e => cutoff ≤ e.timestamp)) :
      LogEffect b b' (.pruned cutoff)
  | finalized (sessionId : String) (n : Nat) (decision : Decision)
      (hsession : ∀ k, b'.sessionSequence k = b.sessionSequence k)
      (hagent : ∀ a, b'.currentAgentSequence a = b.currentAgentSequence a)
      (hevents : SessionRepository.finalizeFirst sessionId n decision b.events = .ok b'.events) :
      LogEffect b b' .finalized

theorem LogEffect.refl (b : SessionBackend) : LogEffect b b .silent :=
  .silent (fun _ => rfl) (fun _ => rfl) rfl

theorem sessionSequence_set (q : SqlSessionRepository) (sessionId : String) (row : SessionRow)
    (k : String) :
    (SessionBackend.sql
        { q with sessionRows := q.sessionRows.set sessionId row }).sessionSequence k =
      if sessionId = k then row.nextSessionSequence - 1
      else (SessionBackend.sql q).sessionSequence k := by
  simp only [sessionSequence, Dict.get?_set]
  rcases eq_or_ne sessionId k with rfl | hk
  · simp
  · simp [hk]

-- a row that keeps its counter keeps every counter
theorem sessionSequence_touch {q : SqlSessionRepository} {sessionId : String}
    {row row' : SessionRow} (h : q.sessionRows.get? sessionId = some row)
    (hnext : row'.nextSessionSequence = row.nextSessionSequence) (k : String) :
    (SessionBackend.sql
        { q with sessionRows := q.sessionRows.set sessionId row' }).sessionSequence k =
      (SessionBackend.sql q).sessionSequence k := by
  rw [sessionSequence_set]
  split
  · rename_i hk
    subst hk
    simp only [sessionSequence, h, hnext]
  · rfl

theorem counting_set {q : SqlSessionRepository} (h : (SessionBackend.sql q).Counting)
    (sessionId : String) {row : SessionRow} (hrow : 1 ≤ row.nextSessionSequence) :
    (SessionBackend.sql { q with sessionRows := q.sessionRows.set sessionId row }).Counting := by
  intro k row' hk
  simp only [Dict.get?_set] at hk
  split at hk
  · cases hk
    exact hrow
  · exact h k row' hk

theorem insertSession_effect {q : SqlSessionRepository} (hc : (SessionBackend.sql q).Counting)
    {s : Session} (hnone : q.sessionRows.get? s.sessionId = none) :
    LogEffect (.sql q) (.sql (q.insertSession s).1) .silent ∧
      (SessionBackend.sql (q.insertSession s).1).Counting := by
  simp only [SqlSessionRepository.insertSession]
  split
  · exact ⟨.refl _, hc⟩
  · refine ⟨.silent ?_ (fun _ => rfl) rfl, counting_set hc _ (Nat.le_refl 1)⟩
    intro k
    rw [sessionSequence_set]
    split
    · rename_i hk
      subst hk
      simp [sessionSequence, hnone]
    · rfl

theorem touch_effect {q : SqlSessionRepository} (hc : (SessionBackend.sql q).Counting)
    {sessionId : String} {row row' : SessionRow} (h : q.sessionRows.get? sessionId = some row)
    (hnext : row'.nextSessionSequence = row.nextSessionSequence) :
    LogEffect (.sql q) (.sql { q with sessionRows := q.sessionRows.set sessionId row' }) .silent ∧
      (SessionBackend.sql { q with sessionRows := q.sessionRows.set sessionId row' }).Counting := by
  refine ⟨.silent (sessionSequence_touch h hnext) (fun _ => rfl) rfl, counting_set hc _ ?_⟩
  rw [hnext]
  exact hc sessionId row h

theorem createSession_log (hc : b.Counting) (s : Session) :
    LogEffect b (b.createSession s).1 .silent ∧ (b.createSession s).1.Counting := by
  cases b with
  | inMemory r =>
    refine ⟨?_, trivial⟩
    simp only [createSession, lift, SessionRepository.createSession]
    split
    · exact .refl _
    · split
      · exact .refl _
      · exact .silent (fun _ => rfl) (fun _ => rfl) rfl
  | sql q =>
    simp only [createSession, liftSql, SqlSessionRepository.createSession]
    split
    · split
      · exact ⟨.refl _, hc⟩
      · exact ⟨.refl _, hc⟩
    · rename_i hnone
      exact insertSession_effect hc hnone

theorem bindOrCreateSession_log (hc : b.Counting) (sessionId agentId : String) (now : Instant) :
    LogEffect b (b.bindOrCreateSession sessionId agentId now).1 .silent ∧
      (b.bindOrCreateSession sessionId agentId now).1.Counting := by
  cases b with
  | inMemory r =>
    refine ⟨?_, trivial⟩
    simp only [bindOrCreateSession, lift, SessionRepository.bindOrCreateSession]
    split
    · exact .refl _
    · split
      · exact .silent (fun _ => rfl) (fun _ => rfl) rfl
      · split
        · exact .refl _
        · exact .silent (fun _ => rfl) (fun _ => rfl) rfl
  | sql q =>
    simp only [bindOrCreateSession, liftSql, SqlSessionRepository.bindOrCreateSession]
    split
    · rename_i row hrow
      split
      · exact ⟨.refl _, hc⟩
      · split
        · exact ⟨.refl _, hc⟩
        · exact touch_effect hc hrow rfl
    · rename_i hnone
      exact insertSession_effect (s := ⟨sessionId, agentId, now, now⟩) hc hnone

theorem terminalizeSession_log (hc : b.Counting) (sessionId : String)
    (t : TerminalSessionTombstone) : LogEffect b (b.terminalizeSession sessionId t).1 .silent ∧
      (b.terminalizeSession sessionId t).1.Counting := by
  cases b with
  | inMemory r =>
    refine ⟨?_, trivial⟩
    simp only [terminalizeSession, SessionRepository.terminalizeSession]
    split
    · exact .refl _
    · split
      · exact .refl _
      · exact .silent (fun _ => rfl) (fun _ => rfl) rfl
  | sql q =>
    simp only [terminalizeSession, liftSql, SqlSessionRepository.terminalizeSession]
    split
    · exact ⟨.refl _, hc⟩
    · rename_i row hrow
      split
      · exact ⟨.refl _, hc⟩
      · exact touch_effect hc hrow rfl

def recordChange : Except SessionStoreError SessionEvent → LogChange
  | .ok d => .recorded d
  | .error _ => .silent

theorem recordEvent_log (hc : b.Counting) (e : SessionEvent) :
    LogEffect b (b.recordEvent e).1 (recordChange (b.recordEvent e).2) ∧
      (b.recordEvent e).1.Counting := by
  cases b with
  | inMemory r =>
    cases hr : r.recordEvent e with
    | mk r' reply =>
      simp only [recordEvent, lift, hr]
      cases reply with
      | error err =>
        have hsame := SessionRepository.recordEvent_error hr
        subst hsame
        exact ⟨.refl _, trivial⟩
      | ok d =>
        obtain ⟨active, -, -, -, heq⟩ := SessionRepository.recordEvent_ok hr
        obtain ⟨rfl, rfl⟩ := Prod.mk.inj heq
        refine ⟨.recorded _ rfl rfl ?_ ?_ rfl, trivial⟩
        · intro k
          simp only [sessionSequence, Dict.getD_set]
        · intro a
          simp only [currentAgentSequence, SessionRepository.currentAgentSequence, Dict.getD_set]
  | sql q =>
    rcases q.recordEvent_cases e with ⟨err, hq⟩ | ⟨row, hrow, -, -, hq⟩
    · simp only [recordEvent, liftSql, hq]
      exact ⟨.refl _, hc⟩
    · simp only [recordEvent, liftSql, hq]
      have hpos := hc e.sessionId row hrow
      have hnext : q.nextAgentSequence e.agentId = (q.counterRows.get? e.agentId).getD 0 + 1 := by
        simp only [SqlSessionRepository.nextAgentSequence]
        cases q.counterRows.get? e.agentId <;> simp
      refine ⟨.recorded _ ?_ hnext ?_ ?_ rfl, ?_⟩
      · simp only [SqlSessionRepository.persisted, sessionSequence, hrow]
        omega
      · intro k
        simp only [SqlSessionRepository.appendEvent, SqlSessionRepository.persisted,
          sessionSequence, Dict.get?_set]
        rcases eq_or_ne e.sessionId k with rfl | hk
        · simp
        · simp [hk]
      · intro a
        simp only [SqlSessionRepository.appendEvent, SqlSessionRepository.persisted,
          currentAgentSequence, SqlSessionRepository.currentAgentSequence, Dict.get?_set]
        rcases eq_or_ne e.agentId a with rfl | ha
        · simp
        · simp [ha]
      · intro k row' hk
        simp only [SqlSessionRepository.appendEvent, Dict.get?_set] at hk
        split at hk
        · cases hk
          exact Nat.le_add_left 1 _
        · exact hc k row' hk

theorem pruneEvents_log (hc : b.Counting) (cutoff : Instant) :
    LogEffect b (b.pruneEvents cutoff).1 (.pruned cutoff) ∧ (b.pruneEvents cutoff).1.Counting := by
  cases b with
  | inMemory r => exact ⟨.pruned cutoff (fun _ => rfl) (fun _ => rfl) rfl, trivial⟩
  | sql q =>
    refine ⟨.pruned cutoff (fun _ => rfl) (fun _ => rfl) ?_, hc⟩
    simp [pruneEvents, liftSql, SqlSessionRepository.pruneEvents, events]

theorem updateEventFinalDecision_log (hc : b.Counting) (sessionId : String) (n : Nat)
    (decision : Decision) :
    (∃ change, change.event = none ∧
      LogEffect b (b.updateEventFinalDecision sessionId n decision).1 change) ∧
      (b.updateEventFinalDecision sessionId n decision).1.Counting := by
  cases b with
  | inMemory r =>
    refine ⟨?_, trivial⟩
    simp only [updateEventFinalDecision, lift, SessionRepository.updateEventFinalDecision]
    split
    · exact ⟨_, rfl, .refl _⟩
    · split
      · exact ⟨_, rfl, .refl _⟩
      · split
        · exact ⟨_, rfl, .refl _⟩
        · rename_i events hok
          exact ⟨_, rfl, .finalized sessionId n decision (fun _ => rfl) (fun _ => rfl) hok⟩
  | sql q =>
    rcases q.updateEventFinalDecision_cases sessionId n decision with ⟨err, hq⟩ | ⟨rows, hok, hq⟩
    · simp only [updateEventFinalDecision, liftSql, hq]
      exact ⟨⟨_, rfl, .refl _⟩, hc⟩
    · simp only [updateEventFinalDecision, liftSql, hq]
      exact ⟨⟨_, rfl, .finalized sessionId n decision (fun _ => rfl) (fun _ => rfl) hok⟩, hc⟩

end SessionBackend

namespace RepositoryCall

variable {b : SessionBackend}

theorem answer_log (hc : b.Counting) (call : RepositoryCall) :
    (∃ change, change.event = (call.answer b).2.event ∧ b.LogEffect (call.answer b).1 change) ∧
      (call.answer b).1.Counting := by
  cases call with
  | createSession s =>
    obtain ⟨heffect, hcounting⟩ := b.createSession_log hc s
    exact ⟨⟨_, rfl, heffect⟩, hcounting⟩
  | bindOrCreateSession sessionId agentId now =>
    obtain ⟨heffect, hcounting⟩ := b.bindOrCreateSession_log hc sessionId agentId now
    exact ⟨⟨_, rfl, heffect⟩, hcounting⟩
  | terminalizeSession sessionId t =>
    obtain ⟨heffect, hcounting⟩ := b.terminalizeSession_log hc sessionId t
    exact ⟨⟨_, rfl, heffect⟩, hcounting⟩
  | recordEvent e =>
    obtain ⟨heffect, hcounting⟩ := b.recordEvent_log hc e
    refine ⟨⟨_, ?_, heffect⟩, hcounting⟩
    simp only [answer, Prod.map]
    cases (b.recordEvent e).2 <;> rfl
  | pruneEvents cutoff =>
    obtain ⟨heffect, hcounting⟩ := b.pruneEvents_log hc cutoff
    exact ⟨⟨_, rfl, heffect⟩, hcounting⟩
  | updateEventFinalDecision sessionId n decision =>
    exact b.updateEventFinalDecision_log hc sessionId n decision

end RepositoryCall

namespace SessionEvent

-- the same event at a later time: only final_decision may differ, and only from None
structure Becomes (d d' : SessionEvent) : Prop where
  kept : d' = { d with finalDecision := d'.finalDecision }
  final : d.finalDecision = none ∨ d'.finalDecision = d.finalDecision

theorem Becomes.refl (d : SessionEvent) : Becomes d d := ⟨rfl, .inr rfl⟩

theorem Becomes.trans {d d' d'' : SessionEvent} (h : Becomes d d') (h' : Becomes d' d'') :
    Becomes d d'' := by
  refine ⟨?_, ?_⟩
  · rw [h'.kept, h.kept]
  · rcases h.final with hd | hd
    · exact .inl hd
    · rcases h'.final with hd' | hd'
      · exact .inl (by rw [← hd, hd'])
      · exact .inr (by rw [hd', hd])

theorem Becomes.sessionId {d d' : SessionEvent} (h : Becomes d d') :
    d'.sessionId = d.sessionId := by
  rw [h.kept]

theorem Becomes.sequenceNumber {d d' : SessionEvent} (h : Becomes d d') :
    d'.sequenceNumber = d.sequenceNumber := by
  rw [h.kept]

def Distinct (d e : SessionEvent) : Prop :=
  ¬ (d.sessionId = e.sessionId ∧ d.sequenceNumber = e.sequenceNumber)

end SessionEvent

theorem SessionRepository.finalizeFirst_of_update {r r' : SessionRepository} {sessionId : String}
    {n : Nat} {decision : Decision}
    (h : r.updateEventFinalDecision sessionId n decision = (r', .ok ())) :
    finalizeFirst sessionId n decision r.events = .ok r'.events := by
  simp only [updateEventFinalDecision] at h
  split at h
  · cases h
  · split at h
    · cases h
    · split at h
      · cases h
      · rename_i events hok
        cases h
        exact hok

namespace SessionBackend

variable {b b' : SessionBackend} {es : List SessionEvent} {r : SessionBackend.LogChange}

-- the recorded events `es`, in order, against the counters and the events still stored
structure Logged (es : List SessionEvent) (b : SessionBackend) : Prop where
  session : ∀ k, (es.filter (fun e => e.sessionId = k)).map (·.sequenceNumber) =
    List.range' 1 (b.sessionSequence k)
  agent : ∀ a, (es.filter (fun e => e.agentId = a)).map (·.agentSequence) =
    List.range' 1 (b.currentAgentSequence a)
  distinct : b.events.Pairwise SessionEvent.Distinct
  stored : ∀ d' ∈ b.events, ∃ d ∈ es, d.Becomes d'

theorem numbered_snoc {key : SessionEvent → String} {number : SessionEvent → Nat}
    {count count' : String → Nat} {e : SessionEvent} {k : String}
    (h : (es.filter (fun d => key d = k)).map number = List.range' 1 (count k))
    (hnext : number e = count (key e) + 1)
    (hcount : count' k = if key e = k then number e else count k) :
    ((es ++ [e]).filter (fun d => key d = k)).map number = List.range' 1 (count' k) := by
  rw [hcount, List.filter_append, List.map_append, h]
  rcases eq_or_ne (key e) k with rfl | hk
  · rw [if_pos rfl, hnext, List.range'_1_concat, Nat.add_comm 1]
    simp [hnext]
  · simp [hk]

theorem Logged.bounded (h : Logged es b) {d : SessionEvent} (hd : d ∈ b.events) :
    d.sequenceNumber ≤ b.sessionSequence d.sessionId := by
  obtain ⟨d₀, hd₀, hbecomes⟩ := h.stored d hd
  have hmem : d.sequenceNumber ∈ (es.filter (fun e => e.sessionId = d.sessionId)).map
      (·.sequenceNumber) := by
    rw [hbecomes.sequenceNumber]
    exact List.mem_map.mpr ⟨d₀, List.mem_filter.mpr ⟨hd₀, by simp [hbecomes.sessionId]⟩, rfl⟩
  rw [h.session, List.mem_range'_1] at hmem
  omega

theorem mem_finalized {sessionId : String} {n : Nat} {decision : Decision}
    {events events' : List SessionEvent}
    (h : SessionRepository.finalizeFirst sessionId n decision events = .ok events')
    {d' : SessionEvent} (hd' : d' ∈ events') : ∃ d ∈ events, d.Becomes d' := by
  obtain ⟨pre, x, post, rfl, -, -, -, hfinal, rfl⟩ := SessionRepository.finalizeFirst_ok h
  rcases List.mem_append.mp hd' with hd' | hd'
  · exact ⟨d', by simp [hd'], .refl d'⟩
  · rcases List.mem_cons.mp hd' with rfl | hd'
    · refine ⟨x, by simp, rfl, ?_⟩
      rcases hfinal with hnone | hsome
      · exact .inl hnone
      · exact .inr hsome.symm
    · exact ⟨d', by simp [hd'], .refl d'⟩

theorem distinct_finalized {sessionId : String} {n : Nat} {decision : Decision}
    {events events' : List SessionEvent}
    (h : SessionRepository.finalizeFirst sessionId n decision events = .ok events')
    (hdistinct : events.Pairwise SessionEvent.Distinct) :
    events'.Pairwise SessionEvent.Distinct := by
  obtain ⟨pre, x, post, rfl, -, -, -, -, rfl⟩ := SessionRepository.finalizeFirst_ok h
  rw [List.pairwise_append, List.pairwise_cons] at hdistinct ⊢
  obtain ⟨hpre, ⟨hx, hpost⟩, hcross⟩ := hdistinct
  refine ⟨hpre, ⟨hx, hpost⟩, ?_⟩
  intro d hd e he
  rcases List.mem_cons.mp he with rfl | he
  · exact hcross d hd x (by simp)
  · exact hcross d hd e (by simp [he])

theorem Logged.counted (h : Logged es b)
    (hsession : ∀ k, b'.sessionSequence k = b.sessionSequence k)
    (hagent : ∀ a, b'.currentAgentSequence a = b.currentAgentSequence a)
    (hdistinct : b'.events.Pairwise SessionEvent.Distinct)
    (hstored : ∀ d' ∈ b'.events, ∃ d ∈ b.events, d.Becomes d') : Logged es b' := by
  refine ⟨?_, ?_, hdistinct, ?_⟩
  · intro k
    rw [hsession, h.session]
  · intro a
    rw [hagent, h.agent]
  · intro d' hd'
    obtain ⟨d, hd, hbecomes⟩ := hstored d' hd'
    obtain ⟨d₀, hd₀, hfirst⟩ := h.stored d hd
    exact ⟨d₀, hd₀, hfirst.trans hbecomes⟩

theorem LogEffect.logged (he : LogEffect b b' r) (h : Logged es b) :
    Logged (es ++ r.event.toList) b' := by
  cases he with
  | silent hsession hagent hevents =>
    rw [LogChange.event, Option.toList_none, List.append_nil]
    apply h.counted hsession hagent
    · rw [hevents]
      exact h.distinct
    · rw [hevents]
      exact fun d hd => ⟨d, hd, .refl d⟩
  | pruned cutoff hsession hagent hevents =>
    rw [LogChange.event, Option.toList_none, List.append_nil]
    apply h.counted hsession hagent
    · rw [hevents]
      exact h.distinct.filter _
    · rw [hevents]
      exact fun d hd => ⟨d, List.mem_of_mem_filter hd, .refl d⟩
  | finalized sessionId n decision hsession hagent hevents =>
    rw [LogChange.event, Option.toList_none, List.append_nil]
    exact h.counted hsession hagent (distinct_finalized hevents h.distinct)
      (fun d' hd' => mem_finalized hevents hd')
  | recorded e hnumber hposition hsession hagent hevents =>
    refine ⟨?_, ?_, ?_, ?_⟩
    · intro k
      exact numbered_snoc (h.session k) hnumber (hsession k)
    · intro a
      exact numbered_snoc (h.agent a) hposition (hagent a)
    · rw [hevents, List.pairwise_append]
      refine ⟨h.distinct, List.pairwise_singleton _ _, ?_⟩
      rintro d hd x hx ⟨hs, hn⟩
      obtain rfl := List.mem_singleton.mp hx
      have hle := h.bounded hd
      rw [hs, hn, hnumber] at hle
      omega
    · intro d' hd'
      rw [hevents] at hd'
      rcases List.mem_append.mp hd' with hd' | hd'
      · obtain ⟨d, hd, hbecomes⟩ := h.stored d' hd'
        exact ⟨d, by simp [hd], hbecomes⟩
      · obtain rfl := List.mem_singleton.mp hd'
        exact ⟨d', by simp [LogChange.event], .refl d'⟩

-- what a state says about every later one
structure Later (b b' : SessionBackend) : Prop where
  session : ∀ k, b.sessionSequence k ≤ b'.sessionSequence k
  stored : ∀ d' ∈ b'.events, (∃ d ∈ b.events, d.Becomes d') ∨
    b.sessionSequence d'.sessionId < d'.sequenceNumber

theorem Later.refl (b : SessionBackend) : Later b b :=
  ⟨fun _ => Nat.le_refl _, fun d hd => .inl ⟨d, hd, .refl d⟩⟩

theorem Later.trans {b'' : SessionBackend} (h : Later b b') (h' : Later b' b'') : Later b b'' := by
  refine ⟨fun k => (h.session k).trans (h'.session k), ?_⟩
  intro d'' hd''
  rcases h'.stored d'' hd'' with ⟨d', hd', hbecomes⟩ | hnew
  · rcases h.stored d' hd' with ⟨d, hd, hfirst⟩ | hnew
    · exact .inl ⟨d, hd, hfirst.trans hbecomes⟩
    · rw [hbecomes.sessionId, hbecomes.sequenceNumber]
      exact .inr hnew
  · exact .inr ((h.session _).trans_lt hnew)

theorem LogEffect.later (he : LogEffect b b' r) : Later b b' := by
  cases he with
  | silent hsession hagent hevents =>
    refine ⟨fun k => (hsession k).ge, ?_⟩
    rw [hevents]
    exact fun d hd => .inl ⟨d, hd, .refl d⟩
  | pruned cutoff hsession hagent hevents =>
    refine ⟨fun k => (hsession k).ge, ?_⟩
    rw [hevents]
    exact fun d hd => .inl ⟨d, List.mem_of_mem_filter hd, .refl d⟩
  | finalized sessionId n decision hsession hagent hevents =>
    exact ⟨fun k => (hsession k).ge, fun d' hd' => .inl (mem_finalized hevents hd')⟩
  | recorded e hnumber hposition hsession hagent hevents =>
    refine ⟨?_, ?_⟩
    · intro k
      rw [hsession]
      split
      · rename_i hk
        subst hk
        omega
      · exact Nat.le_refl _
    · intro d hd
      rw [hevents] at hd
      rcases List.mem_append.mp hd with hd | hd
      · exact .inl ⟨d, hd, .refl d⟩
      · obtain rfl := List.mem_singleton.mp hd
        exact .inr (by omega)

theorem eq_of_distinct {events : List SessionEvent} (h : events.Pairwise SessionEvent.Distinct)
    {d e : SessionEvent} (hd : d ∈ events) (he : e ∈ events) (hs : d.sessionId = e.sessionId)
    (hn : d.sequenceNumber = e.sequenceNumber) : d = e := by
  by_contra hne
  have hsymm : Std.Symm SessionEvent.Distinct := ⟨fun d e h hsame => h ⟨hsame.1.symm, hsame.2.symm⟩⟩
  exact h.forall hd he hne ⟨hs, hn⟩

theorem Logged.becomes (h : Logged es b) (hlater : Later b b') {d d' : SessionEvent}
    (hd : d ∈ b.events) (hd' : d' ∈ b'.events) (hs : d'.sessionId = d.sessionId)
    (hn : d'.sequenceNumber = d.sequenceNumber) : d.Becomes d' := by
  rcases hlater.stored d' hd' with ⟨d₀, hd₀, hbecomes⟩ | hnew
  · have hsame : d₀ = d := by
      apply eq_of_distinct h.distinct hd₀ hd
      · rw [← hbecomes.sessionId, hs]
      · rw [← hbecomes.sequenceNumber, hn]
    rw [← hsame]
    exact hbecomes
  · have hbounded := h.bounded hd
    rw [hs, hn] at hnew
    omega

theorem logged_fresh {rows : List String} (hb : b.Fresh rows) : b.Counting ∧ Logged [] b := by
  rcases hb with rfl | rfl
  · exact ⟨trivial, fun _ => rfl, fun _ => rfl, .nil, by simp [events, SessionRepository.empty]⟩
  · refine ⟨?_, fun _ => rfl, fun _ => rfl, .nil, by simp [events]⟩
    rintro k row ⟨⟩

theorem updateEventFinalDecision_ok {sessionId : String} {n : Nat} {decision : Decision}
    (h : (b.updateEventFinalDecision sessionId n decision).2 = .ok ()) :
    SessionRepository.finalizeFirst sessionId n decision b.events =
      .ok (b.updateEventFinalDecision sessionId n decision).1.events := by
  cases b with
  | inMemory r =>
    cases hr : r.updateEventFinalDecision sessionId n decision with
    | mk r' reply =>
      simp only [updateEventFinalDecision, lift, hr] at h ⊢
      cases reply with
      | error err => cases h
      | ok u => exact SessionRepository.finalizeFirst_of_update hr
  | sql q =>
    rcases q.updateEventFinalDecision_cases sessionId n decision with ⟨err, hq⟩ | ⟨rows, hok, hq⟩
    · simp only [updateEventFinalDecision, liftSql, hq] at h
      cases h
    · simp only [updateEventFinalDecision, liftSql, hq]
      exact hok

end SessionBackend

namespace RepositoryCall

variable {b : SessionBackend} {rows : List String}

-- the positions handed out to an agent by the record_event calls of a history
def allocated (h : List (RepositoryCall × RepositoryReply)) (agentId : String) : List Nat :=
  ((recordings h).filter (fun e => e.agentId = agentId)).map (·.agentSequence)

theorem filterMap_snoc {α β : Type} (f : α → Option β) (l : List α) (x : α) :
    (l ++ [x]).filterMap f = l.filterMap f ++ (f x).toList := by
  rw [List.filterMap_append, List.filterMap_cons, List.filterMap_nil]
  cases f x <;> rfl

theorem history_logged (hb : b.Fresh rows) (calls : List RepositoryCall) :
    (Run.final (fun b c => answer b c) b calls).Counting ∧
      (Run.final (fun b c => answer b c) b calls).Logged
        (recordings (Run.history (fun b c => answer b c) b calls)) := by
  apply Run.history_invariant (fun b c => answer b c)
    (fun h b => b.Counting ∧ b.Logged (recordings h))
  · exact b.logged_fresh hb
  · rintro pre call post - ⟨hc, hlogged⟩
    obtain ⟨⟨change, hevent, heffect⟩, hcounting⟩ := answer_log hc call
    rw [recordings, filterMap_snoc, ← hevent]
    exact ⟨hcounting, heffect.logged hlogged⟩

theorem final_later (hc : b.Counting) (calls : List RepositoryCall) :
    b.Later (Run.final (fun b c => answer b c) b calls) := by
  induction calls generalizing b with
  | nil => exact .refl b
  | cons call calls ih =>
    obtain ⟨⟨change, -, heffect⟩, hcounting⟩ := answer_log hc call
    exact heffect.later.trans (ih hcounting)

theorem differing_update_refused {es : List SessionEvent} (h : b.Logged es) {d : SessionEvent}
    {recorded decision : Decision} (hd : d ∈ b.events) (hfinal : d.finalDecision = some recorded)
    (hne : decision ≠ recorded) : ∃ err,
      answer b (.updateEventFinalDecision d.sessionId d.sequenceNumber decision) =
        (b, .finalized (.error err)) := by
  cases hr : (b.updateEventFinalDecision d.sessionId d.sequenceNumber decision).2 with
  | error err =>
    refine ⟨err, ?_⟩
    simp only [answer, Prod.map, SessionBackend.updateEventFinalDecision_refused hr, hr, id]
  | ok u =>
    obtain ⟨pre, x, post, hevents, -, hs, hn, hx, -⟩ :=
      SessionRepository.finalizeFirst_ok (SessionBackend.updateEventFinalDecision_ok hr)
    have hsame : x = d := SessionBackend.eq_of_distinct h.distinct (by rw [hevents]; simp) hd hs hn
    rw [hsame, hfinal] at hx
    rcases hx with hx | hx
    · cases hx
    · exact absurd (Option.some.inj hx).symm hne

-- what a call leaves alone in the state it is made in
structure Guarded (b : SessionBackend) : Prop where
  refused : ∀ e err, (answer b (.recordEvent e)).2 = .recorded (.error err) →
    (answer b (.recordEvent e)).1 = b
  final : ∀ d ∈ b.events, ∀ recorded decision, d.finalDecision = some recorded →
    decision ≠ recorded → ∃ err,
      answer b (.updateEventFinalDecision d.sessionId d.sequenceNumber decision) =
        (b, .finalized (.error err))

theorem guarded_of_logged {es : List SessionEvent} (h : b.Logged es) : Guarded b := by
  refine ⟨?_, fun d hd recorded decision hfinal hne => differing_update_refused h hd hfinal hne⟩
  intro e err herr
  simp only [answer, Prod.map, RepositoryReply.recorded.injEq] at herr
  exact SessionBackend.recordEvent_refused herr

theorem event_log_invariant (rows : List String) (b : SessionBackend) (hb : b.Fresh rows)
    (calls : List RepositoryCall) (h : List (RepositoryCall × RepositoryReply)) (q : SessionBackend)
    (hh : h = Run.history (fun b c => answer b c) b calls)
    (hq : q = Run.final (fun b c => answer b c) b calls) :
    (∀ sessionId, ((recordings h).filter (fun e => e.sessionId = sessionId)).map
      (·.sequenceNumber) =
        List.range' 1 ((recordings h).filter (fun e => e.sessionId = sessionId)).length) ∧
      (∀ agentId, (allocated h agentId).Pairwise (· < ·) ∧
        (∀ n ∈ allocated h agentId, n ≤ q.currentAgentSequence agentId) ∧
        (q.currentAgentSequence agentId = 0 ∨
          q.currentAgentSequence agentId ∈ allocated h agentId)) ∧
      (∀ d' ∈ q.events, ∃ d ∈ recordings h, d.Becomes d') ∧
      ∀ calls₁ calls₂, calls = calls₁ ++ calls₂ →
        Guarded (Run.final (fun b c => answer b c) b calls₁) ∧
          ∀ d ∈ (Run.final (fun b c => answer b c) b calls₁).events, ∀ d' ∈ q.events,
            d'.sessionId = d.sessionId → d'.sequenceNumber = d.sequenceNumber → d.Becomes d' := by
  subst hh hq
  obtain ⟨-, hlogged⟩ := history_logged hb calls
  refine ⟨?_, ?_, hlogged.stored, ?_⟩
  · intro k
    have hnumbers := hlogged.session k
    have hlength := congrArg List.length hnumbers
    rw [List.length_map, List.length_range'] at hlength
    rw [hlength]
    exact hnumbers
  · intro a
    have hpositions : allocated _ a = _ := hlogged.agent a
    rw [hpositions]
    refine ⟨List.pairwise_lt_range', ?_, ?_⟩
    · intro n hn
      rw [List.mem_range'_1] at hn
      omega
    · rw [List.mem_range'_1]
      omega
  · rintro calls₁ calls₂ rfl
    obtain ⟨hc, hlogged₁⟩ := history_logged hb calls₁
    refine ⟨guarded_of_logged hlogged₁, ?_⟩
    intro d hd d' hd' hs hn
    rw [Run.final_append] at hd'
    exact hlogged₁.becomes (final_later hc calls₂) hd hd' hs hn

def denial (timestamp : Instant) : SessionEvent :=
  { sessionId := "session-1", agentId := "agent-1", toolId := "ticket_read",
      decision := .deny, timestamp }

def prunedCalls : List RepositoryCall :=
  [.bindOrCreateSession "session-1" "agent-1" 0, .recordEvent (denial 1), .recordEvent (denial 2),
    .updateEventFinalDecision "session-1" 2 .deny, .pruneEvents 2, .recordEvent (denial 3)]

theorem event_log_invariant_pruned :
    (allocated
      (Run.history (fun b c => answer b c) (.sql ⟨["agent-1"], .empty, .empty, []⟩) prunedCalls)
        "agent-1").Pairwise (· < ·) ∧
      (Run.final (fun b c => answer b c) (.sql ⟨["agent-1"], .empty, .empty, []⟩)
        prunedCalls).currentAgentSequence "agent-1" = 3 :=
  ⟨((event_log_invariant ["agent-1"] _ (.inr rfl) prunedCalls _ _ rfl rfl).2.1 "agent-1").1,
    by decide +kernel⟩

end RepositoryCall

end AgentSecurityPlatform
