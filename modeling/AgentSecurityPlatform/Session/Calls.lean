import AgentSecurityPlatform.Library.Refinement
import AgentSecurityPlatform.Session.Backend

namespace AgentSecurityPlatform

inductive SessionCall where
  | request (req : SessionRequest)
  | getSession (sessionId : String)
  | pruneEvents (now : Instant)
  | currentAgentSequence (agentId : String)
  | listEvents (sessionId : String)
  | listEligibleEvents (query : HorizonQuery)
  deriving DecidableEq, Repr

inductive SessionReply where
  | outcome (o : SessionOutcome)
  | pruned (count : Nat)
  | sequence (n : Nat)
  | events (es : List SessionEvent)
  deriving DecidableEq, Repr

namespace SessionBackend

def pruneExpired (retention : Option DetectionRetentionPolicy) (b : SessionBackend)
    (now : Instant) :
    SessionBackend × Nat :=
  match retention with
  | none => (b, 0)
  | some policy => b.pruneEvents (now - policy.totalRetentionSeconds)

def ownership (sessionId owner agentId : String) : Except SessionStoreError SessionOutcome :=
  if owner ≠ agentId then .error (.refused (.binding sessionId owner agentId)) else .ok .ended

def endSession (b : SessionBackend) (sessionId agentId : String) (now : Instant) :
    SessionBackend × Except SessionStoreError SessionOutcome :=
  match b.getTombstone sessionId with
  | some t => (b, ownership sessionId t.agentId agentId)
  | none =>
    match b.getSession sessionId with
    | none => (b, .error (.refused (.notFound sessionId)))
    | some existing =>
      if existing.agentId ≠ agentId then
        (b, .error (.refused (.binding sessionId existing.agentId agentId)))
      else
        match TerminalSessionTombstone.construct sessionId agentId now .explicitEnd with
        | none => (b, .error (.refused .validation))
        | some t =>
          match b.terminalizeSession sessionId t with
          | (b', true) => (b', .ok .ended)
          | (b', false) =>
            match b'.getTombstone sessionId with
            | some recheck => (b', ownership sessionId recheck.agentId agentId)
            | none => (b', .error (.refused (.notFound sessionId)))

def expireAll (threshold now : Instant) :
    List Session → List String → SessionBackend →
      SessionBackend × Except SessionStoreError (List String)
  | [], expiredIds, b => (b, .ok expiredIds)
  | s :: rest, expiredIds, b =>
    if threshold ≤ now - s.lastActivityAt then
      match TerminalSessionTombstone.construct s.sessionId s.agentId now .idleTimeout with
      | none => (b, .error (.refused .validation))
      | some t =>
        match b.terminalizeSession s.sessionId t with
        | (b', true) => expireAll threshold now rest (expiredIds ++ [s.sessionId]) b'
        | (b', false) => expireAll threshold now rest expiredIds b'
    else expireAll threshold now rest expiredIds b

end SessionBackend

def SessionRequest.serve (retention : Option DetectionRetentionPolicy) (order : RowOrder)
    (b : SessionBackend) : SessionRequest → SessionBackend × Except SessionStoreError SessionOutcome
  | .createSession s => ((b.createSession s).1, (b.createSession s).2.map .session)
  | .bindOrValidate sessionId agentId now =>
    ((b.bindOrCreateSession sessionId agentId now).1,
      (b.bindOrCreateSession sessionId agentId now).2.map .session)
  | .recordEvent e =>
    match b.recordEvent e with
    | (b', .error err) => (b', .error err)
    | (b', .ok recorded) =>
      ((b'.pruneExpired retention recorded.timestamp).1, .ok (.event recorded))
  | .updateEventFinalDecision sessionId n decision =>
    ((b.updateEventFinalDecision sessionId n decision).1,
      (b.updateEventFinalDecision sessionId n decision).2.map (fun _ => .finalized))
  | .endSession sessionId agentId now => b.endSession sessionId agentId now
  | .expireIdleSessions threshold now =>
    if threshold ≤ 0 then (b, .error (.refused .invalidThreshold))
    else
      let pass := SessionBackend.expireAll threshold now (b.listSessions order) [] b
      (pass.1, pass.2.map .expired)

-- a call of SessionService; the second component is the order in which a SELECT returns its rows
def SessionCall.serve (retention : Option DetectionRetentionPolicy) (b : SessionBackend)
    (c : SessionCall × RowOrder) : SessionBackend × Except SessionStoreError SessionReply :=
  match c.1 with
  | .request req => ((req.serve retention c.2 b).1, (req.serve retention c.2 b).2.map .outcome)
  | .getSession sessionId =>
    match b.getSession sessionId with
    | none => (b, .error (.refused (.notFound sessionId)))
    | some s => (b, .ok (.outcome (.session s)))
  | .pruneEvents now =>
    ((b.pruneExpired retention now).1, .ok (.pruned (b.pruneExpired retention now).2))
  | .currentAgentSequence agentId => (b, .ok (.sequence (b.currentAgentSequence agentId)))
  | .listEvents sessionId => (b, .ok (.events (b.listEvents sessionId)))
  | .listEligibleEvents query => (b, .ok (.events (b.listEligibleEvents query)))

-- OverflowError, and the SessionRepositoryError that the SQL adapter makes of it
inductive SessionFault where
  | store (e : SessionStoreError)
  | overflow
  | repository
  deriving DecidableEq, Repr

def SessionBackend.cutoffFault : SessionBackend → SessionFault
  | .inMemory _ => .overflow
  | .sql _ => .repository

namespace SessionCall

def pruneOverflows (earliest : Instant) (retention : Option DetectionRetentionPolicy)
    (now : Instant) : Bool :=
  retention.any (fun policy => now - policy.totalRetentionSeconds < earliest)

-- where the subtraction of a cutoff falls below datetime.min, which is `earliest`
def overflows (earliest : Instant) (retention : Option DetectionRetentionPolicy)
    (b : SessionBackend) : SessionCall → Option (SessionBackend × SessionFault)
  | .request (.recordEvent e) =>
    match b.recordEvent e with
    | (b', .ok recorded) =>
      if pruneOverflows earliest retention recorded.timestamp then some (b', .overflow) else none
    | (_, .error _) => none
  | .pruneEvents now => if pruneOverflows earliest retention now then some (b, .overflow) else none
  | .listEligibleEvents query =>
    if query.evaluationTime - query.windowSeconds < earliest then some (b, b.cutoffFault) else none
  | _ => none

-- a call of SessionService on datetime values, which end at datetime.min
def serveDated (earliest : Instant) (retention : Option DetectionRetentionPolicy)
    (b : SessionBackend) (c : SessionCall × RowOrder) :
    SessionBackend × Except SessionFault SessionReply :=
  match c.1.overflows earliest retention b with
  | some (b', fault) => (b', .error fault)
  | none => ((serve retention b c).1, (serve retention b c).2.mapError .store)

end SessionCall

namespace SessionWork

variable {b : SessionBackend} {retention : Option DetectionRetentionPolicy} {order : RowOrder}

-- a thread that is never interrupted
def alone (retention : Option DetectionRetentionPolicy) (order : RowOrder) (n : Nat)
    (x : SessionBackend × SessionWork) : SessionBackend × SessionWork :=
  (fun y : SessionBackend × SessionWork => y.2.advance retention order y.1)^[n] x

theorem alone_expiring (threshold now : Instant) (remaining : List Session)
    (expiredIds : List String) (b : SessionBackend) : ∃ n,
      alone retention order n (b, .expiring threshold now remaining expiredIds) =
        ((SessionBackend.expireAll threshold now remaining expiredIds b).1,
          .done
            ((SessionBackend.expireAll threshold now remaining expiredIds b).2.map .expired)) := by
  induction remaining generalizing expiredIds b with
  | nil => exact ⟨1, rfl⟩
  | cons s remaining ih =>
    simp only [SessionBackend.expireAll]
    split
    · rename_i hidle
      split
      · rename_i hnone
        refine ⟨1, ?_⟩
        simp only [alone, Function.iterate_one, advance, if_pos hidle, hnone]
        rfl
      · rename_i t ht
        split
        all_goals
          rename_i b' hb'
          obtain ⟨n, hn⟩ := ih _ b'
          refine ⟨n + 1, ?_⟩
          simp only [alone, Function.iterate_succ, Function.comp, advance, if_pos hidle,
            ht, hb'] at hn ⊢
          exact hn
    · rename_i hidle
      obtain ⟨n, hn⟩ := ih expiredIds b
      refine ⟨n + 1, ?_⟩
      simp only [alone, Function.iterate_succ, Function.comp, advance, if_neg hidle] at hn ⊢
      exact hn

theorem ownedBy_eq (sessionId owner agentId : String) :
    ownedBy sessionId owner agentId = .done (SessionBackend.ownership sessionId owner agentId) := by
  simp only [ownedBy, SessionBackend.ownership]
  split <;> rfl

theorem alone_step {n : Nat} {b₁ b₂ b₃ : SessionBackend} {w₁ w₂ w₃ : SessionWork}
    (h : w₁.advance retention order b₁ = (b₂, w₂))
    (hn : alone retention order n (b₂, w₂) = (b₃, w₃)) :
    alone retention order (n + 1) (b₁, w₁) = (b₃, w₃) := by
  rw [← hn, ← h]
  rfl

theorem alone_endSession (sessionId agentId : String) (now : Instant) (b : SessionBackend) :
    ∃ n, alone retention order n (b, .start (.endSession sessionId agentId now)) =
      ((b.endSession sessionId agentId now).1, .done (b.endSession sessionId agentId now).2) := by
  simp only [SessionBackend.endSession]
  split
  · rename_i t ht
    exact ⟨1, by simp [alone, advance, ht, ownedBy_eq]⟩
  · rename_i hopen
    have hchecked :
      (SessionWork.start (.endSession sessionId agentId now)).advance retention order b =
        (b, .endChecked sessionId agentId now) := by
      simp only [advance, hopen]
    split
    · rename_i hnone
      exact ⟨_, alone_step hchecked (n := 1) (by simp [alone, advance, hnone, refuse])⟩
    · rename_i existing hs
      split
      · rename_i howner
        exact ⟨_, alone_step hchecked (n := 1) (by simp [alone, advance, hs, howner, refuse])⟩
      · rename_i howner
        split
        · rename_i hinvalid
          exact ⟨_, alone_step hchecked (n := 1) (by
            simp [alone, advance, hs, not_not.mp howner, hinvalid, refuse])⟩
        · rename_i t ht
          have hfound : (SessionWork.endChecked sessionId agentId now).advance retention order b =
              (b, .endFound sessionId agentId t) := by
            simp only [advance, hs, if_neg howner, ht]
          split
          · rename_i b' hb'
            exact ⟨_, alone_step hchecked (alone_step hfound (n := 1) (by
              simp [alone, advance, hb']))⟩
          · rename_i b' hb'
            have hlost : (SessionWork.endFound sessionId agentId t).advance retention order b =
                (b', .endLost sessionId agentId) := by
              simp only [advance, hb']
            split
            · rename_i recheck hrecheck
              exact ⟨_, alone_step hchecked (alone_step hfound (alone_step hlost (n := 1) (by
                simp [alone, advance, hrecheck, ownedBy_eq])))⟩
            · rename_i hmissing
              exact ⟨_, alone_step hchecked (alone_step hfound (alone_step hlost (n := 1) (by
                simp [alone, advance, hmissing, refuse])))⟩

theorem serve_alone (req : SessionRequest) (b : SessionBackend) : ∃ n,
    alone retention order n (b, .start req) =
      ((req.serve retention order b).1, .done (req.serve retention order b).2) := by
  cases req with
  | createSession s => exact ⟨1, rfl⟩
  | bindOrValidate sessionId agentId now => exact ⟨1, rfl⟩
  | updateEventFinalDecision sessionId n decision => exact ⟨1, rfl⟩
  | endSession sessionId agentId now => exact alone_endSession sessionId agentId now b
  | recordEvent e =>
    simp only [SessionRequest.serve]
    split
    · rename_i b' err hr
      exact ⟨1, by simp [alone, advance, hr]⟩
    · rename_i b' recorded hr
      have hpruning : (SessionWork.start (.recordEvent e)).advance retention order b =
          (b', .pruning recorded) := by
        simp only [advance, hr]
      refine ⟨_, alone_step hpruning (n := 1) ?_⟩
      cases retention <;> rfl
  | expireIdleSessions threshold now =>
    simp only [SessionRequest.serve]
    split
    · rename_i hthreshold
      exact ⟨1, by simp [alone, advance, hthreshold, refuse]⟩
    · rename_i hthreshold
      have hlisted :
        (SessionWork.start (.expireIdleSessions threshold now)).advance retention order b =
          (b, .expiring threshold now (b.listSessions order) []) := by
        simp only [advance, if_neg hthreshold]
      obtain ⟨n, hn⟩ := alone_expiring threshold now (b.listSessions order) [] b
      exact ⟨n + 1, alone_step hlisted hn⟩

end SessionWork

end AgentSecurityPlatform
