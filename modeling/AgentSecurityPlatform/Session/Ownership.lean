import AgentSecurityPlatform.Session.Backend

namespace AgentSecurityPlatform

namespace SessionRepository

variable {m m' m'' : SessionRepository}

def owner (m : SessionRepository) (sessionId : String) : Option String :=
  match m.tombstones.get? sessionId with
  | some t => some t.agentId
  | none => (m.sessions.get? sessionId).map (·.agentId)

inductive Effect (m : SessionRepository) : SessionRepository → Prop where
  | idle : Effect m m
  | opened (s : Session) (hs : m.sessions.get? s.sessionId = none)
      (ht : m.tombstones.get? s.sessionId = none) :
      Effect m (m.withSessions (m.sessions.set s.sessionId s))
  | touched (sessionId : String) (s : Session) (now : Instant)
      (hs : m.sessions.get? sessionId = some s) (ht : m.tombstones.get? sessionId = none) :
      Effect m (m.withSessions (m.sessions.set sessionId { s with lastActivityAt := now }))
  | recorded (e : SessionEvent) (active : Session) (hs : m.sessions.get? e.sessionId = some active)
      (ht : m.tombstones.get? e.sessionId = none) (howner : active.agentId = e.agentId) :
      Effect m (m.appendEvent e active).1
  | pruned (cutoff : Instant) : Effect m (m.pruneEvents cutoff).1
  | finalized (m' : SessionRepository) (sessionId : String) (n : Nat) (decision : Decision)
      (ht : m.tombstones.get? sessionId = none)
      (hevents : finalizeFirst sessionId n decision m.events = .ok m'.events)
      (hsessions : m'.sessions = m.sessions) (htombstones : m'.tombstones = m.tombstones) :
      Effect m m'
  | terminated (sessionId : String) (t : TerminalSessionTombstone) (s : Session)
      (hs : m.sessions.get? sessionId = some s) (ht : m.tombstones.get? sessionId = none)
      (howner : t.agentId = s.agentId) (hid : t.sessionId = sessionId) :
      Effect m (m.terminalizeSession sessionId t).1

theorem createSession_effect (m : SessionRepository) (s : Session) :
    Effect m (m.createSession s).1 := by
  simp only [createSession]
  split
  · exact .idle
  · rename_i ht
    split
    · exact .idle
    · rename_i hs
      rw [Bool.not_eq_true, Dict.contains_eq_false_iff] at hs
      exact .opened s hs ht

theorem bindOrCreateSession_effect (m : SessionRepository) (sessionId agentId : String)
    (now : Instant) : Effect m (m.bindOrCreateSession sessionId agentId now).1 := by
  simp only [bindOrCreateSession]
  split
  · exact .idle
  · rename_i ht
    split
    · rename_i hs
      exact .opened ⟨sessionId, agentId, now, now⟩ hs ht
    · rename_i existing hs
      split
      · exact .idle
      · exact .touched sessionId existing now hs ht

theorem recordEvent_effect (m : SessionRepository) (e : SessionEvent) :
    Effect m (m.recordEvent e).1 := by
  simp only [recordEvent]
  split
  · exact .idle
  · rename_i ht
    split
    · exact .idle
    · rename_i active hs
      split
      · exact .idle
      · rename_i howner
        split
        · exact .idle
        · split
          · exact .idle
          · exact .recorded e active hs ht (not_not.mp howner)

theorem updateEventFinalDecision_effect (m : SessionRepository) (sessionId : String) (n : Nat)
    (decision : Decision) : Effect m (m.updateEventFinalDecision sessionId n decision).1 := by
  simp only [updateEventFinalDecision]
  split
  · exact .idle
  · rename_i ht
    split
    · exact .idle
    · split
      · exact .idle
      · rename_i events hok
        exact .finalized _ sessionId n decision ht hok rfl rfl

theorem terminalizeSession_effect {sessionId : String} {t : TerminalSessionTombstone}
    (hid : t.sessionId = sessionId)
    (howner : ∀ s, m.sessions.get? sessionId = some s → t.agentId = s.agentId) :
    Effect m (m.terminalizeSession sessionId t).1 ∧
      ((m.terminalizeSession sessionId t).2 = true → m.tombstones.get? sessionId = none ∧
        (m.terminalizeSession sessionId t).1.tombstones.get? sessionId = some t ∧
        ∃ s, m.sessions.get? sessionId = some s) := by
  cases hs : m.sessions.get? sessionId with
  | none => simpa [terminalizeSession, Dict.contains, hs] using Effect.idle
  | some s =>
    cases ht : m.tombstones.get? sessionId with
    | some t' => simpa [terminalizeSession, Dict.contains, hs, ht] using Effect.idle
    | none =>
      refine ⟨.terminated sessionId t s hs ht (howner s hs) hid, fun _ => ⟨rfl, ?_, s, rfl⟩⟩
      simp [terminalizeSession, Dict.contains, hs, ht]

-- where the activity time of a session came from: kept, written by a new session, or by this call
def Dated (m m' : SessionRepository) (touch : Option (String × String × Instant)) : Prop :=
  ∀ k s', m'.sessions.get? k = some s' →
    (∃ s, m.sessions.get? k = some s ∧ s.lastActivityAt = s'.lastActivityAt) ∨
      m.owner k = none ∨
        ∃ s, m.sessions.get? k = some s ∧ touch = some (k, s.agentId, s'.lastActivityAt)

theorem Dated.of_sessions {touch : Option (String × String × Instant)}
    (h : ∀ k s', m'.sessions.get? k = some s' → m.sessions.get? k = some s') : Dated m m' touch :=
  fun k s' hs => .inl ⟨s', h k s' hs, rfl⟩

theorem Dated.refl (m : SessionRepository) (touch : Option (String × String × Instant)) :
    Dated m m touch := .of_sessions (fun _ _ h => h)

theorem dated_opened {s : Session} (hs : m.sessions.get? s.sessionId = none)
    (ht : m.tombstones.get? s.sessionId = none) (touch : Option (String × String × Instant)) :
    Dated m (m.withSessions (m.sessions.set s.sessionId s)) touch := by
  intro k s' hk
  simp only [withSessions, Dict.get?_set] at hk
  split at hk
  · rename_i he
    subst he
    exact .inr (.inl (by simp [owner, hs, ht]))
  · exact .inl ⟨s', hk, rfl⟩

theorem dated_touched {sessionId : String} {s : Session} (hs : m.sessions.get? sessionId = some s)
    (now : Instant)
    (hm' : m'.sessions = m.sessions.set sessionId { s with lastActivityAt := now }) :
    Dated m m' (some (sessionId, s.agentId, now)) := by
  intro k s' hk
  rw [hm', Dict.get?_set] at hk
  split at hk
  · rename_i he
    subst he
    cases hk
    exact .inr (.inr ⟨s, hs, rfl⟩)
  · exact .inl ⟨s', hk, rfl⟩

theorem createSession_dated (m : SessionRepository) (s : Session) :
    Dated m (m.createSession s).1 none := by
  simp only [createSession]
  split
  · exact .refl m _
  · rename_i ht
    split
    · exact .refl m _
    · rename_i hs
      rw [Bool.not_eq_true, Dict.contains_eq_false_iff] at hs
      exact dated_opened hs ht _

theorem bindOrCreateSession_dated (m : SessionRepository) (sessionId agentId : String)
    (now : Instant) :
    Dated m (m.bindOrCreateSession sessionId agentId now).1 (some (sessionId, agentId, now)) := by
  simp only [bindOrCreateSession]
  split
  · exact .refl m _
  · rename_i ht
    split
    · rename_i hs
      exact dated_opened (s := ⟨sessionId, agentId, now, now⟩) hs ht _
    · rename_i existing hs
      split
      · exact .refl m _
      · rename_i howner
        rw [not_not] at howner
        subst howner
        exact dated_touched hs now rfl

theorem recordEvent_dated (m : SessionRepository) (e : SessionEvent) :
    Dated m (m.recordEvent e).1
      (if e.sequenceNumber = 0 ∧ e.agentSequence = 0 then
        some (e.sessionId, e.agentId, e.timestamp) else none) := by
  simp only [recordEvent]
  split
  · exact .refl m _
  · split
    · exact .refl m _
    · rename_i active hs
      split
      · exact .refl m _
      · rename_i howner
        rw [not_not] at howner
        split
        · exact .refl m _
        · rename_i hnumber
          split
          · exact .refl m _
          · rename_i hposition
            rw [not_not] at hnumber hposition
            rw [if_pos ⟨hnumber, hposition⟩, ← howner]
            exact dated_touched hs e.timestamp rfl

theorem updateEventFinalDecision_dated (m : SessionRepository) (sessionId : String) (n : Nat)
    (decision : Decision) (touch : Option (String × String × Instant)) :
    Dated m (m.updateEventFinalDecision sessionId n decision).1 touch := by
  apply Dated.of_sessions
  intro k s' hk
  rw [(m.updateEventFinalDecision_counters sessionId n decision).1] at hk
  exact hk

theorem terminalizeSession_dated (m : SessionRepository) (sessionId : String)
    (t : TerminalSessionTombstone) (touch : Option (String × String × Instant)) :
    Dated m (m.terminalizeSession sessionId t).1 touch := by
  apply Dated.of_sessions
  intro k s' hk
  simp only [terminalizeSession] at hk
  split at hk
  · exact hk
  · split at hk
    · exact hk
    · rw [Dict.get?_erase] at hk
      split at hk
      · cases hk
      · exact hk

structure Settled (m : SessionRepository) : Prop where
  keyed : ∀ sessionId s, m.sessions.get? sessionId = some s → s.sessionId = sessionId
  disjoint : ∀ sessionId s, m.sessions.get? sessionId = some s → m.tombstones.get? sessionId = none
  owned : ∀ e ∈ m.events, m.owner e.sessionId = some e.agentId

theorem settled_empty : Settled empty := by
  refine ⟨?_, ?_, ?_⟩
  · intro k s h
    cases h
  · intro k s h
    cases h
  · intro e h
    cases h

-- what later steps never undo
structure Persists (m m' : SessionRepository) : Prop where
  owner : ∀ sessionId a, m.owner sessionId = some a → m'.owner sessionId = some a
  tombstone : ∀ sessionId t, m.tombstones.get? sessionId = some t →
    m'.tombstones.get? sessionId = some t
  frozen : ∀ sessionId t, m.tombstones.get? sessionId = some t →
    ∀ e ∈ m'.events, e.sessionId = sessionId → e ∈ m.events

theorem Persists.refl (m : SessionRepository) : Persists m m :=
  ⟨fun _ _ h => h, fun _ _ h => h, fun _ _ _ _ h _ => h⟩

theorem Persists.trans (h : Persists m m') (h' : Persists m' m'') : Persists m m'' := by
  refine ⟨fun k a ha => h'.owner k a (h.owner k a ha),
    fun k t ht => h'.tombstone k t (h.tombstone k t ht), ?_⟩
  intro k t ht e he hk
  exact h.frozen k t ht e (h'.frozen k t (h.tombstone k t ht) e he hk) hk

theorem Settled.owner_live (h : m.Settled) {sessionId : String} {s : Session}
    (hs : m.sessions.get? sessionId = some s) : m.owner sessionId = some s.agentId := by
  simp [owner, h.disjoint sessionId s hs, hs]

theorem owner_congr (hs : ∀ k, (m'.sessions.get? k).map (·.agentId) =
      (m.sessions.get? k).map (·.agentId)) (ht : m'.tombstones = m.tombstones) (k : String) :
    m'.owner k = m.owner k := by
  simp only [owner, ht, hs]

theorem map_agentId_set {sessions : Dict String Session} {sessionId : String} {s : Session}
    (h : sessions.get? sessionId = some s) (now : Instant) (k : String) :
    ((sessions.set sessionId { s with lastActivityAt := now }).get? k).map (·.agentId) =
      (sessions.get? k).map (·.agentId) := by
  rw [Dict.get?_set]
  split
  · rename_i hk
    rw [← hk, h]
    rfl
  · rfl

theorem Effect.owner_eq (h : Effect m m') {k a : String} (ha : m.owner k = some a) :
    m'.owner k = some a := by
  cases h with
  | idle => exact ha
  | opened s hs ht =>
    have hne : ¬ s.sessionId = k := by
      rintro rfl
      simp [owner, hs, ht] at ha
    rw [← ha]
    simp only [owner, withSessions, Dict.get?_set, if_neg hne]
  | touched sessionId s now hs ht =>
    rw [← ha]
    apply owner_congr
    · exact map_agentId_set hs now
    · rfl
  | recorded e active hs ht howner =>
    rw [← ha]
    apply owner_congr
    · exact map_agentId_set hs e.timestamp
    · rfl
  | pruned cutoff => exact ha
  | finalized m' sessionId n decision ht hevents hsessions htombstones =>
    rw [owner_congr (by simp [hsessions]) htombstones, ha]
  | terminated sessionId t s hs ht howner hid =>
    rw [← ha]
    simp only [owner, terminalizeSession, Dict.contains, hs, ht, Option.isSome_some,
      Option.isSome_none, Bool.not_true, Bool.false_eq_true, if_false, Dict.get?_set,
      Dict.get?_erase]
    rcases eq_or_ne sessionId k with rfl | hk
    · simp [hs, ht, howner]
    · simp [hk]

theorem Effect.tombstone_eq (h : Effect m m') {k : String} {t : TerminalSessionTombstone}
    (ht : m.tombstones.get? k = some t) : m'.tombstones.get? k = some t := by
  cases h with
  | finalized m' sessionId n decision hlive hevents hsessions htombstones =>
    rw [htombstones]
    exact ht
  | terminated sessionId t' s hs hlive howner hid =>
    have hne : ¬ sessionId = k := by
      rintro rfl
      rw [ht] at hlive
      cases hlive
    simpa [terminalizeSession, Dict.contains, hs, hlive, hne] using ht
  | _ => exact ht

theorem Effect.mem_events (h : Effect m m') {e : SessionEvent} (he : e ∈ m'.events) :
    e ∈ m.events ∨ m.tombstones.get? e.sessionId = none ∧ m.owner e.sessionId = some e.agentId ∨
      m.tombstones.get? e.sessionId = none ∧
        ∃ d ∈ m.events, d.sessionId = e.sessionId ∧ d.agentId = e.agentId := by
  cases h with
  | recorded e' active hs ht howner =>
    rcases List.mem_append.mp he with he | he
    · exact .inl he
    · rw [List.mem_singleton.mp he]
      exact .inr (.inl ⟨ht, by simp [owner, ht, hs, howner]⟩)
  | pruned cutoff => exact .inl (List.mem_of_mem_filter he)
  | finalized m' sessionId n decision ht hevents hsessions htombstones =>
    obtain ⟨pre, x, post, hm, -, hx, -, -, hm'⟩ := finalizeFirst_ok hevents
    rw [hm'] at he
    rw [hm]
    rcases List.mem_append.mp he with he | he
    · exact .inl (by simp [he])
    · rcases List.mem_cons.mp he with rfl | he
      · exact .inr (.inr ⟨by rw [← hx] at ht; exact ht, x, by simp, rfl, rfl⟩)
      · exact .inl (by simp [he])
  | terminated sessionId t s hs ht howner hid =>
    refine .inl ?_
    simpa [terminalizeSession, Dict.contains, hs, ht] using he
  | _ => exact .inl he

theorem Effect.persists (h : Effect m m') : Persists m m' := by
  refine ⟨fun k a ha => h.owner_eq ha, fun k t ht => h.tombstone_eq ht, ?_⟩
  rintro k t ht e he rfl
  rcases h.mem_events he with hold | ⟨hlive, -⟩ | ⟨hlive, -⟩
  · exact hold
  · rw [ht] at hlive
    cases hlive
  · rw [ht] at hlive
    cases hlive

theorem Settled.set_session (hm : m.Settled) {sessionId : String} {s : Session}
    (hid : s.sessionId = sessionId) (ht : m.tombstones.get? sessionId = none)
    (hsessions : m'.sessions = m.sessions.set sessionId s)
    (htombstones : m'.tombstones = m.tombstones)
    (howned : ∀ e ∈ m'.events, m'.owner e.sessionId = some e.agentId) : m'.Settled := by
  refine ⟨?_, ?_, howned⟩
  · intro k s' hk
    rw [hsessions, Dict.get?_set] at hk
    split at hk
    · rename_i he
      cases hk
      rw [hid, he]
    · exact hm.keyed k s' hk
  · intro k s' hk
    rw [hsessions, Dict.get?_set] at hk
    rw [htombstones]
    split at hk
    · rename_i he
      rw [← he]
      exact ht
    · exact hm.disjoint k s' hk

theorem Effect.settled (h : Effect m m') (hm : m.Settled) : m'.Settled := by
  have howned : ∀ e ∈ m'.events, m'.owner e.sessionId = some e.agentId := by
    intro e he
    rcases h.mem_events he with hold | ⟨-, howner⟩ | ⟨-, d, hd, hs, ha⟩
    · exact h.owner_eq (hm.owned e hold)
    · exact h.owner_eq howner
    · rw [← hs, ← ha]
      exact h.owner_eq (hm.owned d hd)
  cases h with
  | idle => exact hm
  | opened s hs ht => exact hm.set_session rfl ht rfl rfl howned
  | touched sessionId s now hs ht =>
    exact hm.set_session (s := { s with lastActivityAt := now })
      (hm.keyed sessionId s hs) ht rfl rfl
      howned
  | recorded e active hs ht howner =>
    exact hm.set_session (s := { active with lastActivityAt := e.timestamp })
      (hm.keyed e.sessionId active hs) ht rfl rfl howned
  | pruned cutoff => exact ⟨hm.keyed, hm.disjoint, howned⟩
  | finalized m' sessionId n decision ht hevents hsessions htombstones =>
    refine ⟨?_, ?_, howned⟩
    · rw [hsessions]
      exact hm.keyed
    · rw [hsessions, htombstones]
      exact hm.disjoint
  | terminated sessionId t s hs ht howner hid =>
    have hsessions (k : String) : (m.terminalizeSession sessionId t).1.sessions.get? k =
        if sessionId = k then none else m.sessions.get? k := by
      simp [terminalizeSession, Dict.contains, hs, ht]
    have htombstones (k : String) : (m.terminalizeSession sessionId t).1.tombstones.get? k =
        if sessionId = k then some t else m.tombstones.get? k := by
      simp [terminalizeSession, Dict.contains, hs, ht]
    refine ⟨?_, ?_, howned⟩
    · intro k s' hk
      rw [hsessions] at hk
      split at hk
      · cases hk
      · exact hm.keyed k s' hk
    · intro k s' hk
      rw [hsessions] at hk
      rw [htombstones]
      split at hk
      · cases hk
      · rename_i hne
        rw [if_neg hne]
        exact hm.disjoint k s' hk

end SessionRepository

def SessionBackend.owner (b : SessionBackend) (sessionId : String) : Option String :=
  match b.getTombstone sessionId with
  | some t => some t.agentId
  | none => (b.getSession sessionId).map (·.agentId)

theorem SessionBackend.View.owner {rows : List String} {b : SessionBackend} {m : SessionRepository}
    (h : b.View rows m) (sessionId : String) : b.owner sessionId = m.owner sessionId := by
  rw [SessionBackend.owner, h.getTombstone, h.getSession]
  rfl

namespace SessionWork

variable {rows : List String} {b b' : SessionBackend} {m m' : SessionRepository}
  {retention : Option DetectionRetentionPolicy} {order : RowOrder} {w w' : SessionWork}

-- what a call remembers between its reads and its write is still true when it writes
def Held (m : SessionRepository) : SessionWork → Prop
  | .endFound sessionId agentId t =>
    m.owner sessionId = some agentId ∧ t.agentId = agentId ∧ t.sessionId = sessionId
  | .expiring _ _ remaining _ => ∀ s ∈ remaining, m.owner s.sessionId = some s.agentId
  | _ => True

theorem Held.persists (h : Held m w) (hp : m.Persists m') : Held m' w := by
  cases w with
  | endFound sessionId agentId t => exact ⟨hp.owner _ _ h.1, h.2⟩
  | expiring threshold now remaining expiredIds => exact fun s hs => hp.owner _ _ (h s hs)
  | _ => trivial

-- the session a step would terminalise, and with which tombstone
def closing : SessionWork → Option TerminalSessionTombstone
  | .endFound _ _ t => some t
  | .expiring threshold now (s :: _) _ =>
    if threshold ≤ now - s.lastActivityAt then
      TerminalSessionTombstone.construct s.sessionId s.agentId now .idleTimeout
    else none
  | _ => none

def terminates (b : SessionBackend) (w : SessionWork) : Option String :=
  match w.closing with
  | none => none
  | some t => if (b.terminalizeSession t.sessionId t).2 then some t.sessionId else none

-- the session, caller and time of a call that writes last_activity_at
def touching : SessionWork → Option (String × String × Instant)
  | .start (.bindOrValidate sessionId agentId now) => some (sessionId, agentId, now)
  | .start (.recordEvent e) =>
    if e.sequenceNumber = 0 ∧ e.agentSequence = 0 then some (e.sessionId, e.agentId, e.timestamp)
    else none
  | _ => none

-- a step in the view: what it did, what the call still holds, and the tombstone it wrote
structure Advances (rows : List String) (m : SessionRepository) (b : SessionBackend)
    (w : SessionWork) (b' : SessionBackend) (w' : SessionWork) (m' : SessionRepository) : Prop where
  view : b'.View rows m'
  effect : m.Effect m'
  dated : m.Dated m' w.touching
  held : Held m' w'
  closed : ∀ sessionId, terminates b w = some sessionId →
    m.tombstones.get? sessionId = none ∧ m'.tombstones.get? sessionId ≠ none ∧
      ∃ s, m.sessions.get? sessionId = some s

theorem Advances.quiet (hview : b.View rows m) (hw : Held m w') (hclosing : w.closing = none) :
    Advances rows m b w b w' m :=
  ⟨hview, .idle, .refl m _, hw, by simp [terminates, hclosing]⟩

theorem Advances.of_follows {α : Type} {y : SessionRepository × Except SessionError α}
    {x : SessionBackend × Except SessionStoreError α} (hview : b.View rows m)
    (h : SessionBackend.Follows rows b y x) (he : m.Effect y.1) (hd : m.Dated y.1 w.touching)
    (hclosing : w.closing = none) (hw : ∀ m', Held m' w') :
    ∃ m', Advances rows m b w x.1 w' m' := by
  cases h with
  | failed e => exact ⟨m, .quiet hview (hw m) hclosing⟩
  | done b' hb' => exact ⟨y.1, hb', he, hd, hw _, by simp [terminates, hclosing]⟩

theorem Advances.terminal (hview : b.View rows m) {t : TerminalSessionTombstone}
    (howner : m.owner t.sessionId = some t.agentId) (hm : m.Settled) (hclosing : w.closing = some t)
    (hw : ∀ m', m.Persists m' → Held m' w') :
    ∃ m', Advances rows m b w (b.terminalizeSession t.sessionId t).1 w' m' := by
  have hsame : ∀ s, m.sessions.get? t.sessionId = some s → t.agentId = s.agentId := by
    intro s hs
    rw [hm.owner_live hs] at howner
    exact (Option.some.inj howner).symm
  obtain ⟨hreply, hnext⟩ := hview.terminalizeSession rfl hsame
  obtain ⟨heffect, htrue⟩ := SessionRepository.terminalizeSession_effect rfl hsame
  refine ⟨_, hnext, heffect, m.terminalizeSession_dated _ _ _, hw _ heffect.persists, ?_⟩
  intro sessionId hterm
  simp only [terminates, hclosing] at hterm
  split at hterm
  · rename_i hdone
    cases hterm
    rw [hreply] at hdone
    obtain ⟨hlive, hwritten, hactive⟩ := htrue hdone
    exact ⟨hlive, by simp [hwritten], hactive⟩
  · cases hterm

theorem held_ownedBy (m : SessionRepository) (sessionId owner agentId : String) :
    Held m (ownedBy sessionId owner agentId) := by
  simp only [ownedBy]
  split <;> trivial

theorem advance_start (hview : b.View rows m) (hm : m.Settled) (req : SessionRequest)
    (h : (SessionWork.start req).advance retention order b = (b', w')) :
    ∃ m', Advances rows m b (.start req) b' w' m' := by
  cases req with
  | createSession s =>
    cases h
    exact Advances.of_follows hview (hview.createSession s) (m.createSession_effect s)
      (m.createSession_dated s) rfl (fun _ => trivial)
  | bindOrValidate sessionId agentId now =>
    cases h
    exact Advances.of_follows hview (hview.bindOrCreateSession sessionId agentId now)
      (m.bindOrCreateSession_effect sessionId agentId now)
      (m.bindOrCreateSession_dated sessionId agentId now) rfl (fun _ => trivial)
  | recordEvent e =>
    have hheld : ∀ m', Held m' w' := by
      simp only [advance] at h
      split at h <;> cases h <;> exact fun _ => trivial
    have hshared : (b.recordEvent e).1 = b' := by
      simp only [advance] at h
      split at h <;> rename_i hr <;> cases h <;> rw [hr]
    rw [← hshared]
    exact Advances.of_follows hview (hview.recordEvent e) (m.recordEvent_effect e)
      (m.recordEvent_dated e) rfl hheld
  | updateEventFinalDecision sessionId n decision =>
    cases h
    exact Advances.of_follows hview (hview.updateEventFinalDecision sessionId n decision)
      (m.updateEventFinalDecision_effect sessionId n decision)
      (m.updateEventFinalDecision_dated sessionId n decision _) rfl (fun _ => trivial)
  | endSession sessionId agentId now =>
    simp only [advance] at h
    split at h <;> cases h
    · exact ⟨m, .quiet hview (held_ownedBy ..) rfl⟩
    · exact ⟨m, .quiet hview trivial rfl⟩
  | expireIdleSessions threshold now =>
    simp only [advance] at h
    split at h <;> cases h
    · exact ⟨m, .quiet hview trivial rfl⟩
    · refine ⟨m, .quiet hview ?_ rfl⟩
      intro s hs
      have hlisted := (hview.listSessions order).subset hs
      rw [SessionRepository.listSessions, Dict.mem_values_iff] at hlisted
      obtain ⟨k, hk⟩ := hlisted
      rw [hm.keyed k s hk]
      exact hm.owner_live hk

theorem advance_advances (hview : b.View rows m) (hm : m.Settled) (hw : Held m w)
    (h : w.advance retention order b = (b', w')) : ∃ m', Advances rows m b w b' w' m' := by
  cases w with
  | start req => exact advance_start hview hm req h
  | pruning recorded =>
    simp only [advance] at h
    split at h <;> cases h
    · exact ⟨m, .quiet hview trivial rfl⟩
    · exact ⟨_, (hview.pruneEvents _).2, .pruned _, .of_sessions (fun _ _ h => h), trivial,
        by simp [terminates, closing]⟩
  | endChecked sessionId agentId now =>
    simp only [advance] at h
    split at h
    · cases h
      exact ⟨m, .quiet hview trivial rfl⟩
    · rename_i existing hs
      rw [hview.getSession] at hs
      split at h
      · cases h
        exact ⟨m, .quiet hview trivial rfl⟩
      · rename_i howner
        rw [not_not] at howner
        split at h
        · cases h
          exact ⟨m, .quiet hview trivial rfl⟩
        · rename_i t ht
          cases h
          obtain ⟨hid, hagent, -⟩ := construct_eq_some ht
          refine ⟨m, .quiet hview ⟨?_, hagent, hid⟩ rfl⟩
          rw [← howner]
          exact hm.owner_live hs
  | endFound sessionId agentId t =>
    obtain ⟨howner, hagent, rfl⟩ := hw
    have hheld : ∀ m', Held m' w' := by
      simp only [advance] at h
      split at h <;> cases h <;> exact fun _ => trivial
    have hshared : (b.terminalizeSession t.sessionId t).1 = b' := by
      simp only [advance] at h
      split at h <;> rename_i hr <;> cases h <;> rw [hr]
    rw [← hshared]
    exact Advances.terminal hview (by rw [hagent]; exact howner) hm rfl (fun m' _ => hheld m')
  | endLost sessionId agentId =>
    simp only [advance] at h
    split at h <;> cases h
    · exact ⟨m, .quiet hview (held_ownedBy ..) rfl⟩
    · exact ⟨m, .quiet hview trivial rfl⟩
  | expiring threshold now remaining expiredIds =>
    cases remaining with
    | nil =>
      cases h
      exact ⟨m, .quiet hview trivial rfl⟩
    | cons s remaining =>
      have hrest : ∀ s' ∈ remaining, m.owner s'.sessionId = some s'.agentId :=
        fun s' hs' => hw s' (by simp [hs'])
      simp only [advance] at h
      split at h
      · rename_i hidle
        split at h
        · rename_i hnone
          cases h
          exact ⟨m, .quiet hview trivial (by simp [closing, hidle, hnone])⟩
        · rename_i t ht
          obtain ⟨hid, hagent, -⟩ := construct_eq_some ht
          have howner : m.owner t.sessionId = some t.agentId := by
            rw [hid, hagent]
            exact hw s (by simp)
          have hclosing : (expiring threshold now (s :: remaining) expiredIds).closing =
            some t := by
            simp only [closing, if_pos hidle, ht]
          rw [← hid] at h
          have hheld : ∀ m', m.Persists m' → Held m' w' := by
            split at h <;> cases h <;> exact fun m' hp s' hs' => hp.owner _ _ (hrest s' hs')
          have hshared : (b.terminalizeSession t.sessionId t).1 = b' := by
            split at h <;> rename_i hr <;> cases h <;> rw [hr]
          rw [← hshared]
          exact Advances.terminal hview howner hm hclosing hheld
      · rename_i hidle
        cases h
        exact ⟨m, .quiet hview hrest (by simp [closing, hidle])⟩
  | done result =>
    cases h
    exact ⟨m, .quiet hview trivial rfl⟩

end SessionWork

namespace SessionPool

variable {rows : List String} {retention : Option DetectionRetentionPolicy} {p q : SessionPool}
  {b : SessionBackend} {m : SessionRepository} {l : Nat × RowOrder} {ls : List (Nat × RowOrder)}

structure Sound (rows : List String) (m : SessionRepository) (p : SessionPool) : Prop where
  view : p.shared.View rows m
  settled : m.Settled
  held : ∀ w ∈ p.threads, SessionWork.Held m w

def terminated (p : SessionPool) (l : Nat × RowOrder) : List String :=
  match p.threads[l.1]? with
  | none => []
  | some w => (w.terminates p.shared).toList

def terminations (retention : Option DetectionRetentionPolicy) (ls : List (Nat × RowOrder))
    (p : SessionPool) : List String :=
  Pool.trace (SessionWork.step retention) terminated ls p

theorem Sound.fire (h : Sound rows m p) (hf : Pool.fire (SessionWork.step retention) p l = some q) :
    ∃ m' w, p.threads[l.1]? = some w ∧ Sound rows m' q ∧ m.Persists m' ∧ m.Dated m' w.touching ∧
      ∀ sessionId ∈ terminated p l, m.tombstones.get? sessionId = none ∧
        m'.tombstones.get? sessionId ≠ none ∧ ∃ s, m.sessions.get? sessionId = some s := by
  obtain ⟨w, w', hthread, hstep, hq⟩ := Pool.fire_eq_some hf
  have hadvance : w.advance retention l.2 p.shared = (q.shared, w') := by
    simp only [SessionWork.step] at hstep
    split at hstep
    · cases hstep
    · exact Option.some.inj hstep
  obtain ⟨m', hadv⟩ := SessionWork.advance_advances h.view h.settled
    (h.held w (List.mem_of_getElem? hthread)) hadvance
  refine ⟨m', w, hthread, ⟨hadv.view, hadv.effect.settled h.settled, ?_⟩, hadv.effect.persists,
    hadv.dated, ?_⟩
  · intro x hx
    rw [hq] at hx
    rcases List.mem_or_eq_of_mem_set hx with hx | rfl
    · exact (h.held x hx).persists hadv.effect.persists
    · exact hadv.held
  · intro sessionId hmem
    rw [terminated, hthread, Option.mem_toList] at hmem
    exact hadv.closed sessionId hmem

theorem Sound.run (h : Sound rows m p) (hr : Pool.run (SessionWork.step retention) ls p = some q) :
    ∃ m', Sound rows m' q ∧ m.Persists m' := by
  refine Pool.run_invariant (fun r => ∃ m', Sound rows m' r ∧ m.Persists m') ?_
    ⟨m, h, .refl m⟩ hr
  rintro p₁ l p₂ ⟨m₁, h₁, hp₁⟩ hf
  obtain ⟨m₂, -, -, h₂, hp₂, -⟩ := h₁.fire hf
  exact ⟨m₂, h₂, hp₁.trans hp₂⟩

structure Tracked (rows : List String) (es : List String) (p : SessionPool)
    (m : SessionRepository) :
    Prop where
  sound : Sound rows m p
  nodup : es.Nodup
  closed : ∀ sessionId ∈ es, m.tombstones.get? sessionId ≠ none

theorem Tracked.fire {es : List String} (h : Tracked rows es p m)
    (hf : Pool.fire (SessionWork.step retention) p l = some q) :
    ∃ m', Tracked rows (es ++ terminated p l) q m' := by
  obtain ⟨m', -, -, hs, hp, -, hclosed⟩ := h.sound.fire hf
  refine ⟨m', hs, List.nodup_append.mpr ⟨h.nodup, ?_, ?_⟩, ?_⟩
  · rw [terminated]
    split
    · exact List.nodup_nil
    · rename_i w _
      cases w.terminates p.shared <;> simp
  · -- an id already in the list has its tombstone, so it is not terminalised again
    rintro k hk k' hk' rfl
    exact h.closed k hk (hclosed k hk').1
  · intro k hk
    rcases List.mem_append.mp hk with hk | hk
    · obtain ⟨t, ht⟩ := Option.ne_none_iff_exists'.mp (h.closed k hk)
      rw [hp.tombstone k t ht]
      simp
    · exact (hclosed k hk).2.1

theorem sound_start {b : SessionBackend} (hb : b.Fresh rows) (reqs : List SessionRequest) :
    Sound rows .empty ⟨b, reqs.map .start⟩ := by
  refine ⟨?_, SessionRepository.settled_empty, ?_⟩
  · rcases hb with rfl | rfl
    · rfl
    · exact SessionRepository.mirrors_empty rows
  · intro w hw
    obtain ⟨req, -, rfl⟩ := List.mem_map.mp hw
    trivial

theorem terminations_nodup {b : SessionBackend} (hb : b.Fresh rows) (reqs : List SessionRequest)
    (h : Pool.run (SessionWork.step retention) ls ⟨b, reqs.map .start⟩ = some q) :
    (terminations retention ls ⟨b, reqs.map .start⟩).Nodup := by
  obtain ⟨m, htracked⟩ := Pool.run_trace_invariant terminated
    (fun es p => ∃ m, Tracked rows es p m) (fun es p l q ⟨m, ht⟩ hf => ht.fire hf) []
    ⟨.empty, sound_start hb reqs, List.nodup_nil, by simp⟩ h
  exact htracked.nodup

theorem terminal_recordEvent (hview : b.View rows m) {e : SessionEvent}
    (ht : m.getTombstone e.sessionId ≠ none) : ∃ err, b.recordEvent e = (b, .error err) := by
  have herror : ∃ err, (b.recordEvent e).2 = .error err := by
    obtain ⟨t, ht⟩ := Option.ne_none_iff_exists'.mp ht
    have hmemory : m.recordEvent e = (m, .error (.terminal e.sessionId t.agentId e.agentId)) := by
      simp only [SessionRepository.getTombstone] at ht
      simp only [SessionRepository.recordEvent, ht]
    have hfollows := hview.recordEvent e
    rw [hmemory] at hfollows
    generalize b.recordEvent e = x at hfollows
    cases hfollows with
    | failed err => exact ⟨err, rfl⟩
    | done b' _ => exact ⟨_, rfl⟩
  obtain ⟨err, herr⟩ := herror
  exact ⟨err, Prod.ext (SessionBackend.recordEvent_refused herr) herr⟩

theorem terminal_updateEventFinalDecision (hview : b.View rows m) {sessionId : String}
    (ht : m.getTombstone sessionId ≠ none) (n : Nat) (decision : Decision) :
    ∃ err, b.updateEventFinalDecision sessionId n decision = (b, .error err) := by
  have herror : ∃ err, (b.updateEventFinalDecision sessionId n decision).2 = .error err := by
    obtain ⟨t, ht⟩ := Option.ne_none_iff_exists'.mp ht
    have hfollows := hview.updateEventFinalDecision sessionId n decision
    rw [SessionRepository.updateEventFinalDecision_terminal ht] at hfollows
    generalize b.updateEventFinalDecision sessionId n decision = x at hfollows
    cases hfollows with
    | failed err => exact ⟨err, rfl⟩
    | done b' _ => exact ⟨_, rfl⟩
  obtain ⟨err, herr⟩ := herror
  exact ⟨err, Prod.ext (SessionBackend.updateEventFinalDecision_refused herr) herr⟩

-- the calls that would write an event or a final decision into this session
def writesTo (sessionId : String) : SessionWork → Prop
  | .start (.recordEvent e) => e.sessionId = sessionId
  | .start (.updateEventFinalDecision id _ _) => id = sessionId
  | _ => False

theorem Sound.refuses (h : Sound rows m p)
    (hf : Pool.fire (SessionWork.step retention) p l = some q) {w : SessionWork}
    {sessionId : String} (hw : p.threads[l.1]? = some w) (hcall : writesTo sessionId w)
    (hterminal : p.shared.getTombstone sessionId ≠ none) :
    q.shared = p.shared ∧ ∃ err, q.threads[l.1]? = some (.done (.error err)) := by
  obtain ⟨w₁, w', hthread, hstep, hq⟩ := Pool.fire_eq_some hf
  rw [hw] at hthread
  cases hthread
  rw [hq, List.getElem?_set_self (List.getElem?_eq_some_iff.mp hw).1]
  rw [h.view.getTombstone] at hterminal
  cases w with
  | start req =>
    cases req with
    | recordEvent e =>
      cases hcall
      obtain ⟨err, hreply⟩ := terminal_recordEvent h.view hterminal
      simp only [SessionWork.step, SessionWork.advance, hreply] at hstep
      obtain ⟨hshared, hthread⟩ := Prod.mk.inj (Option.some.inj hstep)
      exact ⟨hshared.symm, err, congrArg some hthread.symm⟩
    | updateEventFinalDecision id n decision =>
      cases hcall
      obtain ⟨err, hreply⟩ := terminal_updateEventFinalDecision h.view hterminal n decision
      simp only [SessionWork.step, SessionWork.advance, SessionWork.finish, hreply] at hstep
      obtain ⟨hshared, hthread⟩ := Prod.mk.inj (Option.some.inj hstep)
      exact ⟨hshared.symm, err, congrArg some hthread.symm⟩
    | _ => exact hcall.elim
  | _ => exact hcall.elim

structure Finality (p q : SessionPool) : Prop where
  owner : ∀ sessionId a, p.shared.owner sessionId = some a → q.shared.owner sessionId = some a
  tombstone : ∀ sessionId t, p.shared.getTombstone sessionId = some t →
    q.shared.getTombstone sessionId = some t
  inactive : ∀ sessionId t, p.shared.getTombstone sessionId = some t →
    q.shared.getSession sessionId = none
  frozen : ∀ sessionId t, p.shared.getTombstone sessionId = some t →
    ∀ e ∈ q.shared.events, e.sessionId = sessionId → e ∈ p.shared.events

theorem Sound.finality {m' : SessionRepository} (hp : Sound rows m p) (hq : Sound rows m' q)
    (h : m.Persists m') : Finality p q := by
  have htombstone : ∀ sessionId t, p.shared.getTombstone sessionId = some t →
      m.tombstones.get? sessionId = some t := by
    intro k t ht
    rw [hp.view.getTombstone] at ht
    exact ht
  refine ⟨?_, ?_, ?_, ?_⟩
  · intro k a ha
    rw [hp.view.owner] at ha
    rw [hq.view.owner]
    exact h.owner k a ha
  · intro k t ht
    rw [hq.view.getTombstone]
    exact h.tombstone k t (htombstone k t ht)
  · intro k t ht
    rw [hq.view.getSession, SessionRepository.getSession]
    cases hs : m'.sessions.get? k with
    | none => rfl
    | some s =>
      have hlive := hq.settled.disjoint k s hs
      rw [h.tombstone k t (htombstone k t ht)] at hlive
      cases hlive
  · intro k t ht e he hk
    rw [hq.view.events] at he
    rw [hp.view.events]
    exact h.frozen k t (htombstone k t ht) e he hk

structure Owned (p : SessionPool) : Prop where
  exclusive : ∀ sessionId, p.shared.getSession sessionId = none ∨
    p.shared.getTombstone sessionId = none
  events : ∀ e ∈ p.shared.events, p.shared.owner e.sessionId = some e.agentId

theorem Sound.owned (h : Sound rows m p) : Owned p := by
  refine ⟨?_, ?_⟩
  · intro k
    rw [h.view.getSession, h.view.getTombstone]
    cases hs : m.sessions.get? k with
    | none => exact .inl hs
    | some s => exact .inr (h.settled.disjoint k s hs)
  · intro e he
    rw [h.view.events] at he
    rw [h.view.owner]
    exact h.settled.owned e he

theorem session_ownership_final (rows : List String) (b : SessionBackend) (hb : b.Fresh rows)
    (retention : Option DetectionRetentionPolicy) (reqs : List SessionRequest)
    (ls : List (Nat × RowOrder)) (q : SessionPool)
    (h : Pool.run (SessionWork.step retention) ls ⟨b, reqs.map .start⟩ = some q) :
    Owned q ∧ (terminations retention ls ⟨b, reqs.map .start⟩).Nodup ∧
      (∀ ls₁ ls₂, ls = ls₁ ++ ls₂ → ∃ p : SessionPool,
        Pool.run (SessionWork.step retention) ls₁ ⟨b, reqs.map .start⟩ = some p ∧ Finality p q) ∧
      ∀ ls₁ l ls₂, ls = ls₁ ++ l :: ls₂ → ∃ p₁ p₂ : SessionPool,
        Pool.run (SessionWork.step retention) ls₁ ⟨b, reqs.map .start⟩ = some p₁ ∧
          Pool.fire (SessionWork.step retention) p₁ l = some p₂ ∧
          (∀ w sessionId, p₁.threads[l.1]? = some w → writesTo sessionId w →
            p₁.shared.getTombstone sessionId ≠ none →
            p₂.shared = p₁.shared ∧ ∃ err, p₂.threads[l.1]? = some (.done (.error err))) ∧
          ∀ sessionId agentId t, p₁.threads[l.1]? = some (.endFound sessionId agentId t) →
            p₁.shared.owner sessionId = some agentId := by
  have hstart := sound_start hb reqs
  obtain ⟨mq, hq, -⟩ := hstart.run h
  refine ⟨hq.owned, terminations_nodup hb reqs h, ?_, ?_⟩
  · rintro ls₁ ls₂ rfl
    obtain ⟨p, hrun, hrest⟩ := Pool.run_append h
    obtain ⟨mp, hp, -⟩ := hstart.run hrun
    obtain ⟨mq', hq', hpersists⟩ := hp.run hrest
    exact ⟨p, hrun, hp.finality hq' hpersists⟩
  · rintro ls₁ l ls₂ rfl
    obtain ⟨p₁, hrun, hrest⟩ := Pool.run_append h
    obtain ⟨p₂, hf, -⟩ := Pool.run_cons hrest
    obtain ⟨m₁, h₁, -⟩ := hstart.run hrun
    refine ⟨p₁, p₂, hrun, hf, fun w k hw hcall ht => h₁.refuses hf hw hcall ht, ?_⟩
    intro k a t hw
    rw [h₁.view.owner]
    exact (h₁.held _ (List.mem_of_getElem? hw)).1

def sampleEvent : SessionEvent :=
  { sessionId := "session-1", agentId := "agent-1", toolId := "ticket_read", decision := .deny
    timestamp := 2 }

def sampleRequests : List SessionRequest :=
  [.bindOrValidate "session-1" "agent-1" 1, .recordEvent sampleEvent,
    .endSession "session-1" "agent-2" 3, .endSession "session-1" "agent-1" 4,
    .updateEventFinalDecision "session-1" 1 .deny]

def sampleTurns : List (Nat × RowOrder) := [0, 1, 1, 2, 2, 3, 3, 3, 4].map (fun i => (i, .asStored))

theorem session_ownership_final_sample : ∃ q : SessionPool,
    Pool.run (SessionWork.step none) sampleTurns
        ⟨.sql ⟨["agent-1"], .empty, .empty, []⟩, sampleRequests.map .start⟩ = some q ∧
      Owned q ∧ (terminations none sampleTurns
        ⟨.sql ⟨["agent-1"], .empty, .empty, []⟩, sampleRequests.map .start⟩).Nodup := by
  have hsome : (Pool.run (SessionWork.step none) sampleTurns
      ⟨.sql ⟨["agent-1"], .empty, .empty, []⟩, sampleRequests.map .start⟩).isSome = true := by
    decide +kernel
  obtain ⟨q, hq⟩ := Option.isSome_iff_exists.mp hsome
  have hfinal := session_ownership_final ["agent-1"] _
    (.inr rfl) none sampleRequests sampleTurns q hq
  exact ⟨q, hq, hfinal.1, hfinal.2.1⟩

end SessionPool

end AgentSecurityPlatform
