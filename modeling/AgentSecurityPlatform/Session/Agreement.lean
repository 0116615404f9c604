import AgentSecurityPlatform.Session.Calls

namespace AgentSecurityPlatform

namespace SessionBackend

variable {rows : List String} {m m' : SessionRepository} {q : SqlSessionRepository}
  {threshold now : Instant}

def idle (threshold now : Instant) (s : Session) : Bool := threshold ≤ now - s.lastActivityAt

def endable (s : Session) : Bool := s.sessionId ≠ "" && s.agentId ≠ ""

theorem construct_endable {s : Session} (h : endable s = true) (now : Instant)
    (reason : TerminalReason) :
    ∃ t, TerminalSessionTombstone.construct s.sessionId s.agentId now reason = some t ∧
      t.sessionId = s.sessionId ∧ t.agentId = s.agentId := by
  simp only [endable, Bool.and_eq_true, decide_eq_true_eq] at h
  exact ⟨⟨s.sessionId, s.agentId, now, reason, h.1, h.2⟩,
    by simp [TerminalSessionTombstone.construct, h], rfl, rfl⟩

theorem construct_unendable {s : Session} (h : endable s = false) (now : Instant)
    (reason : TerminalReason) :
    TerminalSessionTombstone.construct s.sessionId s.agentId now reason = none := by
  rw [TerminalSessionTombstone.construct, dif_neg]
  intro hne
  simp [endable, hne] at h

-- what an expiry pass over the sessions `l` has done, in whatever order it met them
structure Expired (threshold now : Instant) (l : List Session) (m m' : SessionRepository) :
    Prop where
  ended : ∀ s ∈ l, idle threshold now s = true → m'.sessions.get? s.sessionId = none ∧
    m'.tombstones.get? s.sessionId =
      TerminalSessionTombstone.construct s.sessionId s.agentId now .idleTimeout
  kept : ∀ k, (∀ s ∈ l, idle threshold now s = true → s.sessionId ≠ k) →
    m'.sessions.get? k = m.sessions.get? k ∧ m'.tombstones.get? k = m.tombstones.get? k
  events : m'.events = m.events
  sessionSequences : m'.sessionSequences = m.sessionSequences
  agentSequences : m'.agentSequences = m.agentSequences

-- terminalize_session of an active session, by what each id holds afterwards
structure Ends (sessionId : String) (t : TerminalSessionTombstone) (m m' : SessionRepository) :
    Prop where
  done : m.terminalizeSession sessionId t = (m', true)
  sessions : ∀ k, m'.sessions.get? k = if sessionId = k then none else m.sessions.get? k
  tombstones : ∀ k, m'.tombstones.get? k = if sessionId = k then some t else m.tombstones.get? k
  events : m'.events = m.events
  sessionSequences : m'.sessionSequences = m.sessionSequences
  agentSequences : m'.agentSequences = m.agentSequences

theorem terminalize_active {s : Session} (hs : m.sessions.get? s.sessionId = some s)
    (ht : m.tombstones.get? s.sessionId = none) (t : TerminalSessionTombstone) :
    ∃ m', Ends s.sessionId t m m' := by
  refine ⟨(m.terminalizeSession s.sessionId t).1, ?_, ?_, ?_, ?_, ?_, ?_⟩
  all_goals
    simp only [SessionRepository.terminalizeSession, Dict.contains, hs, ht, Option.isSome_some,
      Option.isSome_none, Bool.not_true, Bool.false_eq_true, if_false]
  · exact fun k => Dict.get?_erase ..
  · exact fun k => Dict.get?_set ..

theorem terminalize_sessions {sessionId k : String} {t : TerminalSessionTombstone} {s : Session}
    (h : (m.terminalizeSession sessionId t).1.sessions.get? k = some s) :
    m.sessions.get? k = some s := by
  simp only [SessionRepository.terminalizeSession] at h
  split at h
  · exact h
  · split at h
    · exact h
    · rw [Dict.get?_erase] at h
      split at h
      · cases h
      · exact h

structure Listed (m : SessionRepository) (l : List Session) : Prop where
  nodup : (l.map Session.sessionId).Nodup
  active : ∀ s ∈ l, m.sessions.get? s.sessionId = some s ∧ m.tombstones.get? s.sessionId = none

theorem expireAll_inMemory {l : List Session} (h : Listed m l)
    (hvalid : ∀ s ∈ l, idle threshold now s = true → endable s = true) (expiredIds : List String) :
    ∃ m', expireAll threshold now l expiredIds (.inMemory m) =
        (.inMemory m', .ok (expiredIds ++ (l.filter (idle threshold now)).map Session.sessionId)) ∧
      Expired threshold now l m m' := by
  induction l generalizing m expiredIds with
  | nil =>
    exact ⟨m, by simp [expireAll], by simp, fun k _ => ⟨rfl, rfl⟩, rfl, rfl, rfl⟩
  | cons s l ih =>
    have hnodup := h.nodup
    rw [List.map_cons, List.nodup_cons] at hnodup
    have hrest : Listed m l := ⟨hnodup.2, fun x hx => h.active x (List.mem_cons_of_mem s hx)⟩
    have hrestValid : ∀ x ∈ l, idle threshold now x = true → endable x = true :=
      fun x hx => hvalid x (List.mem_cons_of_mem s hx)
    have hother : ∀ x ∈ l, x.sessionId ≠ s.sessionId :=
      fun x hx he => hnodup.1 (he ▸ List.mem_map_of_mem hx)
    cases hidle : idle threshold now s with
    | false =>
      obtain ⟨m', hrun, hexpired⟩ := ih hrest hrestValid expiredIds
      refine ⟨m', ?_, ?_⟩
      · have hlt : ¬ threshold ≤ now - s.lastActivityAt := by simpa [idle] using hidle
        rw [expireAll, if_neg hlt, hrun, List.filter_cons_of_neg (by simp [hidle])]
      · refine ⟨?_, ?_, hexpired.events, hexpired.sessionSequences, hexpired.agentSequences⟩
        · intro x hx hxidle
          rcases List.mem_cons.mp hx with rfl | hx
          · rw [hidle] at hxidle
            cases hxidle
          · exact hexpired.ended x hx hxidle
        · exact fun k hk => hexpired.kept k (fun x hx => hk x (List.mem_cons_of_mem s hx))
    | true =>
      obtain ⟨t, ht, -, -⟩ := construct_endable (hvalid s (by simp) hidle) now .idleTimeout
      obtain ⟨hs, hopen⟩ := h.active s (by simp)
      obtain ⟨m₁, hends⟩ := terminalize_active hs hopen t
      have hrest₁ : Listed m₁ l := by
        refine ⟨hnodup.2, ?_⟩
        intro x hx
        rw [hends.sessions, hends.tombstones, if_neg (hother x hx).symm, if_neg (hother x hx).symm]
        exact hrest.active x hx
      obtain ⟨m', hrun, hexpired⟩ := ih hrest₁ hrestValid (expiredIds ++ [s.sessionId])
      refine ⟨m', ?_, ?_⟩
      · have hle : threshold ≤ now - s.lastActivityAt := by simpa [idle] using hidle
        simp only [expireAll, if_pos hle, ht, terminalizeSession, hends.done, Prod.map, id, hrun]
        rw [List.filter_cons_of_pos hidle, List.map_cons, List.append_assoc]
        rfl
      · refine ⟨?_, ?_, hexpired.events.trans hends.events,
          hexpired.sessionSequences.trans hends.sessionSequences,
          hexpired.agentSequences.trans hends.agentSequences⟩
        · intro x hx hxidle
          rcases List.mem_cons.mp hx with rfl | hx
          · obtain ⟨hsessions, htombstones⟩ :=
              hexpired.kept x.sessionId (fun y hy _ => hother y hy)
            rw [hsessions, htombstones, hends.sessions, hends.tombstones, if_pos rfl,
              if_pos rfl, ht]
            exact ⟨rfl, rfl⟩
          · exact hexpired.ended x hx hxidle
        · intro k hk
          obtain ⟨hsessions, htombstones⟩ :=
            hexpired.kept k (fun x hx => hk x (List.mem_cons_of_mem s hx))
          have hne : ¬ s.sessionId = k := hk s (by simp) hidle
          rw [hsessions, htombstones, hends.sessions, hends.tombstones, if_neg hne, if_neg hne]
          exact ⟨rfl, rfl⟩

theorem expireAll_unendable {l : List Session}
    (hinvalid : ∀ s ∈ l, idle threshold now s = true → endable s = false) (b : SessionBackend) :
    expireAll threshold now l [] b =
      (b, if l.any (idle threshold now) then .error (.refused .validation) else .ok []) := by
  induction l with
  | nil => rfl
  | cons s l ih =>
    cases hidle : idle threshold now s with
    | true =>
      have hle : threshold ≤ now - s.lastActivityAt := by simpa [idle] using hidle
      have hnone := construct_unendable (hinvalid s (by simp) hidle) now .idleTimeout
      simp [expireAll, if_pos hle, hnone, hidle]
    | false =>
      have hlt : ¬ threshold ≤ now - s.lastActivityAt := by simpa [idle] using hidle
      rw [expireAll, if_neg hlt, ih (fun x hx => hinvalid x (List.mem_cons_of_mem s hx)),
        List.any_cons, hidle, Bool.false_or]

theorem Expired.same {l l' : List Session} {m₁ m₂ : SessionRepository} (hperm : l'.Perm l)
    (h₁ : Expired threshold now l m m₁) (h₂ : Expired threshold now l' m m₂) (k : String) :
    m₁.sessions.get? k = m₂.sessions.get? k ∧ m₁.tombstones.get? k = m₂.tombstones.get? k := by
  by_cases hk : ∃ s ∈ l, idle threshold now s = true ∧ s.sessionId = k
  · obtain ⟨s, hs, hidle, rfl⟩ := hk
    obtain ⟨hs₁, ht₁⟩ := h₁.ended s hs hidle
    obtain ⟨hs₂, ht₂⟩ := h₂.ended s (hperm.mem_iff.mpr hs) hidle
    exact ⟨hs₁.trans hs₂.symm, ht₁.trans ht₂.symm⟩
  · have hnot : ∀ s ∈ l, idle threshold now s = true → s.sessionId ≠ k :=
      fun s hs hidle he => hk ⟨s, hs, hidle, he⟩
    obtain ⟨hs₁, ht₁⟩ := h₁.kept k hnot
    obtain ⟨hs₂, ht₂⟩ := h₂.kept k (fun s hs => hnot s (hperm.mem_iff.mp hs))
    exact ⟨hs₁.trans hs₂.symm, ht₁.trans ht₂.symm⟩

theorem Expired.mirrors {l l' : List Session} {m₁ m₂ : SessionRepository} (hperm : l'.Perm l)
    (h₁ : Expired threshold now l m m₁) (h₂ : Expired threshold now l' m m₂)
    (hq : m₂.Mirrors rows q) : m₁.Mirrors rows q := by
  have hsequences : m₁.sessionSequences = m₂.sessionSequences :=
    h₁.sessionSequences.trans h₂.sessionSequences.symm
  refine ⟨hq.agents, ?_, ?_, ?_, ?_, hq.owners, ?_⟩
  · intro k
    obtain ⟨hsessions, htombstones⟩ := h₁.same hperm h₂ k
    rw [hsessions, htombstones]
    exact hq.row k
  · rw [hsequences]
    exact hq.numbered
  · rw [hsequences]
    exact hq.unnumbered
  · rw [h₁.agentSequences, ← h₂.agentSequences]
    exact hq.counters
  · rw [hq.events, h₂.events, h₁.events]

-- over the same list both adapters do the same, whatever the list
theorem expireAll_mirrors {l : List Session} (h : m.Mirrors rows q)
    (howner : ∀ s ∈ l, ∀ s', m.sessions.get? s.sessionId = some s' → s.agentId = s'.agentId)
    (expiredIds : List String) : ∃ m' q' reply,
      expireAll threshold now l expiredIds (.inMemory m) = (.inMemory m', reply) ∧
      expireAll threshold now l expiredIds (.sql q) = (.sql q', reply) ∧ m'.Mirrors rows q' := by
  induction l generalizing m q expiredIds with
  | nil => exact ⟨m, q, _, rfl, rfl, h⟩
  | cons s l ih =>
    have hrest : ∀ x ∈ l, ∀ s', m.sessions.get? x.sessionId = some s' → x.agentId = s'.agentId :=
      fun x hx => howner x (List.mem_cons_of_mem s hx)
    simp only [expireAll]
    split
    · cases ht : TerminalSessionTombstone.construct s.sessionId s.agentId now .idleTimeout with
      | none => exact ⟨m, q, _, rfl, rfl, h⟩
      | some t =>
        obtain ⟨hid, hagent, -⟩ := SessionWork.construct_eq_some ht
        obtain ⟨hreply, hnext⟩ := h.terminalizeSession hid (fun s' hs' => by
          rw [hagent]
          exact howner s (by simp) s' hs')
        have hrest₁ : ∀ x ∈ l, ∀ s',
            (m.terminalizeSession s.sessionId t).1.sessions.get? x.sessionId = some s' →
            x.agentId = s'.agentId :=
          fun x hx s' hs' => hrest x hx s' (terminalize_sessions hs')
        cases hm : m.terminalizeSession s.sessionId t with
        | mk m₁ done =>
          cases hq : q.terminalizeSession s.sessionId t with
          | mk q₁ done' =>
            rw [hm, hq] at hnext
            rw [hm] at hrest₁
            rw [hm, hq] at hreply
            obtain rfl : done' = done := hreply
            simp only [terminalizeSession, liftSql, hm, hq, Prod.map, id]
            cases done' with
            | true => exact ih hnext hrest₁ _
            | false => exact ih hnext hrest₁ _
    · exact ih h hrest expiredIds

-- the two stores side by side
def Paired (rows : List String) (b c : SessionBackend) : Prop :=
  ∃ m q, b = .inMemory m ∧ c = .sql q ∧ SessionRepository.Mirrors rows m q

theorem listed_listSessions (h : m.Mirrors rows q) : Listed m m.listSessions := by
  have hkeyed : ∀ s ∈ m.listSessions, m.sessions.get? s.sessionId = some s := by
    intro s hs
    rw [SessionRepository.listSessions, Dict.mem_values_iff] at hs
    obtain ⟨k, hk⟩ := hs
    rw [h.sessionId_eq hk]
    exact hk
  refine ⟨h.nodup_sessionIds, ?_⟩
  intro s hs
  have hlive := hkeyed s hs
  refine ⟨hlive, ?_⟩
  have hview := h.row s.sessionId
  generalize m.sessions.get? s.sessionId = a, m.tombstones.get? s.sessionId = t,
    q.sessionRows.get? s.sessionId = row at hview hlive ⊢
  cases hview with
  | dead t row hstatus howner hid => cases hlive
  | _ => rfl

-- an expiry pass meets no idle session it cannot end, or only such sessions
def Orderly (threshold now : Instant) (l : List Session) : Prop :=
  (∀ s ∈ l, idle threshold now s = true → endable s = true) ∨
    ∀ s ∈ l, idle threshold now s = true → endable s = false

instance decidableOrderly (threshold now : Instant) (l : List Session) :
    Decidable (Orderly threshold now l) :=
  inferInstanceAs (Decidable ((∀ s ∈ l, idle threshold now s = true → endable s = true) ∨
    ∀ s ∈ l, idle threshold now s = true → endable s = false))

theorem expireAll_paired (h : m.Mirrors rows q) (order : RowOrder)
    (horderly : Orderly threshold now m.listSessions) : ∃ m' q' reply reply',
      expireAll threshold now m.listSessions [] (.inMemory m) = (.inMemory m', reply) ∧
      expireAll threshold now (q.listSessions order) [] (.sql q) = (.sql q', reply') ∧
      m'.Mirrors rows q' ∧ (reply = reply' ∨
        ∃ ids ids', reply = .ok ids ∧ reply' = .ok ids' ∧ ids.Perm ids') := by
  have hperm := h.listSessions order
  have hlisted := listed_listSessions h
  rcases horderly with hvalid | hinvalid
  · have hlisted' : Listed m (q.listSessions order) :=
      ⟨(hperm.map _).nodup_iff.mpr hlisted.nodup, fun s hs => hlisted.active s (hperm.subset hs)⟩
    obtain ⟨m₁, hrun₁, hexpired₁⟩ := expireAll_inMemory hlisted hvalid []
    obtain ⟨m₂, hrun₂, hexpired₂⟩ :=
      expireAll_inMemory hlisted' (fun s hs => hvalid s (hperm.subset hs)) []
    obtain ⟨m₃, q', reply, hmemory, hsql, hmirrors⟩ :=
      expireAll_mirrors (l := q.listSessions order) h (fun s hs s' hs' => by
        rw [(hlisted'.active s hs).1] at hs'
        cases hs'
        rfl) []
    rw [hrun₂] at hmemory
    obtain ⟨hstate, rfl⟩ := Prod.mk.inj hmemory
    cases hstate
    refine ⟨m₁, q', _, _, hrun₁, hsql, hexpired₁.mirrors hperm hexpired₂ hmirrors, .inr ?_⟩
    exact ⟨_, _, rfl, rfl, (((hperm.filter _).map _).append_left []).symm⟩
  · have hany : (q.listSessions order).any (idle threshold now) =
        m.listSessions.any (idle threshold now) := hperm.any_eq
    refine ⟨m, q, _, _, expireAll_unendable hinvalid _,
      expireAll_unendable (fun s hs => hinvalid s (hperm.subset hs)) _, h, .inl ?_⟩
    rw [hany]

structure Agrees {α : Type} (rows : List String)
    (x y : SessionBackend × Except SessionStoreError α) :
    Prop where
  reply : x.2 = y.2
  next : Paired rows x.1 y.1

theorem Agrees.of_alike {α : Type} {x : SessionRepository × Except SessionError α}
    {y : SqlSessionRepository × Except SessionStoreError α} (h : SessionRepository.Alike rows x y) :
    Agrees rows (lift x) (liftSql y) :=
  ⟨h.reply.symm, x.1, y.1, rfl, rfl, h.next⟩

theorem Agrees.silent {α : Type} (h : m.Mirrors rows q) (reply : Except SessionStoreError α) :
    Agrees rows (.inMemory m, reply) (.sql q, reply) := ⟨rfl, m, q, rfl, rfl, h⟩

theorem pruneExpired_paired (h : m.Mirrors rows q) (retention : Option DetectionRetentionPolicy)
    (now : Instant) :
    (pruneExpired retention (.inMemory m) now).2 = (pruneExpired retention (.sql q) now).2 ∧
      Paired rows (pruneExpired retention (.inMemory m) now).1
        (pruneExpired retention (.sql q) now).1 := by
  cases retention with
  | none => exact ⟨rfl, m, q, rfl, rfl, h⟩
  | some policy =>
    obtain ⟨hcount, hnext⟩ := h.pruneEvents (now - policy.totalRetentionSeconds)
    exact ⟨hcount.symm, _, _, rfl, rfl, hnext⟩

theorem endSession_agrees (h : m.Mirrors rows q) (sessionId agentId : String) (now : Instant) :
    Agrees rows (endSession (.inMemory m) sessionId agentId now)
      (endSession (.sql q) sessionId agentId now) := by
  simp only [endSession, getTombstone, getSession, h.getTombstone, h.getSession]
  cases htomb : m.getTombstone sessionId with
  | some t => exact .silent h _
  | none =>
    cases hs : m.getSession sessionId with
    | none => exact .silent h _
    | some existing =>
      dsimp only
      split
      · exact .silent h _
      · rename_i howner
        cases ht : TerminalSessionTombstone.construct sessionId agentId now .explicitEnd with
        | none => exact .silent h _
        | some t =>
          obtain ⟨hid, hagent, -⟩ := SessionWork.construct_eq_some ht
          obtain ⟨hreply, hnext⟩ := h.terminalizeSession hid (fun s' hs' => by
            rw [SessionRepository.getSession, hs'] at hs
            cases hs
            rw [hagent, not_not.mp howner])
          cases hm : m.terminalizeSession sessionId t with
          | mk m₁ done =>
            cases hq : q.terminalizeSession sessionId t with
            | mk q₁ done' =>
              rw [hm, hq] at hnext hreply
              obtain rfl : done' = done := hreply
              simp only [terminalizeSession, liftSql, hm, hq, Prod.map, id]
              cases done' with
              | true => exact .silent hnext _
              | false =>
                simp only [hnext.getTombstone]
                cases m₁.getTombstone sessionId with
                | none => exact .silent hnext _
                | some recheck => exact .silent hnext _

end SessionBackend

namespace SessionCall

open SessionBackend

variable {rows : List String} {m : SessionRepository} {q : SqlSessionRepository}
  {retention : Option DetectionRetentionPolicy}

-- expire_idle_sessions returns a list without a specified order
inductive Same {ε : Type} : Except ε SessionReply → Except ε SessionReply → Prop where
  | same (reply : Except ε SessionReply) : Same reply reply
  | expired (ids ids' : List String) (h : ids.Perm ids') :
      Same (.ok (.outcome (.expired ids))) (.ok (.outcome (.expired ids')))

theorem Same.mapError {ε δ : Type} {x y : Except ε SessionReply} (h : Same x y) (f : ε → δ) :
    Same (x.mapError f) (y.mapError f) := by
  cases h with
  | same => exact .same _
  | expired ids ids' hperm => exact .expired ids ids' hperm

-- the agents a call refers to have a row, and events come with unallocated sequences
def InDomain (rows : List String) : SessionCall → Prop
  | .request (.createSession s) => s.agentId ∈ rows
  | .request (.bindOrValidate _ agentId _) => agentId ∈ rows
  | .request (.recordEvent e) => e.sequenceNumber = 0 ∧ e.agentSequence = 0
  | _ => True

def expiry : SessionCall → Option (Instant × Instant)
  | .request (.expireIdleSessions threshold now) => some (threshold, now)
  | _ => none

def Ordered (b : SessionBackend) (c : SessionCall × RowOrder) : Prop :=
  ∀ x ∈ c.1.expiry, Orderly x.1 x.2 (b.listSessions c.2)

instance decidableOrdered (b : SessionBackend) (c : SessionCall × RowOrder) :
    Decidable (Ordered b c) :=
  inferInstanceAs (Decidable (∀ x ∈ c.1.expiry, Orderly x.1 x.2 (b.listSessions c.2)))

theorem serve_of_agrees {x y : SessionBackend × Except SessionStoreError SessionOutcome}
    (h : Agrees rows x y) :
    Same (x.2.map .outcome) (y.2.map .outcome) ∧ Paired rows x.1 y.1 := by
  rw [h.reply]
  exact ⟨.same _, h.next⟩

theorem agrees_map {α : Type} {x y : SessionBackend × Except SessionStoreError α}
    (f : α → SessionOutcome) (h : Agrees rows x y) :
    Agrees rows (x.1, x.2.map f) (y.1, y.2.map f) :=
  ⟨congrArg (Except.map f) h.reply, h.next⟩

theorem recordEvent_agrees (h : m.Mirrors rows q) {e : SessionEvent} (hn : e.sequenceNumber = 0)
    (hp : e.agentSequence = 0) (order : RowOrder) :
    Agrees rows ((SessionRequest.recordEvent e).serve retention order (.inMemory m))
      ((SessionRequest.recordEvent e).serve retention order (.sql q)) := by
  have halike := h.recordEvent hn hp
  cases hm : m.recordEvent e with
  | mk m₁ reply =>
    cases hq : q.recordEvent e with
    | mk q₁ reply' =>
      rw [hm, hq] at halike
      have hnext : m₁.Mirrors rows q₁ := halike.next
      have hreply : reply' = reply.mapError .refused := halike.reply
      subst hreply
      cases reply with
      | error err =>
        simp only [SessionRequest.serve, SessionBackend.recordEvent, lift, liftSql, hm, hq,
          Except.mapError]
        exact .silent hnext _
      | ok recorded =>
        simp only [SessionRequest.serve, SessionBackend.recordEvent, lift, liftSql, hm, hq,
          Except.mapError]
        exact ⟨rfl, (pruneExpired_paired hnext retention recorded.timestamp).2⟩

theorem expire_agrees (h : m.Mirrors rows q) (threshold now : Instant) (order : RowOrder)
    (horderly : Orderly threshold now m.listSessions) :
    Same (((SessionRequest.expireIdleSessions threshold now).serve retention order
        (.inMemory m)).2.map .outcome)
      (((SessionRequest.expireIdleSessions threshold now).serve retention order
        (.sql q)).2.map .outcome) ∧
      Paired rows
        ((SessionRequest.expireIdleSessions threshold now).serve retention order (.inMemory m)).1
        ((SessionRequest.expireIdleSessions threshold now).serve retention order (.sql q)).1 := by
  simp only [SessionRequest.serve]
  split
  · exact serve_of_agrees (.silent h _)
  · obtain ⟨m', q', reply, reply', hmemory, hsql, hnext, hreply⟩ :=
      expireAll_paired h order horderly
    simp only [SessionBackend.listSessions, hmemory, hsql]
    refine ⟨?_, m', q', rfl, rfl, hnext⟩
    rcases hreply with rfl | ⟨ids, ids', rfl, rfl, hperm⟩
    · exact .same _
    · exact .expired ids ids' hperm

theorem serve_refines (rows : List String) (retention : Option DetectionRetentionPolicy) :
    Run.Refines (serve retention) (serve retention)
      (fun b c => InDomain rows c.1 ∧ Ordered b c) (Paired rows) Same := by
  have hserve : ∀ b b' c, Paired rows b b' → InDomain rows c.1 ∧ Ordered b c →
      Same (serve retention b c).2 (serve retention b' c).2 ∧
        Paired rows (serve retention b c).1 (serve retention b' c).1 := by
    rintro _ _ ⟨call, order⟩ ⟨m, q, rfl, rfl, h⟩ ⟨hdomain, hordered⟩
    cases call with
    | request req =>
      cases req with
      | createSession s =>
        exact serve_of_agrees (agrees_map .session (.of_alike (h.createSession (fun _ => hdomain))))
      | bindOrValidate sessionId agentId now =>
        exact serve_of_agrees
          (agrees_map .session (.of_alike (h.bindOrCreateSession (fun _ => hdomain) now)))
      | recordEvent e => exact serve_of_agrees (recordEvent_agrees h hdomain.1 hdomain.2 order)
      | updateEventFinalDecision sessionId n decision =>
        exact serve_of_agrees (agrees_map (fun _ => .finalized)
          (.of_alike (h.updateEventFinalDecision sessionId n decision)))
      | endSession sessionId agentId now =>
        exact serve_of_agrees (endSession_agrees h sessionId agentId now)
      | expireIdleSessions threshold now =>
        exact expire_agrees h threshold now order (hordered _ rfl)
    | getSession sessionId =>
      simp only [serve, SessionBackend.getSession, h.getSession]
      cases m.getSession sessionId with
      | none => exact ⟨.same _, m, q, rfl, rfl, h⟩
      | some s => exact ⟨.same _, m, q, rfl, rfl, h⟩
    | pruneEvents now =>
      obtain ⟨hcount, hnext⟩ := pruneExpired_paired h retention now
      simp only [serve, hcount]
      exact ⟨.same _, hnext⟩
    | currentAgentSequence agentId =>
      simp only [serve, SessionBackend.currentAgentSequence, h.currentAgentSequence]
      exact ⟨.same _, m, q, rfl, rfl, h⟩
    | listEvents sessionId =>
      simp only [serve, SessionBackend.listEvents, h.listEvents]
      exact ⟨.same _, m, q, rfl, rfl, h⟩
    | listEligibleEvents query =>
      simp only [serve, SessionBackend.listEligibleEvents, h.listEligibleEvents]
      exact ⟨.same _, m, q, rfl, rfl, h⟩
  exact ⟨fun b b' c hR hP => (hserve b b' c hR hP).1, fun b b' c hR hP => (hserve b b' c hR hP).2⟩

-- the window a query asks for starts at datetime.min or later
def Reaches (earliest : Instant) : SessionCall → Prop
  | .listEligibleEvents query => earliest ≤ query.evaluationTime - query.windowSeconds
  | _ => True

theorem overflows_paired {earliest : Instant} (retention : Option DetectionRetentionPolicy)
    {b b' : SessionBackend} {c : SessionCall} (h : Paired rows b b') (hdomain : c.InDomain rows)
    (hreaches : c.Reaches earliest) :
    (c.overflows earliest retention b = none ∧ c.overflows earliest retention b' = none) ∨
      ∃ a a', c.overflows earliest retention b = some (a, .overflow) ∧
        c.overflows earliest retention b' = some (a', .overflow) ∧ Paired rows a a' := by
  obtain ⟨m, q, rfl, rfl, hm⟩ := h
  cases c with
  | request req =>
    cases req with
    | recordEvent e =>
      have halike := hm.recordEvent hdomain.1 hdomain.2
      have hreply : (q.recordEvent e).2 = (m.recordEvent e).2.mapError .refused := halike.reply
      have hnext := halike.next
      simp only [overflows, SessionBackend.recordEvent, lift, liftSql, hreply]
      cases (m.recordEvent e).2 with
      | error err => exact .inl ⟨rfl, rfl⟩
      | ok recorded =>
        simp only [Except.mapError]
        split
        · exact .inr ⟨_, _, rfl, rfl, _, _, rfl, rfl, hnext⟩
        · exact .inl ⟨rfl, rfl⟩
    | _ => exact .inl ⟨rfl, rfl⟩
  | pruneEvents now =>
    simp only [overflows]
    split
    · exact .inr ⟨_, _, rfl, rfl, m, q, rfl, rfl, hm⟩
    · exact .inl ⟨rfl, rfl⟩
  | listEligibleEvents query =>
    have hcutoff : ¬ query.evaluationTime - query.windowSeconds < earliest := not_lt.mpr hreaches
    simp only [overflows, if_neg hcutoff]
    exact .inl ⟨trivial, trivial⟩
  | _ => exact .inl ⟨rfl, rfl⟩

theorem serveDated_refines (earliest : Instant) (rows : List String)
    (retention : Option DetectionRetentionPolicy) :
    Run.Refines (serveDated earliest retention) (serveDated earliest retention)
      (fun b c => (c.1.InDomain rows ∧ c.1.Reaches earliest) ∧ Ordered b c) (Paired rows) Same := by
  have hserve : ∀ b b' c, Paired rows b b' →
      (c.1.InDomain rows ∧ c.1.Reaches earliest) ∧ Ordered b c →
      Same (serveDated earliest retention b c).2 (serveDated earliest retention b' c).2 ∧
        Paired rows (serveDated earliest retention b c).1
          (serveDated earliest retention b' c).1 := by
    rintro b b' c hpaired ⟨⟨hdomain, hreaches⟩, hordered⟩
    rcases overflows_paired retention hpaired hdomain hreaches with
      ⟨hb, hb'⟩ | ⟨a, a', hb, hb', hnext⟩
    · have hexact := serve_refines rows retention
      simp only [serveDated, hb, hb']
      exact ⟨(hexact.reply b b' c hpaired ⟨hdomain, hordered⟩).mapError SessionFault.store,
        hexact.next b b' c hpaired ⟨hdomain, hordered⟩⟩
    · simp only [serveDated, hb, hb']
      exact ⟨.same _, hnext⟩
  exact ⟨fun b b' c hR hP => (hserve b b' c hR hP).1, fun b b' c hR hP => (hserve b b' c hR hP).2⟩

theorem session_adapters_agree (earliest : Instant) (rows : List String)
    (retention : Option DetectionRetentionPolicy) (calls : List (SessionCall × RowOrder))
    (hdomain : ∀ c ∈ calls, c.1.InDomain rows) (hreaches : ∀ c ∈ calls, c.1.Reaches earliest)
    (hordered : Run.Meets (serveDated earliest retention) Ordered (.inMemory .empty) calls) :
    List.Forall₂ Same (Run.replies (serveDated earliest retention) (.inMemory .empty) calls)
      (Run.replies (serveDated earliest retention) (.sql ⟨rows, .empty, .empty, []⟩) calls) := by
  apply (serveDated_refines earliest rows retention).replies
  · exact ⟨.empty, ⟨rows, .empty, .empty, []⟩, rfl, rfl, SessionRepository.mirrors_empty rows⟩
  · exact (Run.meets_of_forall _ (fun c hc => ⟨hdomain c hc, hreaches c hc⟩)).and hordered

def backwards : RowOrder := ⟨List.reverse, List.reverse_perm⟩

-- in seconds from 1970
def datetimeMin : Instant := -62135596800

def sampleCalls : List (SessionCall × RowOrder) :=
  [.request (.bindOrValidate "session-1" "agent-1" 0),
    .request (.bindOrValidate "session-2" "agent-1" 0),
    .request (.expireIdleSessions 10 20), .request (.bindOrValidate "session-1" "agent-1" 21),
    .getSession "session-2"].map (fun c => (c, backwards))

theorem session_adapters_agree_sample :
    List.Forall₂ Same (Run.replies (serveDated datetimeMin none) (.inMemory .empty) sampleCalls)
      (Run.replies (serveDated datetimeMin none) (.sql ⟨["agent-1"], .empty, .empty, []⟩)
        sampleCalls) :=
  session_adapters_agree datetimeMin ["agent-1"] none sampleCalls (by simp [sampleCalls, InDomain])
    (by simp [sampleCalls, Reaches]) (by decide +kernel)

def mixedCalls : List (SessionCall × RowOrder) :=
  [.request (.bindOrValidate "session-1" "agent-1" 0), .request (.bindOrValidate "" "agent-1" 0),
    .request (.expireIdleSessions 10 20), .getSession "session-1"].map (fun c => (c, backwards))

def earlyCalls : List (SessionCall × RowOrder) :=
  [.listEligibleEvents ⟨"agent-1", .agent, none, 1, datetimeMin, 0⟩].map (fun c => (c, backwards))

-- one pass ends session-1 before it fails on the empty id, the other fails first
theorem expiry_order_shows :
    (∀ c ∈ mixedCalls ++ earlyCalls, c.1.InDomain ["agent-1"]) ∧
      ¬ List.Forall₂ Same (Run.replies (serveDated datetimeMin none) (.inMemory .empty) mixedCalls)
        (Run.replies (serveDated datetimeMin none) (.sql ⟨["agent-1"], .empty, .empty, []⟩)
          mixedCalls) ∧
      Run.replies (serveDated datetimeMin none) (.inMemory .empty) earlyCalls = [.error .overflow] ∧
      Run.replies (serveDated datetimeMin none) (.sql ⟨["agent-1"], .empty, .empty, []⟩)
        earlyCalls = [.error .repository] := by
  refine ⟨by simp [mixedCalls, earlyCalls, InDomain], ?_, by decide +kernel, by decide +kernel⟩
  intro h
  have hmemory : Run.replies (serveDated datetimeMin none) (.inMemory .empty) mixedCalls =
      [.ok (.outcome (.session ⟨"session-1", "agent-1", 0, 0⟩)),
        .ok (.outcome (.session ⟨"", "agent-1", 0, 0⟩)), .error (.store (.refused .validation)),
        .error (.store (.refused (.notFound "session-1")))] := by
    decide +kernel
  have hsql : Run.replies (serveDated datetimeMin none) (.sql ⟨["agent-1"], .empty, .empty, []⟩)
      mixedCalls =
      [.ok (.outcome (.session ⟨"session-1", "agent-1", 0, 0⟩)),
        .ok (.outcome (.session ⟨"", "agent-1", 0, 0⟩)), .error (.store (.refused .validation)),
        .ok (.outcome (.session ⟨"session-1", "agent-1", 0, 0⟩))] := by
    decide +kernel
  rw [hmemory, hsql] at h
  simp only [List.forall₂_cons] at h
  obtain ⟨-, -, -, hlast, -⟩ := h
  cases hlast

end SessionCall

end AgentSecurityPlatform
