import AgentSecurityPlatform.Session.Ownership

namespace AgentSecurityPlatform

namespace SessionWork

variable {rows : List String} {b b' : SessionBackend} {m m' : SessionRepository}
  {retention : Option DetectionRetentionPolicy} {order : RowOrder} {w w' : SessionWork}
  {threshold now : Instant} {remaining : List Session} {expiredIds : List String}

-- the sessions an expiry pass has listed as idle and not reached yet are still idle
def Idle (m : SessionRepository) : SessionWork → Prop
  | .expiring threshold now remaining _ => ∀ s ∈ remaining, threshold ≤ now - s.lastActivityAt →
      m.owner s.sessionId ≠ none ∧
        ∀ s', m.sessions.get? s.sessionId = some s' → threshold ≤ now - s'.lastActivityAt
  | _ => True

-- an activity of this session leaves it idle for every pass that is about to end it
def Spares (sessionId : String) (activity : Instant) : SessionWork → Prop
  | .expiring threshold now remaining _ => ∀ s ∈ remaining, s.sessionId = sessionId →
      threshold ≤ now - s.lastActivityAt → threshold ≤ now - activity
  | _ => True

instance decidableSpares (sessionId : String) (activity : Instant) (w : SessionWork) :
    Decidable (w.Spares sessionId activity) :=
  match w with
  | .expiring threshold now remaining _ =>
    inferInstanceAs (Decidable (∀ s ∈ remaining, s.sessionId = sessionId →
      threshold ≤ now - s.lastActivityAt → threshold ≤ now - activity))
  | .start _ => isTrue trivial
  | .pruning _ => isTrue trivial
  | .endChecked _ _ _ => isTrue trivial
  | .endFound _ _ _ => isTrue trivial
  | .endLost _ _ => isTrue trivial
  | .done _ => isTrue trivial

theorem Idle.dated {touch : Option (String × String × Instant)} (h : Idle m w)
    (hp : m.Persists m') (hd : m.Dated m' touch)
    (hspares : ∀ k a activity, touch = some (k, a, activity) →
      (m.sessions.get? k).map (·.agentId) = some a → w.Spares k activity) : Idle m' w := by
  cases w with
  | expiring threshold now remaining expiredIds =>
    intro s hs hidle
    obtain ⟨howner, hstill⟩ := h s hs hidle
    refine ⟨?_, ?_⟩
    · obtain ⟨a, ha⟩ := Option.ne_none_iff_exists'.mp howner
      rw [hp.owner _ a ha]
      simp
    · intro s' hs'
      rcases hd s.sessionId s' hs' with ⟨s₀, hs₀, hsame⟩ | hnone | ⟨s₀, hs₀, htouch⟩
      · rw [← hsame]
        exact hstill s₀ hs₀
      · exact absurd hnone howner
      · exact hspares _ _ _ htouch (by rw [hs₀]; rfl) s hs rfl hidle
  | _ => trivial

theorem advance_expiring
    (h : w.advance retention order b = (b', .expiring threshold now remaining expiredIds)) :
    w.touching = none ∧ (remaining = b.listSessions order ∨
      ∃ listed ids, w = .expiring threshold now listed ids ∧ ∀ s ∈ remaining, s ∈ listed) := by
  cases w with
  | start req =>
    cases req with
    | expireIdleSessions threshold now =>
      simp only [advance] at h
      split at h <;> cases h
      exact ⟨rfl, .inl rfl⟩
    | recordEvent e =>
      simp only [advance] at h
      split at h <;> cases h
    | endSession sessionId agentId now =>
      simp only [advance, ownedBy] at h
      repeat' split at h
      all_goals cases h
    | _ => cases h
  | pruning recorded =>
    simp only [advance] at h
    split at h <;> cases h
  | endChecked sessionId agentId now =>
    simp only [advance] at h
    repeat' split at h
    all_goals cases h
  | endFound sessionId agentId t =>
    simp only [advance] at h
    split at h <;> cases h
  | endLost sessionId agentId =>
    simp only [advance, ownedBy] at h
    repeat' split at h
    all_goals cases h
  | expiring θ τ listed ids =>
    cases listed with
    | nil => cases h
    | cons s listed =>
      have hrest : ∀ s' ∈ listed, s' ∈ s :: listed := fun s' hs' => List.mem_cons_of_mem s hs'
      simp only [advance] at h
      repeat' split at h
      all_goals cases h
      all_goals exact ⟨rfl, .inr ⟨_, _, rfl, hrest⟩⟩
  | done result => cases h

theorem advance_idle (hview : b.View rows m) (hm : m.Settled) (hidle : Idle m w)
    (h : w.advance retention order b = (b', w')) : Idle m w' := by
  cases w' with
  | expiring threshold now remaining expiredIds =>
    obtain ⟨-, rfl | ⟨listed, ids, rfl, hsub⟩⟩ := advance_expiring h
    · intro s hs hsidle
      have hlisted : m.sessions.get? s.sessionId = some s := by
        have hmem := (hview.listSessions order).subset hs
        rw [SessionRepository.listSessions, Dict.mem_values_iff] at hmem
        obtain ⟨k, hk⟩ := hmem
        rw [hm.keyed k s hk]
        exact hk
      rw [hm.owner_live hlisted, hlisted]
      refine ⟨by simp, ?_⟩
      rintro s' ⟨⟩
      exact hsidle
    · exact fun s hs => hidle s (hsub s hs)
  | _ => trivial

theorem terminalizeSession_tombstone {sessionId k : String} {t : TerminalSessionTombstone}
    (hbefore : m.tombstones.get? k = none)
    (hafter : (m.terminalizeSession sessionId t).1.tombstones.get? k ≠ none) :
    sessionId = k ∧ (m.terminalizeSession sessionId t).2 = true := by
  simp only [SessionRepository.terminalizeSession] at hafter ⊢
  split at hafter
  · exact absurd hbefore hafter
  · rename_i hactive
    split at hafter
    · exact absurd hbefore hafter
    · rename_i hopen
      rw [if_neg hactive, if_neg hopen]
      rw [Dict.get?_set] at hafter
      split at hafter
      · rename_i hk
        exact ⟨hk, rfl⟩
      · exact absurd hbefore hafter

-- an expiry step that writes a tombstone writes it for the session at the head of its list
theorem expiring_closes {k : String} (hview : b.View rows m) (hm : m.Settled)
    (hw : Held m (.expiring threshold now remaining expiredIds))
    (h : (SessionWork.expiring threshold now remaining expiredIds).advance retention order b =
      (b', w'))
    (hbefore : b.getTombstone k = none) (hafter : b'.getTombstone k ≠ none) :
    ∃ s ∈ remaining, s.sessionId = k ∧ threshold ≤ now - s.lastActivityAt ∧
      ∃ s', m.sessions.get? k = some s' := by
  cases remaining with
  | nil =>
    cases h
    exact absurd hbefore hafter
  | cons s remaining =>
    simp only [advance] at h
    split at h
    · rename_i hidle
      split at h
      · cases h
        exact absurd hbefore hafter
      · rename_i t ht
        obtain ⟨hid, hagent, -⟩ := construct_eq_some ht
        have hsame : ∀ s', m.sessions.get? s.sessionId = some s' → t.agentId = s'.agentId := by
          intro s' hs'
          have howner := hw s (by simp)
          rw [hm.owner_live hs'] at howner
          rw [hagent, Option.some.inj howner]
        obtain ⟨-, hnext⟩ := hview.terminalizeSession hid hsame
        have hshared : (b.terminalizeSession s.sessionId t).1 = b' := by
          split at h <;> rename_i hr <;> cases h <;> rw [hr]
        rw [hshared] at hnext
        rw [hview.getTombstone] at hbefore
        rw [hnext.getTombstone] at hafter
        obtain ⟨rfl, hdone⟩ := terminalizeSession_tombstone hbefore hafter
        obtain ⟨-, -, s', hs'⟩ := (SessionRepository.terminalizeSession_effect hid hsame).2 hdone
        exact ⟨s, by simp, rfl, hidle, s', hs'⟩
    · cases h
      exact absurd hbefore hafter

end SessionWork

namespace SessionPool

variable {rows : List String} {retention : Option DetectionRetentionPolicy} {p q : SessionPool}
  {m : SessionRepository} {l : Nat × RowOrder} {ls : List (Nat × RowOrder)}

-- an activity that a step writes does not revive a session some pass is about to end as idle
def Respects (p : SessionPool) (l : Nat × RowOrder) : Prop :=
  match p.threads[l.1]?.bind SessionWork.touching with
  | none => True
  | some (sessionId, agentId, activity) =>
    (p.shared.getSession sessionId).map (·.agentId) = some agentId →
      ∀ w ∈ p.threads, w.Spares sessionId activity

instance decidableRespects (p : SessionPool) (l : Nat × RowOrder) : Decidable (Respects p l) :=
  match h : p.threads[l.1]?.bind SessionWork.touching with
  | none => isTrue (by simp only [Respects, h])
  | some (sessionId, agentId, activity) =>
    decidable_of_iff ((p.shared.getSession sessionId).map (·.agentId) = some agentId →
      ∀ w ∈ p.threads, w.Spares sessionId activity) (by simp only [Respects, h])

structure Watched (rows : List String) (m : SessionRepository) (p : SessionPool) : Prop where
  sound : Sound rows m p
  idle : ∀ w ∈ p.threads, SessionWork.Idle m w

theorem advance_of_step {order : RowOrder} {b b' : SessionBackend} {w w' : SessionWork}
    (h : w.step retention order b = some (b', w')) : w.advance retention order b = (b', w') := by
  simp only [SessionWork.step] at h
  split at h
  · cases h
  · exact Option.some.inj h

theorem Watched.fire (h : Watched rows m p) (hrespects : Respects p l)
    (hf : Pool.fire (SessionWork.step retention) p l = some q) : ∃ m', Watched rows m' q := by
  obtain ⟨m', w, hw, hsound, hp, hd, -⟩ := h.sound.fire hf
  obtain ⟨w₁, w', hw₁, hstep, hq⟩ := Pool.fire_eq_some hf
  rw [hw] at hw₁
  cases hw₁
  have hadvance := advance_of_step hstep
  refine ⟨m', hsound, ?_⟩
  intro x hx
  rw [hq] at hx
  rcases List.mem_or_eq_of_mem_set hx with hx | rfl
  · apply (h.idle x hx).dated hp hd
    intro k a activity htouch hactive
    simp only [Respects, hw, Option.bind_some, htouch] at hrespects
    rw [h.sound.view.getSession] at hrespects
    exact hrespects hactive x hx
  · -- the thread that moved: an expiry pass never writes an activity
    have hidle := SessionWork.advance_idle h.sound.view h.sound.settled
      (h.idle w (List.mem_of_getElem? hw)) hadvance
    apply hidle.dated hp hd
    intro k a activity htouch hactive
    cases x with
    | expiring threshold now remaining expiredIds =>
      rw [(SessionWork.advance_expiring hadvance).1] at htouch
      cases htouch
    | _ => trivial

def EndsOnlyIdle (p q : SessionPool) (l : Nat × RowOrder) : Prop :=
  ∀ threshold now remaining expiredIds,
    p.threads[l.1]? = some (.expiring threshold now remaining expiredIds) →
    ∀ sessionId, p.shared.getTombstone sessionId = none → q.shared.getTombstone sessionId ≠ none →
      ∃ s, p.shared.getSession sessionId = some s ∧ threshold ≤ now - s.lastActivityAt

theorem Watched.endsOnlyIdle (h : Watched rows m p)
    (hf : Pool.fire (SessionWork.step retention) p l = some q) : EndsOnlyIdle p q l := by
  intro threshold now remaining expiredIds hw k hbefore hafter
  obtain ⟨w, w', hthread, hstep, -⟩ := Pool.fire_eq_some hf
  rw [hw] at hthread
  cases hthread
  have hmem := List.mem_of_getElem? hw
  obtain ⟨s, hs, rfl, hidle, s', hs'⟩ := SessionWork.expiring_closes h.sound.view h.sound.settled
    (h.sound.held _ hmem) (advance_of_step hstep) hbefore hafter
  refine ⟨s', ?_, (h.idle _ hmem s hs hidle).2 s' hs'⟩
  rw [h.sound.view.getSession]
  exact hs'

theorem watched_start {b : SessionBackend} (hb : b.Fresh rows) (reqs : List SessionRequest) :
    Watched rows .empty ⟨b, reqs.map .start⟩ := by
  refine ⟨sound_start hb reqs, ?_⟩
  intro w hw
  obtain ⟨req, -, rfl⟩ := List.mem_map.mp hw
  trivial

theorem idle_expiry_spares_live (rows : List String) (b : SessionBackend) (hb : b.Fresh rows)
    (retention : Option DetectionRetentionPolicy) (reqs : List SessionRequest)
    (ls : List (Nat × RowOrder)) (q : SessionPool)
    (h : Pool.run (SessionWork.step retention) ls ⟨b, reqs.map .start⟩ = some q)
    (hrespects : Pool.AllSteps (SessionWork.step retention) Respects ls ⟨b, reqs.map .start⟩) :
    ∀ ls₁ l ls₂, ls = ls₁ ++ l :: ls₂ → ∃ p₁ p₂ : SessionPool,
      Pool.run (SessionWork.step retention) ls₁ ⟨b, reqs.map .start⟩ = some p₁ ∧
        Pool.fire (SessionWork.step retention) p₁ l = some p₂ ∧ EndsOnlyIdle p₁ p₂ l := by
  rintro ls₁ l ls₂ rfl
  obtain ⟨p₁, hrun, hrest⟩ := Pool.run_append h
  obtain ⟨p₂, hf, -⟩ := Pool.run_cons hrest
  obtain ⟨m, hwatched⟩ := Pool.run_invariant_of_steps Respects (fun p => ∃ m, Watched rows m p)
    (fun p l q hr ⟨m, hm⟩ hf => hm.fire hr hf) (Pool.AllSteps.append_left hrespects)
    ⟨_, watched_start hb reqs⟩ hrun
  exact ⟨p₁, p₂, hrun, hf, hwatched.endsOnlyIdle hf⟩

def idleRequests : List SessionRequest :=
  [.bindOrValidate "session-1" "agent-1" 0, .expireIdleSessions 10 20,
    .bindOrValidate "session-1" "agent-1" 5]

def idleTurns : List (Nat × RowOrder) := [0, 1, 2, 1].map (fun i => (i, .asStored))

theorem idle_expiry_spares_live_sample : ∃ p₁ p₂ : SessionPool,
    Pool.run (SessionWork.step none) [(0, .asStored), (1, .asStored), (2, .asStored)]
        ⟨.inMemory .empty, idleRequests.map .start⟩ = some p₁ ∧
      Pool.fire (SessionWork.step none) p₁ (1, .asStored) = some p₂ ∧
      EndsOnlyIdle p₁ p₂ (1, .asStored) := by
  have hsome : (Pool.run (SessionWork.step none) idleTurns
      ⟨.inMemory .empty, idleRequests.map .start⟩).isSome = true := by
    decide +kernel
  obtain ⟨q, hq⟩ := Option.isSome_iff_exists.mp hsome
  exact idle_expiry_spares_live [] _ (.inl rfl) none idleRequests idleTurns q hq
    (by decide +kernel) _ _ [] rfl

def revivingRequests : List SessionRequest :=
  [.bindOrValidate "session-1" "agent-1" 0, .expireIdleSessions 10 20,
    .bindOrValidate "session-1" "agent-1" 19]

-- session-1 is bound at 0, listed as idle at 20, bound again at 19, and ended by the pass
theorem revived_session_ended : ∃ p₁ p₂ : SessionPool,
    Pool.run (SessionWork.step none) [(0, .asStored), (1, .asStored), (2, .asStored)]
        ⟨.inMemory .empty, revivingRequests.map .start⟩ = some p₁ ∧
      Pool.fire (SessionWork.step none) p₁ (1, .asStored) = some p₂ ∧
      ¬ EndsOnlyIdle p₁ p₂ (1, .asStored) := by
  refine ⟨_, _, rfl, rfl, ?_⟩
  intro h
  obtain ⟨s, hs, hidle⟩ := h 10 20 _ _ rfl "session-1" rfl (by decide)
  cases hs
  revert hidle
  decide

end SessionPool

end AgentSecurityPlatform
