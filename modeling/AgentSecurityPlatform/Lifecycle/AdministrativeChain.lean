import AgentSecurityPlatform.Lifecycle.AdministrativeThreads

namespace AgentSecurityPlatform

structure AdministrativeTransition.Extends (t : AdministrativeTransition)
    (previous : Option AdministrativeLifecycleState) (version : Nat) : Prop where
  previousState : t.previousState = previous
  versionBefore : t.administrativeVersionBefore = version
  versionAfter : t.administrativeVersionAfter = version + 1
  legal : isLegalAdministrativeTransition previous t.newState = true
  action : administrativeTransitionActions (previous, t.newState) = some t.action

def AdministrativeChain (previous : Option AdministrativeLifecycleState) (version : Nat) :
    List AdministrativeTransition → Prop
  | [] => True
  | t :: ts => t.Extends previous version ∧ AdministrativeChain (some t.newState) (version + 1) ts

namespace AdministrativeChain

variable {previous : Option AdministrativeLifecycleState} {version : Nat}
  {t : AdministrativeTransition} {ts us : List AdministrativeTransition}

def latest (previous : Option AdministrativeLifecycleState) (ts : List AdministrativeTransition) :
    Option AdministrativeLifecycleState :=
  ts.foldl (fun _ t => some t.newState) previous

theorem latest_none (ts : List AdministrativeTransition) :
    latest none ts = ts.getLast?.map (·.newState) := by
  induction ts using List.reverseRecOn with
  | nil => rfl
  | append_singleton ts t ih => simp [latest]

theorem concat : AdministrativeChain previous version (ts ++ [t]) ↔
    AdministrativeChain previous version ts ∧
      t.Extends (latest previous ts) (version + ts.length) := by
  induction ts generalizing previous version with
  | nil => simp [AdministrativeChain, latest]
  | cons u ts ih =>
    have hlength : version + (u :: ts).length = version + 1 + ts.length := by
      rw [List.length_cons]
      omega
    rw [List.cons_append, AdministrativeChain, ih, AdministrativeChain, hlength]
    exact and_assoc.symm

theorem versions (h : AdministrativeChain previous version ts) :
    ts.map (·.administrativeVersionAfter) = List.range' (version + 1) ts.length := by
  induction ts generalizing previous version with
  | nil => rfl
  | cons t ts ih =>
    rw [List.map_cons, List.length_cons, List.range'_succ, h.1.versionAfter, ih h.2]

theorem lastVersion (h : AdministrativeChain previous version ts) :
    (ts.getLast?.map (·.administrativeVersionAfter)).getD version = version + ts.length := by
  induction ts using List.reverseRecOn with
  | nil => rfl
  | append_singleton ts t ih =>
    rw [List.getLast?_concat, List.length_append, Option.map_some, Option.getD_some,
      (concat.mp h).2.versionAfter]
    rfl

theorem pairwise (h : AdministrativeChain previous version ts) :
    ts.Pairwise (fun t u => t.administrativeVersionAfter < u.administrativeVersionAfter) := by
  have hrange : (ts.map (·.administrativeVersionAfter)).Pairwise (· < ·) := by
    rw [h.versions]
    exact List.pairwise_lt_range'
  exact List.pairwise_map.mp hrange

theorem of_append (h : AdministrativeChain previous version (ts ++ us)) :
    AdministrativeChain (latest previous ts) (version + ts.length) us := by
  induction ts generalizing previous version with
  | nil => exact h
  | cons t ts ih =>
    have htail := ih h.2
    rw [List.length_cons, Nat.add_comm ts.length 1, ← Nat.add_assoc]
    exact htail

-- no clause of the chain looks at the time of an entry
theorem map_retimed {f : AdministrativeTransition → AdministrativeTransition}
    (hf : ∀ t, ∃ o, f t = { t with occurredAt := o })
    (h : AdministrativeChain previous version ts) :
    AdministrativeChain previous version (ts.map f) := by
  induction ts generalizing previous version with
  | nil => trivial
  | cons t ts ih =>
    obtain ⟨o, ho⟩ := hf t
    rw [List.map_cons, ho]
    exact ⟨⟨h.1.previousState, h.1.versionBefore, h.1.versionAfter, h.1.legal, h.1.action⟩, ih h.2⟩

theorem first (h : AdministrativeChain none 0 (t :: ts)) :
    t.action = .register ∧ t.previousState = none := by
  refine ⟨?_, h.1.previousState⟩
  have hlegal := h.1.legal
  have haction := h.1.action
  have hstate : t.newState = .registered := by
    simpa [isLegalAdministrativeTransition, legalAdministrativeTransitions] using hlegal
  rw [hstate] at haction
  exact (Option.some.inj haction).symm

theorem terminal (h : AdministrativeChain previous version (ts ++ t :: us))
    (ht : t.newState = .disabled) : us = [] := by
  have htail := h.of_append.2
  rw [ht] at htail
  cases us with
  | nil => rfl
  | cons u us =>
    have hlegal := htail.1.legal
    simp [isLegalAdministrativeTransition, legalAdministrativeTransitions] at hlegal

end AdministrativeChain

def byVersion (ts : List AdministrativeTransition) : List AdministrativeTransition :=
  ts.insertionSort (fun t u => t.administrativeVersionAfter ≤ u.administrativeVersionAfter)

theorem byVersion_eq {ts us : List AdministrativeTransition} (hperm : ts.Perm us)
    (hsorted :
      us.Pairwise (fun t u => t.administrativeVersionAfter < u.administrativeVersionAfter)) :
    byVersion ts = us := by
  have hsort : (byVersion ts).Pairwise
      (fun t u => t.administrativeVersionAfter ≤ u.administrativeVersionAfter) :=
    List.pairwise_insertionSort _ _
  have hle : us.Pairwise
      (fun t u => t.administrativeVersionAfter ≤ u.administrativeVersionAfter) :=
    hsorted.imp Nat.le_of_lt
  refine List.Perm.eq_of_pairwise ?_ hsort hle ((List.perm_insertionSort _ _).trans hperm)
  intro t u ht hu htu hut
  have hmem : t ∈ us := hperm.subset ((List.perm_insertionSort _ _).subset ht)
  have hnodup : (us.map (·.administrativeVersionAfter)).Nodup :=
    List.pairwise_map.mpr (hsorted.imp Nat.ne_of_lt)
  exact List.inj_on_of_nodup_map hnodup hmem hu (Nat.le_antisymm htu hut)

namespace AdministrativeBackend

variable {b b' : AdministrativeBackend} {m : InMemoryAdministrativeStore} {agent : Agent}
  {t : AdministrativeTransition} {n : AgentAdministrativeState} {v : Nat}

-- both times are the service's own datetime.now(timezone.utc)
structure Stamped (t : AdministrativeTransition) (n : AgentAdministrativeState) : Prop where
  entry : t.occurredAt.isUtc = true
  state : ∀ at_, n.lastTransitionAt = some at_ → at_.isUtc = true

theorem Stamped.keepsBoth (h : Stamped t n) (column : TimestampColumn) : column.KeepsBoth t n :=
  ⟨column.keeps_of_isUtc h.entry, fun at_ hat => column.keeps_of_isUtc (h.state at_ hat)⟩

theorem Stamped.appended (h : Stamped t n) {ts : List AdministrativeTransition}
    (hts : ∀ u ∈ ts, u.occurredAt.isUtc = true) : ∀ u ∈ ts ++ [t], u.occurredAt.isUtc = true := by
  intro u hu
  rcases List.mem_append.mp hu with hu | hu
  · exact hts u hu
  · rw [List.mem_singleton.mp hu]
    exact h.entry

def View : AdministrativeBackend → InMemoryAdministrativeStore → Prop
  | .inMemory m', m => m' = m ∧ ∀ t ∈ m.administrative.transitions, t.occurredAt.isUtc = true
  | .sql r, m => m.Mirrors r

-- how a listing shows a committed entry
def readEntry : AdministrativeBackend → AdministrativeTransition → AdministrativeTransition
  | .inMemory _, t => t
  | .sql r, t => t.readBack r.column

theorem readEntry_retimed (b : AdministrativeBackend) (t : AdministrativeTransition) :
    ∃ o, b.readEntry t = { t with occurredAt := o } := by
  cases b with
  | inMemory m => exact ⟨t.occurredAt, rfl⟩
  | sql r => exact ⟨r.column.readBack t.occurredAt, rfl⟩

theorem View.hasAgent (h : b.View m) (agentId : String) :
    b.hasAgent agentId = (m.agents.get agentId).isSome := by
  cases b with
  | inMemory m' =>
    obtain ⟨rfl, -⟩ := h
    rfl
  | sql r => exact h.agents agentId

theorem View.getState (h : b.View m) (agentId : String) :
    ∃ state, b.getState agentId = .ok state ∧
      state.map (fun s => (s.agentId, s.state, s.administrativeVersion)) =
        (m.administrative.getState agentId).map
          (fun s => (s.agentId, s.state, s.administrativeVersion)) := by
  cases b with
  | inMemory m' =>
    obtain ⟨rfl, -⟩ := h
    exact ⟨_, rfl, rfl⟩
  | sql r =>
    refine ⟨_, InMemoryAdministrativeStore.Mirrors.getState h agentId, ?_⟩
    rw [Option.map_map]
    rfl

theorem View.listTransitions (h : b.View m) (agentId : Option String) :
    ∃ listed : List AdministrativeTransition,
      b.listTransitions agentId = .ok (listed.map b.readEntry) ∧
        listed.Perm
          (m.administrative.transitions.filter (fun t => agentId.all (· = t.agentId))) := by
  cases b with
  | inMemory m' =>
    obtain ⟨rfl, hutc⟩ := h
    obtain ⟨listed, hlisted, hperm⟩ :
      ∃ listed, m'.administrative.listTransitions agentId = .ok listed ∧
        listed.Perm (m'.administrative.transitions.filter (fun t => agentId.all (· = t.agentId))) :=
      ⟨_, AdministrativeStateRepository.listTransitions_of_aware
        (fun t ht => Timestamp.isAware_of_isUtc (hutc t ht)) agentId, List.perm_insertionSort _ _⟩
    refine ⟨listed, ?_, hperm⟩
    simp only [AdministrativeBackend.listTransitions, hlisted]
    exact congrArg Except.ok (List.map_id _).symm
  | sql r =>
    obtain ⟨listed, -, hperm, hrows⟩ :=
      InMemoryAdministrativeStore.Mirrors.listTransitions h agentId
    refine ⟨listed, ?_, hperm⟩
    simp only [AdministrativeBackend.listTransitions, hrows]
    rfl

theorem recordTransition_refused {o : Except AdministrativeStoreError Bool}
    (h : b.recordTransition t n v = (b', o)) (ho : o ≠ .ok true) : b' = b := by
  cases b with
  | inMemory m =>
    simp only [recordTransition, AdministrativeStateRepository.recordTransition] at h
    split_ifs at h
    all_goals
      cases h
      first | rfl | exact absurd rfl ho
  | sql r =>
    simp only [recordTransition, SqlAdministrativeStateRepository.recordTransition] at h
    split at h
    · cases h
      rfl
    · split at h
      · cases h
        rfl
      · split at h
        · cases h
          rfl
        · split at h
          · cases h
            rfl
          · split at h
            · cases h
              rfl
            · cases h
              exact absurd rfl ho

theorem commitRegistration_refused {o : Except AdministrativeStoreError Unit}
    (h : b.commitRegistration agent t n = (b', o)) (ho : o ≠ .ok ()) : b' = b := by
  cases b with
  | inMemory m =>
    simp only [commitRegistration] at h
    split at h
    · cases h
      exact absurd rfl ho
    · cases h
      rfl
  | sql r =>
    simp only [commitRegistration, SqlAdministrativeStateRepository.commitRegistration] at h
    split at h
    · cases h
      rfl
    · split at h
      · cases h
        rfl
      · split at h
        · cases h
          rfl
        · cases h
          exact absurd rfl ho

theorem View.recordTransition (h : b.View m) (hn : n.agentId = t.agentId) (hu : Stamped t n)
    (hc : b.recordTransition t n v = (b', .ok true)) : m.Accepts t n v ∧
      b'.View { m with administrative := ⟨m.administrative.states.set t.agentId n,
        m.administrative.transitions ++ [t]⟩ } := by
  cases b with
  | inMemory m' =>
    obtain ⟨rfl, hutc⟩ := h
    by_cases ha : m'.Accepts t n v
    · refine ⟨ha, ?_⟩
      simp only [AdministrativeBackend.recordTransition,
        InMemoryAdministrativeStore.recordTransition_of_accepts ha] at hc
      cases hc
      exact ⟨rfl, hu.appended hutc⟩
    · simp only [AdministrativeBackend.recordTransition,
        InMemoryAdministrativeStore.recordTransition_eq] at hc
      rcases InMemoryAdministrativeStore.not_accepts_cases ha with hv | ⟨hv, herror⟩
      · rw [if_pos hv] at hc
        cases hc
      · rw [if_neg (not_not.mpr hv), herror] at hc
        cases hc
  | sql r =>
    have hm : m.Mirrors r := h
    have hagent : (m.agents.get t.agentId).isSome = true := by
      by_contra hagent
      rw [← hm.agents] at hagent
      have hnone : (r.agentRows.get? t.agentId).isNone = true := by simpa using hagent
      simp only [AdministrativeBackend.recordTransition,
        SqlAdministrativeStateRepository.recordTransition, if_pos hnone] at hc
      cases hc
    by_cases ha : m.Accepts t n v
    · by_cases hfresh : m.Fresh t
      · simp only [AdministrativeBackend.recordTransition,
          (hm.sqlRecordTransition_of_accepts hagent ha).1 hfresh] at hc
        cases hc
        exact ⟨ha, hm.committed hagent hn ha (hu.keepsBoth r.column)⟩
      · simp only [AdministrativeBackend.recordTransition,
          (hm.sqlRecordTransition_of_accepts hagent ha).2 hfresh] at hc
        cases hc
    · simp only [AdministrativeBackend.recordTransition,
        hm.sqlRecordTransition_of_not_accepts hagent ha,
        InMemoryAdministrativeStore.recordTransition_eq] at hc
      rcases InMemoryAdministrativeStore.not_accepts_cases ha with hv | ⟨hv, herror⟩
      · rw [if_pos hv] at hc
        cases hc
      · rw [if_neg (not_not.mpr hv), herror] at hc
        cases hc

theorem View.commitRegistration (h : b.View m)
    (hd : InMemoryAdministrativeStore.Describes t n none 0) (ht : t.agentId = agent.agentId)
    (hn : n.agentId = agent.agentId) (hu : Stamped t n)
    (hc : b.commitRegistration agent t n = (b', .ok ())) :
    m.Registers agent n ∧ b'.View ⟨m.agents.save agent,
      ⟨m.administrative.states.set agent.agentId n, m.administrative.transitions ++ [t]⟩⟩ := by
  cases b with
  | inMemory m' =>
    obtain ⟨rfl, hutc⟩ := h
    simp only [AdministrativeBackend.commitRegistration] at hc
    split at hc
    · rename_i agents administrative hok
      cases hc
      simp only [AdministrativeStateRepository.commitRegistration] at hok
      split_ifs at hok with habsent hlegal hinitial
      rw [not_not] at hinitial
      cases hok
      exact ⟨⟨by simpa using habsent, by simpa using hlegal, hinitial⟩, rfl, hu.appended hutc⟩
    · cases hc
  | sql r =>
    have hm : m.Mirrors r := h
    by_cases hr : m.Registers agent n
    · by_cases hfresh : m.Fresh t
      · simp only [AdministrativeBackend.commitRegistration,
          (hm.sqlCommitRegistration_of_describes hr hd).1 hfresh] at hc
        cases hc
        exact ⟨hr, hm.registered hr hd ht hn (hu.keepsBoth r.column)⟩
      · simp only [AdministrativeBackend.commitRegistration,
          (hm.sqlCommitRegistration_of_describes hr hd).2 hfresh] at hc
        cases hc
    · obtain ⟨e, -, he⟩ := hm.commitRegistration_of_not_registers (t := t) hr
      simp only [AdministrativeBackend.commitRegistration, he] at hc
      cases hc

end AdministrativeBackend

namespace InMemoryAdministrativeStore

variable {m : InMemoryAdministrativeStore} {agent : Agent} {t : AdministrativeTransition}
  {n : AgentAdministrativeState} {v : Nat}

def entriesOf (m : InMemoryAdministrativeStore) (agentId : String) :
    List AdministrativeTransition :=
  m.administrative.transitions.filter (·.agentId = agentId)

structure Chained (m : InMemoryAdministrativeStore) : Prop where
  chain : ∀ agentId, AdministrativeChain none 0 (m.entriesOf agentId)
  stored : ∀ agentId, (m.administrative.states.get? agentId).map
      (fun s => (s.agentId, s.state, s.administrativeVersion)) =
    (m.entriesOf agentId).getLast?.map
      (fun t => (agentId, t.newState, t.administrativeVersionAfter))
  owned : ∀ agentId, (m.agents.get agentId).isSome =
    (m.administrative.states.get? agentId).isSome

theorem chained_empty : Chained empty :=
  ⟨fun _ => trivial, fun _ => rfl, fun _ => rfl⟩

theorem Chained.previousState (h : m.Chained) (agentId : String) :
    m.previousState agentId = AdministrativeChain.latest none (m.entriesOf agentId) := by
  have hstored := congrArg (Option.map (fun x => x.2.1)) (h.stored agentId)
  rw [Option.map_map, Option.map_map] at hstored
  rw [AdministrativeChain.latest_none]
  exact hstored

theorem Chained.currentVersion (h : m.Chained) (agentId : String) :
    m.currentVersion agentId = (m.entriesOf agentId).length := by
  have hstored := congrArg (Option.map (fun x => x.2.2)) (h.stored agentId)
  rw [Option.map_map, Option.map_map] at hstored
  have hlast := (h.chain agentId).lastVersion
  rw [Nat.zero_add] at hlast
  rw [← hlast]
  exact congrArg (·.getD 0) hstored

theorem Chained.extend (h : m.Chained) {agents : AgentRepository} {a : String}
    (ha : t.agentId = a) (ht : t.Extends (m.previousState a) (m.currentVersion a))
    (hn : (n.agentId, n.state, n.administrativeVersion) =
      (a, t.newState, t.administrativeVersionAfter))
    (hagents : ∀ k, (agents.get k).isSome = if a = k then true else (m.agents.get k).isSome) :
    Chained ⟨agents, ⟨m.administrative.states.set a n, m.administrative.transitions ++ [t]⟩⟩ := by
  have hown : entriesOf ⟨agents, ⟨m.administrative.states.set a n,
      m.administrative.transitions ++ [t]⟩⟩ a = m.entriesOf a ++ [t] := by
    simp [entriesOf, List.filter_append, ha]
  have hother (k : String) (hk : ¬ a = k) : entriesOf ⟨agents, ⟨m.administrative.states.set a n,
      m.administrative.transitions ++ [t]⟩⟩ k = m.entriesOf k := by
    simp [entriesOf, List.filter_append, ha, hk]
  refine ⟨?_, ?_, ?_⟩
  · intro k
    rcases eq_or_ne a k with rfl | hk
    · rw [hown, AdministrativeChain.concat, Nat.zero_add, ← h.previousState, ← h.currentVersion]
      exact ⟨h.chain a, ht⟩
    · rw [hother k hk]
      exact h.chain k
  · intro k
    rcases eq_or_ne a k with rfl | hk
    · rw [hown, List.getLast?_concat]
      simp only [Dict.get?_set, if_true, Option.map_some, hn]
    · rw [hother k hk]
      simp only [Dict.get?_set, if_neg hk]
      exact h.stored k
  · intro k
    rw [hagents]
    simp only [Dict.get?_set]
    split
    · rfl
    · exact h.owned k

theorem Chained.recorded (h : m.Chained) (ha : m.Accepts t n v) (hn : n.agentId = t.agentId)
    (hprevious : t.previousState ≠ none)
    (haction : administrativeTransitionActions (t.previousState, t.newState) = some t.action) :
    Chained { m with administrative := ⟨m.administrative.states.set t.agentId n,
      m.administrative.transitions ++ [t]⟩ } := by
  obtain ⟨rfl, hd⟩ := ha
  refine h.extend rfl ⟨hd.previousState, hd.versionBefore, ?_, ?_, ?_⟩ ?_ ?_
  · rw [hd.versionAfter, hd.advances]
  · rw [hd.newState]
    exact hd.legal
  · rw [← hd.previousState]
    exact haction
  · rw [hn, hd.newState, hd.versionAfter]
  · intro k
    split
    · rename_i hk
      subst hk
      rw [h.owned]
      rw [hd.previousState, InMemoryAdministrativeStore.previousState, ne_eq,
        Option.map_eq_none_iff] at hprevious
      exact Option.isSome_iff_ne_none.mpr hprevious
    · rfl

theorem Chained.registered (h : m.Chained) (hr : m.Registers agent n) (hd : Describes t n none 0)
    (ht : t.agentId = agent.agentId) (hn : n.agentId = agent.agentId)
    (haction : t.action = .register) :
    Chained ⟨m.agents.save agent, ⟨m.administrative.states.set agent.agentId n,
      m.administrative.transitions ++ [t]⟩⟩ := by
  have hnone : m.administrative.states.get? agent.agentId = none := by
    have howned := h.owned agent.agentId
    rw [hr.absent] at howned
    simpa using howned.symm
  have hprevious : m.previousState agent.agentId = none := by
    simp [InMemoryAdministrativeStore.previousState, hnone]
  have hversion : m.currentVersion agent.agentId = 0 := by
    simp [InMemoryAdministrativeStore.currentVersion, hnone]
  refine h.extend ht ⟨?_, ?_, ?_, ?_, ?_⟩ ?_ ?_
  · rw [hprevious, hd.previousState]
  · rw [hversion, hd.versionBefore]
  · rw [hversion, hd.versionAfter, hd.advances]
  · rw [hprevious, hd.newState]
    exact hd.legal
  · have hstate : n.state = .registered := by
      simpa [isLegalAdministrativeTransition, legalAdministrativeTransitions] using hd.legal
    rw [hprevious, hd.newState, hstate, haction]
    rfl
  · rw [hn, hd.newState, hd.versionAfter]
  · intro k
    simp only [AgentRepository.get, AgentRepository.save, Dict.get?_set]
    split <;> rfl

end InMemoryAdministrativeStore

namespace AdministrativePool

variable {p q : AdministrativePool} {l : Nat × AdministrativeTick}
  {ls : List (Nat × AdministrativeTick)}

def WellFormed : AdministrativeThread → Prop
  | .finding i => i.newState ≠ .registered
  | .projecting i => i.newState ≠ .registered
  | .reading i => i.newState ≠ .registered
  | .recording t updated _ => updated.agentId = t.agentId ∧ t.previousState ≠ none ∧
      administrativeTransitionActions (t.previousState, t.newState) = some t.action ∧
      AdministrativeBackend.Stamped t updated
  | _ => True

theorem stamped_utc {t : AdministrativeTransition} {n : AgentAdministrativeState}
    {now now' : Instant}
    (ht : t.occurredAt = .utc now) (hn : n.lastTransitionAt = some (.utc now')) :
    AdministrativeBackend.Stamped t n := by
  refine ⟨?_, fun at_ hat => ?_⟩
  · rw [ht]
    rfl
  · rw [hn] at hat
    cases hat
    rfl

inductive Succeeds : AdministrativeThread → Prop
  | returned (outcome : AdministrativeOutcome) : Succeeds (.returned (.ok outcome))
  | activating (i : AdministrativeStep) (agent : Agent) (h : i.registered = some agent) :
      Succeeds (.finding i)

-- a step commits a registration, commits a transition, or leaves the stores as they were
inductive StepCase (p : AdministrativePool) (l : Nat × AdministrativeTick)
    (q : AdministrativePool) :
    AdministrativeThread → AdministrativeThread → Prop where
  | silent (t t' : AdministrativeThread) (hshared : q.shared = p.shared) : StepCase p l q t t'
  | registered (agent : Agent) (actor : Actor) (correlationId : Option String) (activates : Bool)
      (t' : AdministrativeThread)
      (hcommit : p.shared.commitRegistration agent (registration l.2 agent actor correlationId)
        ⟨agent.agentId, .registered, 1, some (.utc l.2.now)⟩ = (q.shared, .ok ()))
          (ht : Succeeds t') :
      StepCase p l q (.registering agent actor correlationId activates) t'
  | recorded (t : AdministrativeTransition) (updated : AgentAdministrativeState)
      (agent : Option Agent) (t' : AdministrativeThread)
      (hcommit : p.shared.recordTransition t updated t.administrativeVersionBefore =
        (q.shared, .ok true)) (ht : Succeeds t') : StepCase p l q (.recording t updated agent) t'

theorem advance_case {tick : AdministrativeTick} {b b' : AdministrativeBackend}
    {t t' : AdministrativeThread} (i : Nat) (threads threads' : List AdministrativeThread)
    (ht : t.advance tick b = (b', t')) (hw : WellFormed t) :
    StepCase ⟨b, threads⟩ (i, tick) ⟨b', threads'⟩ t t' ∧ WellFormed t' := by
  cases t with
  | registering agent actor correlationId activates =>
    simp only [AdministrativeThread.advance, AdministrativeThread.refuse] at ht
    split at ht
    · rename_i b₁ hcommit
      split at ht
      · cases ht
        exact ⟨.registered _ _ _ _ _ hcommit (.activating _ agent rfl), by simp [WellFormed]⟩
      · cases ht
        exact ⟨.registered _ _ _ _ _ hcommit (.returned _), trivial⟩
    all_goals
      rename_i b₁ hcommit
      cases ht
      exact ⟨.silent _ _ (AdministrativeBackend.commitRegistration_refused hcommit (by simp)),
        trivial⟩
  | finding i =>
    simp only [AdministrativeThread.advance, AdministrativeThread.refuse] at ht
    split at ht <;> cases ht
    · exact ⟨.silent _ _ rfl, hw⟩
    · exact ⟨.silent _ _ rfl, trivial⟩
  | projecting i =>
    cases ht
    exact ⟨.silent _ _ rfl, hw⟩
  | reading i =>
    simp only [AdministrativeThread.advance, AdministrativeThread.refuse] at ht
    split at ht
    · cases ht
      exact ⟨.silent _ _ rfl, trivial⟩
    · rename_i current hcurrent
      split at ht
      · cases ht
        exact ⟨.silent _ _ rfl, trivial⟩
      · rename_i hlegal
        split at ht
        · cases ht
          exact ⟨.silent _ _ rfl, trivial⟩
        · rename_i action haction
          cases ht
          refine ⟨.silent _ _ rfl, rfl, ?_, haction, stamped_utc rfl rfl⟩
          -- from no state only REGISTERED is legal, and no caller of
          -- _administrative_transition asks for it
          intro hnone
          have hprevious : current.map (·.state) = none := hnone
          rw [hprevious] at hlegal
          apply hw
          simpa [isLegalAdministrativeTransition, legalAdministrativeTransitions] using hlegal
  | recording t updated registered =>
    simp only [AdministrativeThread.advance, AdministrativeThread.refuse] at ht
    split at ht
    · rename_i b₁ hcommit
      cases ht
      exact ⟨.recorded _ _ _ _ hcommit (.returned _), trivial⟩
    all_goals
      rename_i hcommit
      cases ht
      exact ⟨.silent _ _ (AdministrativeBackend.recordTransition_refused hcommit (by simp)),
        trivial⟩
  | returned result =>
    cases ht
    exact ⟨.silent _ _ rfl, trivial⟩

structure Sound (p : AdministrativePool) : Prop where
  viewed : ∃ m, p.shared.View m ∧ m.Chained
  threads : ∀ t ∈ p.threads, WellFormed t

theorem fire_case (h : Pool.fire AdministrativeThread.step p l = some q)
    (hw : ∀ t ∈ p.threads, WellFormed t) : ∃ t t', p.threads[l.1]? = some t ∧
      q.threads = p.threads.set l.1 t' ∧ StepCase p l q t t' ∧ WellFormed t' := by
  obtain ⟨t, t', ht, hm, hq⟩ := Pool.fire_eq_some h
  refine ⟨t, t', ht, hq, ?_⟩
  have hcase (ha : t.advance l.2 p.shared = (q.shared, t')) : StepCase p l q t t' ∧ WellFormed t' :=
    advance_case l.1 p.threads q.threads ha (hw t (List.mem_of_getElem? ht))
  simp only [AdministrativeThread.step] at hm
  split at hm
  · cases hm
  · split at hm
    · obtain ⟨hs, he⟩ := Prod.mk.inj (Option.some.inj hm)
      rw [← he]
      exact ⟨.silent _ _ hs.symm, trivial⟩
    · exact hcase (Option.some.inj hm)

theorem Sound.fire (hp : Sound p) (h : Pool.fire AdministrativeThread.step p l = some q) :
    Sound q := by
  obtain ⟨m, hview, hchained⟩ := hp.viewed
  obtain ⟨t, t', ht, hq, hcase, hw⟩ := fire_case h hp.threads
  have hold := hp.threads t (List.mem_of_getElem? ht)
  refine ⟨?_, ?_⟩
  · cases hcase with
    | silent t t' hshared =>
      rw [hshared]
      exact ⟨m, hview, hchained⟩
    | registered agent actor correlationId activates t' hcommit _ =>
      have hd : InMemoryAdministrativeStore.Describes (registration l.2 agent actor correlationId)
          ⟨agent.agentId, .registered, 1, some (.utc l.2.now)⟩ none 0 :=
        ⟨rfl, rfl, rfl, rfl, rfl, rfl⟩
      obtain ⟨hr, hview'⟩ := hview.commitRegistration hd rfl rfl (stamped_utc rfl rfl) hcommit
      exact ⟨_, hview', hchained.registered hr hd rfl rfl rfl⟩
    | recorded t updated agent t' hcommit _ =>
      obtain ⟨hagent, hprevious, haction, hstamped⟩ := hold
      obtain ⟨ha, hview'⟩ := hview.recordTransition hagent hstamped hcommit
      exact ⟨_, hview', hchained.recorded ha hagent hprevious haction⟩
  · intro u hu
    rw [hq] at hu
    rcases List.mem_or_eq_of_mem_set hu with hu | rfl
    · exact hp.threads u hu
    · exact hw

def Fresh (b : AdministrativeBackend) : Prop :=
  b = .inMemory .empty ∨ ∃ column, b = .sql (.empty column)

theorem sound_start {b : AdministrativeBackend} (hb : Fresh b) (reqs : List AdministrativeRequest) :
    Sound ⟨b, reqs.map (·.start)⟩ := by
  refine ⟨⟨.empty, ?_, InMemoryAdministrativeStore.chained_empty⟩, ?_⟩
  · rcases hb with rfl | ⟨column, rfl⟩
    · refine ⟨rfl, fun t ht => ?_⟩
      cases ht
    · exact InMemoryAdministrativeStore.mirrors_empty column
  · intro t ht
    obtain ⟨req, -, rfl⟩ := List.mem_map.mp ht
    cases req <;> simp [AdministrativeRequest.start, WellFormed]

theorem run_sound (hp : Sound p) (h : Pool.run AdministrativeThread.step ls p = some q) : Sound q :=
  Pool.run_invariant Sound (fun _ _ _ hp hf => hp.fire hf) hp h

structure AgentLedger (b : AdministrativeBackend) (agentId : String)
    (entries : List AdministrativeTransition) (state : Option AgentAdministrativeState) : Prop where
  ordered : ∃ listed, b.listTransitions (some agentId) = .ok listed ∧ byVersion listed = entries
  current : b.getState agentId = .ok state
  chain : AdministrativeChain none 0 entries
  first : ∀ t ts, entries = t :: ts → t.action = .register ∧ t.previousState = none
  terminal : ∀ ts t us, entries = ts ++ t :: us → t.newState = .disabled → us = []
  stored : state.map (fun s => (s.agentId, s.state, s.administrativeVersion)) =
    entries.getLast?.map (fun t => (agentId, t.newState, t.administrativeVersionAfter))
  registered : b.hasAgent agentId = state.isSome

theorem Sound.agentLedger (h : Sound p) (agentId : String) :
    ∃ entries state, AgentLedger p.shared agentId entries state := by
  obtain ⟨m, hview, hchained⟩ := h.viewed
  have hchain := hchained.chain agentId
  have hread := hchain.map_retimed p.shared.readEntry_retimed
  obtain ⟨listed, hlisted, hperm⟩ := hview.listTransitions (some agentId)
  obtain ⟨state, hstate, hmapped⟩ := hview.getState agentId
  refine ⟨(m.entriesOf agentId).map p.shared.readEntry, state, ⟨_, hlisted, ?_⟩, hstate,
    hread, ?_, ?_, ?_, ?_⟩
  · have hentries : m.administrative.transitions.filter
      (fun t => (some agentId).all (· = t.agentId)) =
        m.entriesOf agentId := by
      refine List.filter_congr fun t _ => ?_
      simp [eq_comm]
    rw [hentries] at hperm
    exact byVersion_eq (hperm.map _) hread.pairwise
  · rintro t ts he
    rw [he] at hread
    exact hread.first
  · rintro ts t us he hdisabled
    rw [he] at hread
    exact hread.terminal hdisabled
  · have hstored := hchained.stored agentId
    rw [hmapped, AdministrativeStateRepository.getState, hstored, List.getLast?_map, Option.map_map]
    refine Option.map_congr fun t _ => ?_
    obtain ⟨o, ho⟩ := p.shared.readEntry_retimed t
    rw [Function.comp_apply, ho]
  · have hsome := congrArg Option.isSome hmapped
    rw [Option.isSome_map, Option.isSome_map] at hsome
    rw [hview.hasAgent, hchained.owned, hsome]
    rfl

theorem administrative_ledger_chain (b : AdministrativeBackend) (hb : Fresh b)
    (reqs : List AdministrativeRequest) (ls : List (Nat × AdministrativeTick))
    (q : AdministrativePool)
    (h : Pool.run AdministrativeThread.step ls ⟨b, reqs.map (·.start)⟩ = some q) :
    (∀ agentId, ∃ entries state, AgentLedger q.shared agentId entries state) ∧
      ∀ ls₁ l ls₂, ls = ls₁ ++ l :: ls₂ → ∃ p₁ p₂ : AdministrativePool,
        Pool.run AdministrativeThread.step ls₁ ⟨b, reqs.map (·.start)⟩ = some p₁ ∧
          Pool.fire AdministrativeThread.step p₁ l = some p₂ ∧
          (p₂.shared = p₁.shared ∨
            ∃ t', p₂.threads[l.1]? = some t' ∧ Succeeds t') := by
  have hstart := sound_start hb reqs
  refine ⟨(run_sound hstart h).agentLedger, ?_⟩
  rintro ls₁ l ls₂ rfl
  obtain ⟨p₁, h₁, hrest⟩ := Pool.run_append h
  obtain ⟨p₂, hf, -⟩ := Pool.run_cons hrest
  refine ⟨p₁, p₂, h₁, hf, ?_⟩
  obtain ⟨t, t', ht, hq, hcase, -⟩ := fire_case hf (run_sound hstart h₁).threads
  have hset : p₂.threads[l.1]? = some t' := by
    rw [hq, List.getElem?_set_self (List.getElem?_eq_some_iff.mp ht).1]
  cases hcase with
  | silent t t' hshared => exact .inl hshared
  | registered agent actor correlationId activates t' hcommit hs => exact .inr ⟨t', hset, hs⟩
  | recorded t updated agent t' hcommit hs => exact .inr ⟨t', hset, hs⟩

def sampleAgent : Agent :=
  { agentId := "agent-1", name := "Agent", owner := "owner", riskTier := .low, approvedTools := [] }

def turns (start i n : Nat) : List (Nat × AdministrativeTick) :=
  (List.range' start n).map
    (fun k => (i, { now := k, transitionUuid := toString k, correlationUuid := toString k }))

-- both disablements read version 1 before either writes; the later one loses its compare-and-set
def sampleRequests : List AdministrativeRequest :=
  [.register sampleAgent systemRegistrationActor none,
    .disable "agent-1" systemRegistrationActor "retired" none,
    .disable "agent-1" systemRegistrationActor "retired" none]

def sampleTurns : List (Nat × AdministrativeTick) :=
  turns 0 0 1 ++ turns 1 1 3 ++ turns 4 2 4 ++ turns 8 1 1

theorem administrative_ledger_chain_sample : ∃ q : AdministrativePool,
    Pool.run AdministrativeThread.step sampleTurns
        ⟨.sql (.empty .wallClock), sampleRequests.map (·.start)⟩ = some q ∧
      ∃ entries state, AgentLedger q.shared "agent-1" entries state := by
  have hsome : (Pool.run AdministrativeThread.step sampleTurns
      ⟨.sql (.empty .wallClock), sampleRequests.map (·.start)⟩).isSome = true := by decide +kernel
  obtain ⟨q, hq⟩ := Option.isSome_iff_exists.mp hsome
  exact ⟨q, hq,
    (administrative_ledger_chain (.sql (.empty .wallClock)) (.inr ⟨_, rfl⟩) sampleRequests
    sampleTurns q hq).1 "agent-1"⟩

end AdministrativePool

end AgentSecurityPlatform
