import AgentSecurityPlatform.Library.Run
import AgentSecurityPlatform.Approval.Continuation

namespace AgentSecurityPlatform

inductive ContinuationBackend where
  | inMemory (r : InMemoryApprovalContinuationRepository)
  | sql (s : SqlApprovalContinuationRepository)

inductive ContinuationCall where
  | create (grant : ApprovalContinuation)
  | get (grantId : String)
  | transition (t : ContinuationTransition)
  | list (agentId : Option String) (state : Option ContinuationState)

inductive ContinuationReply where
  | created
  | found (grant : Option ApprovalContinuation)
  | moved (won : Bool)
  | listed (grants : List ApprovalContinuation)

inductive ContinuationWork where
  | start (call : ContinuationCall)
  | holding (row : ApprovalContinuationModel) (t : ContinuationTransition)
  | done (result : Except ContinuationError ContinuationReply)

abbrev ContinuationPool := Pool ContinuationBackend ContinuationWork

-- what a store holds of a continuation, its binding as the adapter keeps it
structure StoredContinuation where
  binding : ContinuationBinding PythonValue ⊕ ContinuationBinding String
  state : ContinuationState
  approvedBy : Option String
  consumedAt : Option Timestamp

namespace StoredContinuation

def ofGrant (c : ApprovalContinuation) : StoredContinuation :=
  ⟨.inl c.binding, c.state, c.approvedBy, c.consumedAt⟩

def ofRow (row : ApprovalContinuationModel) : Option StoredContinuation :=
  (ContinuationState.ofValue row.state).map (fun state =>
    ⟨.inr row.binding, state, row.approvedBy, row.consumedAt⟩)

def move (c : StoredContinuation) (t : ContinuationTransition) : StoredContinuation :=
  { c with
    state := t.toState
    approvedBy := t.writtenApprover c.approvedBy
    consumedAt := t.writtenConsumption c.consumedAt }

theorem ofRow_of_readable {row : ApprovalContinuationModel} {state : ContinuationState}
    (h : row.state = state.value) :
    ofRow row = some ⟨.inr row.binding, state, row.approvedBy, row.consumedAt⟩ := by
  rw [ofRow, h, ContinuationState.ofValue_value]
  rfl

end StoredContinuation

def ContinuationBackend.stored : ContinuationBackend → String → Option StoredContinuation
  | .inMemory r, grantId => (r.getContinuation grantId).map .ofGrant
  | .sql s, grantId => (s.rows.get? grantId).bind StoredContinuation.ofRow

namespace ContinuationWork

def answerInMemory (r : InMemoryApprovalContinuationRepository) :
    ContinuationCall → InMemoryApprovalContinuationRepository ×
      Except ContinuationError ContinuationReply
  | .create grant => (r.createContinuation grant, .ok .created)
  | .get grantId => (r, .ok (.found (r.getContinuation grantId)))
  | .transition t =>
    ((r.transitionContinuation t).1,
      ((r.transitionContinuation t).2.map .moved).mapError .invalidTransition)
  | .list agentId state => (r, .ok (.listed (r.listContinuations agentId state)))

-- a transition locks its row with one statement and commits with another; the rest is one statement
def startSql (refs : ReferencedRows) (s : SqlApprovalContinuationRepository) :
    ContinuationCall → Option (SqlApprovalContinuationRepository × ContinuationWork)
  | .create grant =>
    some ((s.createContinuation refs grant).1,
      .done ((s.createContinuation refs grant).2.map (fun _ => .created)))
  | .get grantId => some (s, .done ((s.getContinuation grantId).map .found))
  | .transition t =>
    match t.check with
    | .error e => some (s, .done (.error (.invalidTransition e)))
    | .ok () =>
      match s.rows.get? t.grantId with
      | none => some (s, .done (.ok (.moved false)))
      | some row =>
        if t.grantId ∈ s.locked then none
        else some (s.lockRow t.grantId, .holding row t)
  | .list agentId state => some (s, .done ((s.listContinuations agentId state).map .listed))

def step (refs : ReferencedRows) :
    ContinuationBackend → ContinuationWork → Option (ContinuationBackend × ContinuationWork)
  | .inMemory r, .start call =>
    some (.inMemory (answerInMemory r call).1, .done (answerInMemory r call).2)
  | .sql s, .start call => (startSql refs s call).map (fun x => (.sql x.1, x.2))
  | .sql s, .holding row t =>
    some (.sql (s.commitTransition row t).1, .done (.ok (.moved (s.commitTransition row t).2)))
  | .inMemory _, .holding _ _ => none
  | _, .done _ => none

def attempt : ContinuationWork → Option ContinuationTransition
  | .start (.transition t) => some t
  | .holding _ t => some t
  | _ => none

def won : ContinuationWork → Bool
  | .done (.ok (.moved true)) => true
  | _ => false

def accepted : ContinuationWork → Bool
  | .done (.ok .created) => true
  | w => w.won

end ContinuationWork

namespace ContinuationPool

-- everything one step can do to the stored continuations
inductive Effect (f f' : String → Option StoredContinuation) (w w' : ContinuationWork) : Prop where
  | idle (hlost : w'.won = false) (hsame : f' = f)
  | created (grant : ApprovalContinuation) (c : StoredContinuation)
    (hcall : w = .start (.create grant))
      (hreply : w' = .done (.ok .created)) (hnew : f grant.grantId = none)
      (hstate : c.state = grant.state) (hset : f' = Function.update f grant.grantId (some c))
  | moved (t : ContinuationTransition) (c : StoredContinuation) (hcall : w.attempt = some t)
      (hwon : w' = .done (.ok (.moved true))) (hcheck : t.check = .ok ())
      (hfound : f t.grantId = some c) (hfrom : c.state = t.fromState)
      (hset : f' = Function.update f t.grantId (some (c.move t)))

structure Locked (p : ContinuationPool) : Prop where
  readable : ∀ s grantId row, p.shared = .sql s → s.rows.get? grantId = some row →
    ∃ state : ContinuationState, row.state = state.value
  held : ∀ (i : Nat) (row : ApprovalContinuationModel) (t : ContinuationTransition),
    p.threads[i]? = some (.holding row t) → t.check = .ok () ∧
      ∃ s, p.shared = .sql s ∧ s.rows.get? t.grantId = some row ∧ t.grantId ∈ s.locked
  exclusive : ∀ (i j : Nat) (row row' : ApprovalContinuationModel) (t t' : ContinuationTransition),
    p.threads[i]? = some (.holding row t) → p.threads[j]? = some (.holding row' t') →
    t.grantId = t'.grantId → i = j

-- an in-memory create_continuation is only called with an id that is not stored yet
def isFreshCreate (p : ContinuationPool) (l : Nat × ReferencedRows) : Bool :=
  match p.shared, p.threads[l.1]? with
  | .inMemory r, some (.start (.create grant)) => (r.getContinuation grant.grantId).isNone
  | _, _ => true

abbrev FreshCreate (p : ContinuationPool) (l : Nat × ReferencedRows) : Prop :=
  isFreshCreate p l = true

variable {p q : ContinuationPool} {l : Nat × ReferencedRows} {refs : ReferencedRows}
  {w w' : ContinuationWork}

theorem answerInMemory_effect (r : InMemoryApprovalContinuationRepository) (call : ContinuationCall)
    (hfresh : ∀ grant, call = .create grant → r.getContinuation grant.grantId = none) :
    Effect (ContinuationBackend.inMemory r).stored
      (ContinuationBackend.inMemory (ContinuationWork.answerInMemory r call).1).stored
      (.start call) (.done (ContinuationWork.answerInMemory r call).2) := by
  cases call with
  | create grant =>
    refine .created grant (.ofGrant grant) rfl rfl ?_ rfl ?_
    · rw [ContinuationBackend.stored, hfresh grant rfl, Option.map_none]
    · funext g
      simp only [ContinuationWork.answerInMemory, ContinuationBackend.stored,
        InMemoryApprovalContinuationRepository.getContinuation,
        InMemoryApprovalContinuationRepository.createContinuation, Dict.get?_set,
        Function.update_apply]
      rcases eq_or_ne grant.grantId g with rfl | hg
      · simp
      · simp [hg, hg.symm]
  | get grantId => exact .idle rfl rfl
  | list agentId state => exact .idle rfl rfl
  | transition t =>
    simp only [ContinuationWork.answerInMemory,
      InMemoryApprovalContinuationRepository.transitionContinuation]
    split
    · exact .idle rfl rfl
    · rename_i hcheck
      split
      · exact .idle rfl rfl
      · rename_i c hfound
        split
        · exact .idle rfl rfl
        · rename_i hfrom
          refine .moved t (.ofGrant c) rfl rfl hcheck ?_ (not_not.mp hfrom) ?_
          · simp [ContinuationBackend.stored,
              InMemoryApprovalContinuationRepository.getContinuation, hfound]
          · funext g
            simp only [ContinuationBackend.stored,
              InMemoryApprovalContinuationRepository.getContinuation, Dict.get?_set,
              Function.update_apply]
            rcases eq_or_ne t.grantId g with rfl | hg
            · simp
              rfl
            · simp [hg, hg.symm]

theorem stored_set (s s' : SqlApprovalContinuationRepository) (grantId : String)
    (row : ApprovalContinuationModel) {state : ContinuationState} (h : row.state = state.value)
    (hrows : s'.rows = s.rows.set grantId row) :
    (ContinuationBackend.sql s').stored =
      Function.update (ContinuationBackend.sql s).stored grantId
        (some ⟨.inr row.binding, state, row.approvedBy, row.consumedAt⟩) := by
  funext g
  simp only [ContinuationBackend.stored, hrows, Dict.get?_set, Function.update_apply]
  rcases eq_or_ne grantId g with rfl | hg
  · simp [StoredContinuation.ofRow_of_readable h]
  · simp [hg, hg.symm]

theorem ofDomain_state {grant : ApprovalContinuation} {row : ApprovalContinuationModel}
    (h : ApprovalContinuationModel.ofDomain grant = some row) : row.state = grant.state.value := by
  obtain ⟨parameters, -, rfl⟩ := Option.map_eq_some_iff.mp h
  rfl

theorem startSql_effect {s s' : SqlApprovalContinuationRepository} {call : ContinuationCall}
    (h : ContinuationWork.startSql refs s call = some (s', w')) :
    Effect (ContinuationBackend.sql s).stored (ContinuationBackend.sql s').stored
      (.start call) w' := by
  cases call with
  | create grant =>
    simp only [ContinuationWork.startSql, SqlApprovalContinuationRepository.createContinuation] at h
    split at h
    · cases h
      exact .idle rfl rfl
    · rename_i row hrow
      split at h
      · cases h
        exact .idle rfl rfl
      · rename_i habsent
        rw [Bool.not_eq_true, Dict.contains_eq_false_iff] at habsent
        split at h
        · cases h
          exact .idle rfl rfl
        · cases h
          refine .created grant _ rfl rfl ?_ rfl
            (stored_set s _ grant.grantId _ (ofDomain_state hrow) rfl)
          simp [ContinuationBackend.stored, habsent]
  | get grantId =>
    cases h
    refine .idle ?_ rfl
    cases s.getContinuation grantId <;> rfl
  | list agentId state =>
    cases h
    refine .idle ?_ rfl
    cases s.listContinuations agentId state <;> rfl
  | transition t =>
    simp only [ContinuationWork.startSql] at h
    split at h
    · cases h
      exact .idle rfl rfl
    · split at h
      · cases h
        exact .idle rfl rfl
      · split at h <;> cases h
        exact .idle rfl rfl

theorem commitTransition_effect {s : SqlApprovalContinuationRepository}
    {row : ApprovalContinuationModel} {t : ContinuationTransition} {state : ContinuationState}
    (hrow : s.rows.get? t.grantId = some row) (hstate : row.state = state.value)
    (hcheck : t.check = .ok ()) :
    Effect (ContinuationBackend.sql s).stored
      (ContinuationBackend.sql (s.commitTransition row t).1).stored (.holding row t)
      (.done (.ok (.moved (s.commitTransition row t).2))) := by
  simp only [SqlApprovalContinuationRepository.commitTransition]
  split
  · exact .idle rfl rfl
  · rename_i hfrom
    rw [not_not, hstate] at hfrom
    refine .moved t ⟨.inr row.binding, state, row.approvedBy, row.consumedAt⟩ rfl rfl hcheck ?_
      (ContinuationState.value_injective hfrom)
        (stored_set s _ t.grantId (row.move t) rfl rfl)
    simp [ContinuationBackend.stored, hrow, StoredContinuation.ofRow_of_readable hstate]

theorem Locked.effect (h : Locked p) (hfresh : FreshCreate p l)
    (hf : Pool.fire ContinuationWork.step p l = some q) :
    ∃ w w', p.threads[l.1]? = some w ∧ q.threads[l.1]? = some w' ∧
      Effect p.shared.stored q.shared.stored w w' := by
  obtain ⟨w, w', hw, hstep, hq⟩ := Pool.fire_eq_some hf
  have hw' : q.threads[l.1]? = some w' := by
    rw [hq, List.getElem?_set_self (List.getElem?_eq_some_iff.mp hw).1]
  refine ⟨w, w', hw, hw', ?_⟩
  cases hb : p.shared with
  | inMemory r =>
    rw [hb] at hstep
    cases w with
    | start call =>
      obtain ⟨hshared, rfl⟩ := Prod.mk.inj (Option.some.inj hstep)
      rw [← hshared]
      apply answerInMemory_effect
      rintro grant rfl
      simpa only [FreshCreate, isFreshCreate, hb, hw, Option.isNone_iff_eq_none] using hfresh
    | holding row t => cases hstep
    | done result => cases hstep
  | sql s =>
    rw [hb] at hstep
    cases w with
    | start call =>
      obtain ⟨⟨s', w₁⟩, hcall, heq⟩ := Option.map_eq_some_iff.mp hstep
      obtain ⟨hshared, rfl⟩ := Prod.mk.inj heq
      rw [← hshared]
      exact startSql_effect hcall
    | holding row t =>
      obtain ⟨hcheck, s₁, hs₁, hrow, -⟩ := h.held _ _ _ hw
      rw [hb] at hs₁
      cases hs₁
      obtain ⟨state, hstate⟩ := h.readable s t.grantId row hb hrow
      obtain ⟨hshared, rfl⟩ := Prod.mk.inj (Option.some.inj hstep)
      rw [← hshared]
      exact commitTransition_effect hrow hstate hcheck
    | done result => cases hstep

-- a thread that ends leaves the other transactions their rows and their locks
theorem Locked.finish {i : Nat} {result : Except ContinuationError ContinuationReply} (h : Locked p)
    (hq : q.threads = p.threads.set i (.done result))
    (hreadable : ∀ s grantId row, q.shared = .sql s → s.rows.get? grantId = some row →
      ∃ state : ContinuationState, row.state = state.value)
    (hkept : ∀ (j : Nat) (row : ApprovalContinuationModel) (t : ContinuationTransition) s, j ≠ i →
      p.threads[j]? = some (.holding row t) → p.shared = .sql s → s.rows.get? t.grantId = some row →
      t.grantId ∈ s.locked →
      ∃ s', q.shared = .sql s' ∧ s'.rows.get? t.grantId = some row ∧ t.grantId ∈ s'.locked) :
    Locked q := by
  have hold : ∀ (j : Nat) (row : ApprovalContinuationModel) (t : ContinuationTransition),
      q.threads[j]? = some (.holding row t) → j ≠ i ∧ p.threads[j]? = some (.holding row t) := by
    intro j row t hj
    rw [hq, List.getElem?_set] at hj
    split at hj
    · split at hj <;> cases hj
    · rename_i hne
      exact ⟨fun he => hne he.symm, hj⟩
  refine ⟨hreadable, ?_, ?_⟩
  · intro j row t hj
    obtain ⟨hne, hj⟩ := hold j row t hj
    obtain ⟨hcheck, s, hs, hrow, hlocked⟩ := h.held j row t hj
    exact ⟨hcheck, hkept j row t s hne hj hs hrow hlocked⟩
  · intro j k row row' t t' hj hk
    exact h.exclusive j k row row' t t' (hold j row t hj).2 (hold k row' t' hk).2

theorem Locked.lock {i : Nat} {s : SqlApprovalContinuationRepository}
    {row : ApprovalContinuationModel}
    {t : ContinuationTransition} (h : Locked p) (hs : p.shared = .sql s)
    (hq : q.threads = p.threads.set i (.holding row t))
    (hshared : q.shared = .sql (s.lockRow t.grantId))
    (hcheck : t.check = .ok ()) (hrow : s.rows.get? t.grantId = some row)
    (hfree : t.grantId ∉ s.locked) : Locked q := by
  have hcases : ∀ (j : Nat) (row' : ApprovalContinuationModel) (t' : ContinuationTransition),
      q.threads[j]? = some (.holding row' t') →
      j = i ∧ row' = row ∧ t' = t ∨ p.threads[j]? = some (.holding row' t') ∧
        t'.grantId ∈ s.locked := by
    intro j row' t' hj
    rw [hq, List.getElem?_set] at hj
    split at hj
    · rename_i he
      split at hj <;> cases hj
      exact .inl ⟨he.symm, rfl, rfl⟩
    · obtain ⟨-, s₁, hs₁, -, hlocked⟩ := h.held j row' t' hj
      rw [hs] at hs₁
      cases hs₁
      exact .inr ⟨hj, hlocked⟩
  refine ⟨?_, ?_, ?_⟩
  · intro s₁ grantId row' hs₁ hrow'
    rw [hshared] at hs₁
    cases hs₁
    exact h.readable s grantId row' hs hrow'
  · intro j row' t' hj
    rcases hcases j row' t' hj with ⟨-, rfl, rfl⟩ | ⟨hj, hlocked⟩
    · exact ⟨hcheck, _, hshared, hrow, List.mem_cons_self ..⟩
    · obtain ⟨hcheck', s₁, hs₁, hrow', -⟩ := h.held j row' t' hj
      rw [hs] at hs₁
      cases hs₁
      exact ⟨hcheck', _, hshared, hrow', List.mem_cons_of_mem _ hlocked⟩
  · intro j k row₁ row₂ t₁ t₂ hj hk hsame
    rcases hcases j row₁ t₁ hj with ⟨rfl, rfl, rfl⟩ | ⟨hj, hl₁⟩ <;>
      rcases hcases k row₂ t₂ hk with ⟨rfl, rfl, rfl⟩ | ⟨hk, hl₂⟩
    · rfl
    · rw [hsame] at hfree
      exact absurd hl₂ hfree
    · rw [← hsame] at hfree
      exact absurd hl₁ hfree
    · exact h.exclusive j k row₁ row₂ t₁ t₂ hj hk hsame

theorem readable_set {rows : Dict String ApprovalContinuationModel}
    (h : ∀ grantId row, rows.get? grantId = some row →
      ∃ state : ContinuationState, row.state = state.value)
    (k : String) {new : ApprovalContinuationModel}
    (hnew : ∃ state : ContinuationState, new.state = state.value) (grantId : String)
    (row : ApprovalContinuationModel)
    (hrow : (rows.set k new).get? grantId = some row) :
    ∃ state : ContinuationState, row.state = state.value := by
  rw [Dict.get?_set] at hrow
  split at hrow
  · cases hrow
    exact hnew
  · exact h grantId row hrow

theorem Locked.finish_same {i : Nat} {result : Except ContinuationError ContinuationReply}
    (h : Locked p) (hq : q.threads = p.threads.set i (.done result))
    (hshared : q.shared = p.shared) :
    Locked q := by
  apply h.finish hq
  · rw [hshared]
    exact h.readable
  · intro j row t s _ _ hs hrow hlocked
    exact ⟨s, hshared.trans hs, hrow, hlocked⟩

theorem Locked.create {i : Nat} {result : Except ContinuationError ContinuationReply}
    {s : SqlApprovalContinuationRepository} (h : Locked p) (hs : p.shared = .sql s)
    (hq : q.threads = p.threads.set i (.done result)) (grant : ApprovalContinuation)
    (hshared : q.shared = .sql (s.createContinuation refs grant).1) : Locked q := by
  simp only [SqlApprovalContinuationRepository.createContinuation] at hshared
  split at hshared
  · exact h.finish_same hq (hshared.trans hs.symm)
  · rename_i new hnew
    split at hshared
    · exact h.finish_same hq (hshared.trans hs.symm)
    · rename_i habsent
      rw [Bool.not_eq_true, Dict.contains_eq_false_iff] at habsent
      split at hshared
      · exact h.finish_same hq (hshared.trans hs.symm)
      · apply h.finish hq
        · intro s₁ grantId row hs₁
          rw [hshared] at hs₁
          cases hs₁
          exact readable_set (fun g row => h.readable s g row hs) grant.grantId
            ⟨grant.state, ofDomain_state hnew⟩ grantId row
        · intro j row t s₁ _ _ hs₁ hrow hlocked
          rw [hs] at hs₁
          cases hs₁
          refine ⟨_, hshared, ?_, hlocked⟩
          rw [Dict.get?_set, if_neg]
          · exact hrow
          · intro he
            rw [he, hrow] at habsent
            cases habsent

theorem Locked.commit {i : Nat} {row : ApprovalContinuationModel} {t : ContinuationTransition}
    {result : Except ContinuationError ContinuationReply} {s : SqlApprovalContinuationRepository}
    (h : Locked p) (hs : p.shared = .sql s) (hw : p.threads[i]? = some (.holding row t))
    (hq : q.threads = p.threads.set i (.done result))
    (hshared : q.shared = .sql (s.commitTransition row t).1) : Locked q := by
  have hother : ∀ (j : Nat) (row' : ApprovalContinuationModel) (t' : ContinuationTransition),
      j ≠ i → p.threads[j]? = some (.holding row' t') → t'.grantId ≠ t.grantId :=
    fun j row' t' hne hj hsame => hne (h.exclusive j i row' row t' t hj hw hsame)
  simp only [SqlApprovalContinuationRepository.commitTransition] at hshared
  split at hshared
  · apply h.finish hq
    · intro s₁ grantId row' hs₁ hrow'
      rw [hshared] at hs₁
      cases hs₁
      exact h.readable s grantId row' hs hrow'
    · intro j row' t' s₁ hne hj hs₁ hrow hlocked
      rw [hs] at hs₁
      cases hs₁
      exact ⟨_, hshared, hrow, (List.mem_erase_of_ne (hother j row' t' hne hj)).mpr hlocked⟩
  · apply h.finish hq
    · intro s₁ grantId row' hs₁
      rw [hshared] at hs₁
      cases hs₁
      exact readable_set (fun g row => h.readable s g row hs) t.grantId ⟨t.toState, rfl⟩
        grantId row'
    · intro j row' t' s₁ hne hj hs₁ hrow hlocked
      rw [hs] at hs₁
      cases hs₁
      have hkey := hother j row' t' hne hj
      refine ⟨_, hshared, ?_, (List.mem_erase_of_ne hkey).mpr hlocked⟩
      rw [Dict.get?_set, if_neg hkey.symm]
      exact hrow

theorem Locked.fire (h : Locked p) (hf : Pool.fire ContinuationWork.step p l = some q) :
    Locked q := by
  obtain ⟨w, w', hw, hstep, hq⟩ := Pool.fire_eq_some hf
  cases hb : p.shared with
  | inMemory r =>
    rw [hb] at hstep
    cases w with
    | start call =>
      obtain ⟨hshared, rfl⟩ := Prod.mk.inj (Option.some.inj hstep)
      apply h.finish hq
      · intro s grantId row hs
        rw [← hshared] at hs
        cases hs
      · intro j row t s _ _ hs
        rw [hb] at hs
        cases hs
    | holding row t => cases hstep
    | done result => cases hstep
  | sql s =>
    rw [hb] at hstep
    cases w with
    | start call =>
      obtain ⟨⟨s', w₁⟩, hcall, heq⟩ := Option.map_eq_some_iff.mp hstep
      obtain ⟨hshared, rfl⟩ := Prod.mk.inj heq
      cases call with
      | create grant =>
        cases hcall
        exact h.create hb hq grant hshared.symm
      | get grantId =>
        cases hcall
        exact h.finish_same hq (hshared.symm.trans hb.symm)
      | list agentId state =>
        cases hcall
        exact h.finish_same hq (hshared.symm.trans hb.symm)
      | transition t =>
        simp only [ContinuationWork.startSql] at hcall
        split at hcall
        · cases hcall
          exact h.finish_same hq (hshared.symm.trans hb.symm)
        · rename_i hcheck
          split at hcall
          · cases hcall
            exact h.finish_same hq (hshared.symm.trans hb.symm)
          · rename_i row hrow
            split at hcall
            · cases hcall
            · rename_i hfree
              cases hcall
              exact h.lock hb hq hshared.symm hcheck hrow hfree
    | holding row t =>
      obtain ⟨hshared, rfl⟩ := Prod.mk.inj (Option.some.inj hstep)
      exact h.commit hb hw hq hshared.symm
    | done result => cases hstep

end ContinuationPool

end AgentSecurityPlatform
