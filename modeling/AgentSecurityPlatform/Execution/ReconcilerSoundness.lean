import AgentSecurityPlatform.Execution.PassReport

namespace AgentSecurityPlatform

namespace EvidencePool

open ExecutionEvidenceService

variable {p q : EvidencePool} {l : Nat × Instant} {i : Nat} {pass : ReconciliationPass}
  {s₁ : ExecutionEvidenceService} {ls : List (Nat × Instant)}

theorem judge_eq_timeout {r : ExecutionReceipt} {start : Instant} {reason : ReconciliationReason}
    (h : pass.judge r (some start) = some reason) : reason = .executionTimeout ∧
      pass.reconciliationDeadline r start ≤ pass.currentMonotonic := by
  simp only [ReconciliationPass.judge] at h
  split at h
  · rename_i hle
    cases h
    exact ⟨rfl, hle⟩
  · cases h

theorem judge_past {r : ExecutionReceipt} {start : Instant}
    (h : pass.reconciliationDeadline r start ≤ pass.currentMonotonic) :
    pass.judge r (some start) = some .executionTimeout := if_pos h

theorem PassInvariant.sound (h : PassInvariant i pass s₁ p) (hcrowd : Crowd i p) {k : String}
    {t : Timestamp} {reason : ReconciliationReason} {r : ExecutionReceipt}
    (hc : calling p l = some (.reconciled k t reason))
    (hreply : (p.shared.apply (.reconciled k t reason)).2 = .ok r) :
    ∃ x ∈ s₁.listOpen, x.receiptId = k ∧ r.toReceiptIdentity = x.toReceiptIdentity ∧
      r.status = .unknown ∧ r.reconciliationReason = some reason ∧
      pass.judge x (p.shared.getMonotonicStart k) = some reason := by
  have hl := hcrowd.calling_reconciled hc
  have heffect := p.shared.apply_effect (.reconciled k t reason)
  rw [hreply] at heffect
  generalize hs' : (p.shared.apply (.reconciled k t reason)).1 = s' at heffect
  cases heffect with
  | opened _ start hstarted => cases hstarted
  | closed existing _ m hget hopen hid hkind =>
    have hnot : ¬ p.shared.Resolved k := fun hresolved => hresolved existing hget hopen
    rw [calling, hl] at hc
    cases h with
    | examining rest progress ht h =>
      rw [ht] at hc
      cases hc
    | finished progress ht h =>
      rw [ht] at hc
      cases hc
    | resolving x reason' rest progress ht hreason h =>
      rw [ht] at hc
      cases hc
      rcases h.tracked x (by simp) with ⟨hx, hstart⟩ | hresolved
      · have hsame : existing = x := by
          have hget' : p.shared.receipts.get? x.receiptId = some existing := hget
          rw [hx] at hget'
          exact (Option.some.inj hget').symm
        subst hsame
        rcases hreason with hresolved | hjudge
        · exact absurd hresolved hnot
        · cases hkind with
          | terminal k' o hterm => cases hterm
          | reconciled k' t' reason'' hrec hstatus hreason' =>
            cases hrec
            exact ⟨existing, h.snapshot existing (by simp), rfl, hid, hstatus, hreason',
              by rw [hstart]; exact hjudge⟩
      · exact absurd hresolved hnot

theorem passInvariant_start {clock grace : Instant} {nowUtc : Timestamp}
    {monotonicNow : Option Instant} (hp : p.shared.Consistent) (hfresh : Fresh p)
    (ht : p.threads[i]? = some (.unresolved nowUtc monotonicNow grace))
    (hf : Pool.fire EvidenceThread.step p (i, clock) = some q) :
    PassInvariant i ⟨nowUtc, monotonicNow.getD clock, grace⟩ p.shared q := by
  obtain ⟨t, t', ht₀, hm, hq⟩ := Pool.fire_eq_some hf
  rw [ht] at ht₀
  cases ht₀
  obtain ⟨hshared, rfl⟩ := Prod.mk.inj (Option.some.inj hm)
  have hget (r : ExecutionReceipt) (hr : r ∈ p.shared.listOpen) :
      p.shared.receipts.get? r.receiptId = some r :=
    hp.get?_of_mem (List.mem_of_mem_filter hr)
  refine .examining p.shared.listOpen {} ?_ ⟨?_, ?_, fun r hr => hr, ?_, fun r hr => .inl hr⟩
  · rw [hq, List.getElem?_set_self (List.getElem?_eq_some_iff.mp ht).1]
  · rw [← hshared]
    exact hp
  · intro r hr hmem
    have habsent := hfresh.unused _ ((fire_startingIds hf).subset hmem)
    rw [hget r hr] at habsent
    cases habsent
  · intro r hr
    rw [← hshared]
    exact .inl ⟨hget r hr, rfl⟩

inductive SameReturned : EvidenceThread → EvidenceThread → Prop where
  | examining (pass : ReconciliationPass) (rest : List ExecutionReceipt) (P Q : PassProgress)
      (h : P.reconciled = Q.reconciled) :
      SameReturned (.examining pass rest P) (.examining pass rest Q)
  | resolving (pass : ReconciliationPass) (r : ExecutionReceipt) (reason : ReconciliationReason)
      (rest : List ExecutionReceipt) (P Q : PassProgress) (h : P.reconciled = Q.reconciled) :
      SameReturned (.resolving pass r reason rest P) (.resolving pass r reason rest Q)
  | finished (P Q : PassProgress) (h : P.reconciled = Q.reconciled) :
      SameReturned (.finished P) (.finished Q)

theorem reconciled_note {P Q : PassProgress} (h : P.reconciled = Q.reconciled) (k : String)
    (reply : Except EvidenceError ExecutionReceipt) :
    (P.note k reply).reconciled = (Q.note k reply).reconciled := by
  cases reply with
  | ok r => simp [PassProgress.note, h]
  | error e =>
    simp only [PassProgress.note]
    split <;> exact h

theorem reconciled_note_error (P : PassProgress) (k : String) (e : EvidenceError) :
    (P.note k (.error e)).reconciled = P.reconciled := by
  simp only [PassProgress.note]
  split <;> rfl

theorem sameReturned_simulates : Pool.Simulates EvidenceThread.step SameReturned := by
  intro clock s t u s' t' hR h
  cases hR with
  | examining pass rest P Q hPQ =>
    cases rest with
    | nil =>
      cases h
      exact ⟨_, rfl, .finished P Q hPQ⟩
    | cons r rest =>
      simp only [EvidenceThread.step] at h ⊢
      split at h
      · cases h
        exact ⟨_, rfl, .examining pass rest P Q hPQ⟩
      · cases h
        exact ⟨_, rfl, .resolving pass r _ rest P Q hPQ⟩
  | resolving pass r reason rest P Q hPQ =>
    cases h
    exact ⟨_, rfl, .examining pass rest _ _ (reconciled_note hPQ _ _)⟩
  | finished P Q hPQ => cases h

theorem step_resolving (clock : Instant) (s : ExecutionEvidenceService) (r : ExecutionReceipt)
    (reason : ReconciliationReason) (rest : List ExecutionReceipt) (progress : PassProgress) :
    EvidenceThread.step clock s (.resolving pass r reason rest progress) =
      some ((s.recordReconciled r.receiptId pass.nowUtc reason).1, .examining pass rest
        (progress.note r.receiptId (s.recordReconciled r.receiptId pass.nowUtc reason).2)) := rfl

theorem failure_isolated {u v : EvidencePool} {c₁ c₂ : Instant} {ks : List (Nat × Instant)}
    {r : ExecutionReceipt} {reason : ReconciliationReason} {rest : List ExecutionReceipt}
    {prog progress : PassProgress} {e : EvidenceError} (hidle : ∀ l ∈ ls, l.1 ≠ i)
    (hu : u.threads[i]? = some (.examining pass (r :: rest) prog))
    (huv : Pool.run EvidenceThread.step ((i, c₁) :: ls) u = some v)
    (hv : v.threads[i]? = some (.resolving pass r reason rest prog))
    (herr : (v.shared.recordReconciled r.receiptId pass.nowUtc reason).2 = .error e)
    (hvq : Pool.run EvidenceThread.step ((i, c₂) :: ks) v = some q)
    (hq : q.threads[i]? = some (.finished progress)) :
    ∃ progress', progress'.reconciled = progress.reconciled ∧
      Pool.run EvidenceThread.step (ls ++ ks)
        ⟨u.shared, u.threads.set i (.examining pass rest prog)⟩ =
          some ⟨q.shared, q.threads.set i (.finished progress')⟩ := by
  obtain ⟨u', hf, hrun⟩ := Pool.run_cons huv
  obtain ⟨t, t', ht, hm, hset⟩ := Pool.fire_eq_some hf
  rw [hu] at ht
  cases ht
  have hsilent : u'.shared = u.shared := by
    rw [fire_shared hf, calling, hu]
    rfl
  have hskip := Pool.run_set_idle hidle (.examining pass rest prog) hrun
  rw [hset, List.set_set, hsilent] at hskip
  obtain ⟨w, hfw, hrunw⟩ := Pool.run_cons hvq
  obtain ⟨t₂, t₂', ht₂, hm₂, hsetw⟩ := Pool.fire_eq_some hfw
  rw [hv] at ht₂
  cases ht₂
  rw [step_resolving, herr, (recordReconciled_error herr).1] at hm₂
  obtain ⟨hshared, rfl⟩ := Prod.mk.inj (Option.some.inj hm₂)
  have hw : w.threads[i]? = some (.examining pass rest (prog.note r.receiptId (.error e))) := by
    rw [hsetw, List.getElem?_set_self (List.getElem?_eq_some_iff.mp hv).1]
  obtain ⟨a, b, ha, hab, hrunb⟩ := sameReturned_simulates.run hw
    (.examining pass rest _ prog (reconciled_note_error prog _ e)) hrunw
  rw [hq] at ha
  cases ha
  cases hab with
  | finished P Q hPQ =>
    refine ⟨Q, hPQ.symm, Pool.run_trans hskip ?_⟩
    rw [hsetw, List.set_set, ← hshared] at hrunb
    exact hrunb

structure Concurrent (i : Nat) (nowUtc : Timestamp) (monotonicNow : Option Instant)
    (grace : Instant) (p : EvidencePool) : Prop where
  pass : p.threads[i]? = some (.unresolved nowUtc monotonicNow grace)
  executors : Crowd i p
  fresh : Fresh p

theorem Concurrent.noted {nowUtc : Timestamp} {monotonicNow : Option Instant} {grace : Instant}
    (h : Concurrent i nowUtc monotonicNow grace p)
    (hrun : Pool.run EvidenceThread.step ls p = some q) : Noted i (callLog ls p) q :=
  Pool.run_trace_invariant exchange (Noted i) (fun _ _ _ _ h hf => h.fire hf) []
    ⟨h.executors, _, h.pass, by simp, rfl⟩ hrun

theorem Concurrent.ledger {nowUtc : Timestamp} {monotonicNow : Option Instant} {grace : Instant}
    (h : Concurrent i nowUtc monotonicNow grace p) (hs : p.shared.Consistent)
    (hrun : Pool.run EvidenceThread.step ls p = some q) : Ledger (callLog ls p) q :=
  Pool.run_trace_invariant exchange Ledger (fun _ _ _ _ h hf => h.fire hf) []
    ⟨hs, h.fresh, by simp [movedToUnknown], by simp [terminalisedBy], by simp [terminalisedBy]⟩ hrun

structure PassReport (p₀ p₁ q : EvidencePool) (i : Nat) (pass : ReconciliationPass)
    (before during : List (Nat × Instant)) (progress : PassProgress) : Prop where
  quiet : movedToUnknown (callLog before p₀) = []
  sound : ∀ ls l ks, during = ls ++ l :: ks → ∃ p, Pool.run EvidenceThread.step ls p₁ = some p ∧
    ∀ k t reason r, calling p l = some (.reconciled k t reason) →
      (p.shared.apply (.reconciled k t reason)).2 = .ok r →
      ∀ start, p.shared.getMonotonicStart k = some start → reason = .executionTimeout ∧
        start + r.declaredTimeoutSeconds + pass.grace ≤ pass.currentMonotonic
  complete : ∀ r ∈ p₁.shared.listOpen, ∀ start,
    p₁.shared.getMonotonicStart r.receiptId = some start →
    start + r.declaredTimeoutSeconds + pass.grace ≤ pass.currentMonotonic →
    q.shared.Resolved r.receiptId ∨
      ∃ e, EvidenceError.isTransition e = false ∧ (r.receiptId, e) ∈ progress.warnings
  executors : ∀ r ∈ terminalisedBy (callLog (before ++ during) p₀),
    (∀ x, q.shared.get r.receiptId = some x → x = r) ∧
      ∀ y ∈ progress.reconciled, y.receiptId ≠ r.receiptId
  returned : progress.reconciled = movedToUnknown (callLog (before ++ during) p₀)
  moved : ∀ k x, q.shared.get k = some x → x.status = .unknown →
    p₀.shared.get k = some x ∨ x ∈ progress.reconciled
  faulted : progress.warnings = faults (callLog (before ++ during) p₀)
  isolated : ∀ ls c₁ ms c₂ ks (u v : EvidencePool) r reason rest prog e,
    during = ls ++ (i, c₁) :: (ms ++ (i, c₂) :: ks) → (∀ l ∈ ms, l.1 ≠ i) →
    Pool.run EvidenceThread.step ls p₁ = some u →
    u.threads[i]? = some (.examining pass (r :: rest) prog) →
    Pool.run EvidenceThread.step ((i, c₁) :: ms) u = some v →
    v.threads[i]? = some (.resolving pass r reason rest prog) →
    (v.shared.recordReconciled r.receiptId pass.nowUtc reason).2 = .error e →
    ∃ progress', progress'.reconciled = progress.reconciled ∧
      Pool.run EvidenceThread.step (ms ++ ks)
        ⟨u.shared, u.threads.set i (.examining pass rest prog)⟩ =
          some ⟨q.shared, q.threads.set i (.finished progress')⟩

theorem reconciliation_sound_complete (n : Nat) (hn : 1 ≤ n) (s₀ : ExecutionEvidenceService)
    (hs₀ : Reachable n hn s₀) (threads : List EvidenceThread) (i : Nat) (nowUtc : Timestamp)
    (monotonicNow : Option Instant) (grace clock : Instant) (before during : List (Nat × Instant))
    (q : EvidencePool) (progress : PassProgress)
    (hpool : Concurrent i nowUtc monotonicNow grace ⟨s₀, threads⟩)
    (hbefore : ∀ l ∈ before, l.1 ≠ i)
    (hrun : Pool.run EvidenceThread.step (before ++ (i, clock) :: during) ⟨s₀, threads⟩ = some q)
    (hend : q.threads[i]? = some (.finished progress)) :
    ∃ p₁, Pool.run EvidenceThread.step before ⟨s₀, threads⟩ = some p₁ ∧
      PassReport ⟨s₀, threads⟩ p₁ q i ⟨nowUtc, monotonicNow.getD clock, grace⟩ before
        ((i, clock) :: during) progress := by
  have hs := hs₀.consistent.1
  obtain ⟨p₁, h₁, hrest⟩ := Pool.run_append hrun
  obtain ⟨p₂, hf, h₂⟩ := Pool.run_cons hrest
  have hthread₁ : p₁.threads[i]? = some (.unresolved nowUtc monotonicNow grace) :=
    (Pool.run_idle hbefore h₁).trans hpool.pass
  have hinv : PassInvariant i ⟨nowUtc, monotonicNow.getD clock, grace⟩ p₁.shared p₂ :=
    passInvariant_start (run_consistent hs h₁).1 (hpool.ledger hs h₁).fresh hthread₁ hf
  obtain ⟨t, ht, -, hprogress⟩ := (hpool.noted hrun).noted
  rw [hend] at ht
  cases ht
  have hreconciled : progress.reconciled = movedToUnknown _ :=
    congrArg PassProgress.reconciled hprogress
  refine ⟨p₁, h₁, ?_, ?_, ?_, ?_, hreconciled, ?_, congrArg PassProgress.warnings hprogress, ?_⟩
  · obtain ⟨t, ht, -, hnone⟩ := (hpool.noted h₁).noted
    rw [hthread₁] at ht
    cases ht
    exact (congrArg PassProgress.reconciled hnone).symm
  · intro ls l ks hsplit
    rw [hsplit] at hrest
    obtain ⟨p, hp, -⟩ := Pool.run_append hrest
    refine ⟨p, hp, ?_⟩
    intro k t reason r hc hreply start hstart
    cases ls with
    | nil =>
      cases hsplit
      cases hp
      rw [calling, hthread₁] at hc
      cases hc
    | cons l' ls =>
      cases hsplit
      obtain ⟨p₂', hf', hp'⟩ := Pool.run_cons hp
      rw [hf] at hf'
      cases hf'
      have hcrowd := (hpool.noted (Pool.run_trans h₁ hp)).crowd
      obtain ⟨x, -, -, hid, -, -, hjudge⟩ := (hinv.run hp').sound hcrowd hc hreply
      rw [hstart] at hjudge
      obtain ⟨hreason, hdeadline⟩ := judge_eq_timeout hjudge
      refine ⟨hreason, ?_⟩
      rw [show r.declaredTimeoutSeconds = x.declaredTimeoutSeconds from
        congrArg ReceiptIdentity.declaredTimeoutSeconds hid]
      exact hdeadline
  · intro r hr start hstart hdeadline
    cases hinv.run h₂ with
    | examining rest progress' ht h =>
      rw [hend] at ht
      cases ht
    | resolving x reason rest progress' ht hreason h =>
      rw [hend] at ht
      cases ht
    | finished progress' ht h =>
      rw [hend] at ht
      cases ht
      rcases h.treated r hr with hnil | hresolved | hwarned | hjudge
      · cases hnil
      · exact .inl hresolved
      · exact .inr hwarned
      · rw [hstart, judge_past hdeadline] at hjudge
        cases hjudge
  · intro r hr
    refine ⟨((hpool.ledger hs hrun).terminalised r hr).kept, ?_⟩
    rw [hreconciled]
    exact (hpool.ledger hs hrun).apart r hr
  · intro k x hx hu
    rw [hreconciled]
    exact run_unknown hs hrun hx hu
  · intro ls c₁ ms c₂ ks u v r reason rest prog e hsplit hidle hu hthread huv hresolving herr
    have hsplit' : (i, clock) :: during = ls ++ (((i, c₁) :: ms) ++ (i, c₂) :: ks) := hsplit
    rw [hsplit'] at hrest
    obtain ⟨u', hu', hrest'⟩ := Pool.run_append hrest
    rw [hu] at hu'
    cases hu'
    obtain ⟨v', hv', hvq⟩ := Pool.run_append hrest'
    rw [huv] at hv'
    cases hv'
    exact failure_isolated hidle hthread huv hresolving herr hvq hend

def samplePass : List EvidenceThread :=
  [.unresolved ⟨100, some 0⟩ (some 100) 10, .call (.started (sampleIdentity 3 50) (some 50)),
    .call (.terminal "receipt-1" (sampleOutcome 60))]

def sampleStore : ExecutionEvidenceService :=
  (create 2 (by decide)).applyAll
    [.started (sampleIdentity 1 0) (some 0), .started (sampleIdentity 2 1) none]

theorem concurrent_samplePass :
    Concurrent 0 ⟨100, some 0⟩ (some 100) 10 ⟨sampleStore, samplePass⟩ := by
  refine ⟨rfl, ?_, by decide +kernel, by decide +kernel⟩
  intro j t hj ht
  match j with
  | 0 => exact absurd rfl hj
  | 1 =>
    cases ht
    exact .starts _ _
  | 2 =>
    cases ht
    exact .ends _ _
  | _ + 3 => cases ht

-- receipt-3 starts first, receipt-1 ends on its own between the snapshot and its turn
theorem reconciliation_sound_complete_sample : ∃ (p₁ q : EvidencePool) (progress : PassProgress),
    Pool.run EvidenceThread.step [(1, 0)] ⟨sampleStore, samplePass⟩ = some p₁ ∧
      Pool.run EvidenceThread.step ([(1, 0)] ++ (0, 0) ::
        [(2, 0), (0, 0), (0, 0), (0, 0), (0, 0), (0, 0), (0, 0), (0, 0)])
        ⟨sampleStore, samplePass⟩ = some q ∧
      q.threads[0]? = some (.finished progress) ∧
      PassReport ⟨sampleStore, samplePass⟩ p₁ q 0 ⟨⟨100, some 0⟩, 100, 10⟩ [(1, 0)]
        ((0, 0) :: [(2, 0), (0, 0), (0, 0), (0, 0), (0, 0), (0, 0), (0, 0), (0, 0)]) progress := by
  have hend : ((Pool.run EvidenceThread.step ([(1, 0)] ++ (0, 0) ::
      [(2, 0), (0, 0), (0, 0), (0, 0), (0, 0), (0, 0), (0, 0), (0, 0)])
      ⟨sampleStore, samplePass⟩).bind (fun q => q.threads[0]?)).any
        (fun t => t matches .finished _) = true := by decide +kernel
  obtain ⟨t, ht, hfinished⟩ := (Option.any_eq_true _ _).mp hend
  obtain ⟨q, hq, hthread⟩ := Option.bind_eq_some_iff.mp ht
  cases t with
  | finished progress =>
    obtain ⟨p₁, h₁, hreport⟩ := reconciliation_sound_complete 2 (by decide) sampleStore
      (reachable_applyAll .create _) samplePass 0 ⟨100, some 0⟩ (some 100) 10 0 [(1, 0)]
      [(2, 0), (0, 0), (0, 0), (0, 0), (0, 0), (0, 0), (0, 0), (0, 0)] q progress
      concurrent_samplePass (by simp) hq hthread
    exact ⟨p₁, q, progress, h₁, hq, hthread, hreport⟩
  | _ => cases hfinished

end EvidencePool

end AgentSecurityPlatform
