import AgentSecurityPlatform.Execution.Freshness

namespace AgentSecurityPlatform

namespace ExecutionEvidenceService

variable {s s' s₁ : ExecutionEvidenceService} {r x : ExecutionReceipt} {c : EvidenceCall}
  {k : String} {pass : ReconciliationPass} {progress : PassProgress}

def Resolved (s : ExecutionEvidenceService) (k : String) : Prop :=
  ∀ x, s.receipts.get? k = some x → x.status ≠ .started

-- as the pass knows it: still the receipt of its snapshot with the same start, or resolved since
def Tracked (s₁ : ExecutionEvidenceService) (r : ExecutionReceipt) (s : ExecutionEvidenceService) :
    Prop :=
  (s.receipts.get? r.receiptId = some r ∧
    s.getMonotonicStart r.receiptId = s₁.getMonotonicStart r.receiptId) ∨ s.Resolved r.receiptId

def Treated (pass : ReconciliationPass) (s₁ : ExecutionEvidenceService) (progress : PassProgress)
    (r : ExecutionReceipt) (s : ExecutionEvidenceService) : Prop :=
  s.Resolved r.receiptId ∨
    (∃ e, EvidenceError.isTransition e = false ∧ (r.receiptId, e) ∈ progress.warnings) ∨
    pass.judge r (s₁.getMonotonicStart r.receiptId) = none

def Starts (c : Option EvidenceCall) (k : String) : Prop :=
  ∃ i start, c = some (.started i start) ∧ i.receiptId = k

theorem Resolved.applyNext (hs : s.Consistent) {c : Option EvidenceCall} (hc : ¬ Starts c k)
    (h : s.Resolved k) : (s.applyNext c).Resolved k := by
  cases c with
  | none => exact h
  | some c =>
    have hobeys := apply_obeys hs c
    intro x hx
    cases hget : s.receipts.get? k with
    | none =>
      obtain ⟨-, -, hk, start, hstart⟩ := hobeys.registered k x hget hx
      exact absurd ⟨_, start, congrArg some hstart, hk⟩ hc
    | some y =>
      rcases hobeys.lifecycle k y x hget hx with rfl | ⟨-, -, -, hterminal, -⟩
      · exact h x hget
      · exact hterminal

theorem Tracked.applyNext (hs : s.Consistent) {c : Option EvidenceCall} (hr : r.status = .started)
    (hc : ¬ Starts c r.receiptId) (h : Tracked s₁ r s) : Tracked s₁ r (s.applyNext c) := by
  rcases h with ⟨hget, hstart⟩ | h
  · cases c with
    | none => exact .inl ⟨hget, hstart⟩
    | some c =>
      have hobeys := apply_obeys hs c
      by_cases hkept : (s.apply c).1.receipts.get? r.receiptId = some r
      · exact .inl ⟨hkept, (hobeys.timed _ r hget hkept hr).trans hstart⟩
      · refine .inr ?_
        intro x hx
        rcases hobeys.lifecycle _ r x hget hx with rfl | ⟨-, -, -, hterminal, -⟩
        · exact absurd hx hkept
        · exact hterminal
  · exact .inr (h.applyNext hs hc)

theorem Treated.applyNext (hs : s.Consistent) {c : Option EvidenceCall}
    (hc : ¬ Starts c r.receiptId) (h : Treated pass s₁ progress r s) :
    Treated pass s₁ progress r (s.applyNext c) := by
  rcases h with h | h
  · exact .inl (h.applyNext hs hc)
  · exact .inr h

theorem Treated.of_progress {progress' : PassProgress} (hw : progress.warnings ⊆ progress'.warnings)
    (h : Treated pass s₁ progress r s) : Treated pass s₁ progress' r s := by
  rcases h with h | ⟨e, he, hmem⟩ | h
  · exact .inl h
  · exact .inr (.inl ⟨e, he, hw hmem⟩)
  · exact .inr (.inr h)

theorem recordReconciled_error {t : Timestamp} {reason : ReconciliationReason} {e : EvidenceError}
    (h : (s.recordReconciled k t reason).2 = .error e) :
    (s.recordReconciled k t reason).1 = s ∧ (e.isTransition = true → s.Resolved k) := by
  unfold recordReconciled at h ⊢
  split
  · rename_i hget
    rw [hget] at h
    cases h
    exact ⟨rfl, by simp [EvidenceError.isTransition]⟩
  · rename_i existing hget
    simp only [hget] at h
    split
    · rename_i hterminal
      refine ⟨rfl, ?_⟩
      intro _ x hx
      rw [hget] at hx
      cases hx
      exact hterminal
    · rename_i hopen
      rw [if_neg hopen] at h
      split
      · rename_i hinvalid
        rw [hinvalid] at h
        cases h
        exact ⟨rfl, by simp [EvidenceError.isTransition]⟩
      · rename_i y hy
        rw [hy] at h
        cases h

theorem resolved_of_closed (hc : ∀ i start, c ≠ .started i start) (hs : s.Consistent)
    (h : (s.apply c).2 = .ok r) : r.receiptId = c.receiptId ∧ (s.apply c).1.Resolved r.receiptId ∧
      ∀ x, (s.apply c).1.receipts.get? r.receiptId = some x → x = r := by
  have heq : s.apply c = ((s.apply c).1, .ok r) := Prod.ext rfl h
  obtain ⟨existing, m, hkey, -, -, hr, -, hs'⟩ := apply_closes hc heq hs
  have hsame : ∀ x, (s.apply c).1.receipts.get? r.receiptId = some x → x = r := by
    intro x hx
    rw [hs'] at hx
    rcases get?_closed hx with ⟨-, rfl⟩ | ⟨hne, -⟩
    · rfl
    · exact absurd rfl hne
  refine ⟨hkey, ?_, hsame⟩
  intro x hx
  rw [hsame x hx]
  exact hr

theorem recordReconciled_treated {t : Timestamp} {reason : ReconciliationReason} (hs : s.Consistent)
    (pass : ReconciliationPass) (s₁ : ExecutionEvidenceService) (progress : PassProgress)
    (r : ExecutionReceipt) : Treated pass s₁
      (progress.note r.receiptId (s.recordReconciled r.receiptId t reason).2) r
      (s.recordReconciled r.receiptId t reason).1 := by
  cases hreply : (s.recordReconciled r.receiptId t reason).2 with
  | ok y =>
    obtain ⟨hkey, hresolved, -⟩ :=
      resolved_of_closed (c := .reconciled r.receiptId t reason) (by simp) hs hreply
    rw [hkey] at hresolved
    exact .inl hresolved
  | error e =>
    obtain ⟨hsame, hresolved⟩ := recordReconciled_error hreply
    rw [hsame]
    cases he : e.isTransition with
    | true => exact .inl (hresolved he)
    | false => exact .inr (.inl ⟨e, he, by simp [PassProgress.note, he]⟩)

end ExecutionEvidenceService

namespace EvidencePool

open ExecutionEvidenceService

variable {p q : EvidencePool} {l : Nat × Instant} {i : Nat} {pass : ReconciliationPass}
  {s₁ : ExecutionEvidenceService} {rest : List ExecutionReceipt} {progress : PassProgress}

structure Following (pass : ReconciliationPass) (s₁ : ExecutionEvidenceService)
    (rest : List ExecutionReceipt) (progress : PassProgress) (p : EvidencePool) : Prop where
  consistent : p.shared.Consistent
  reserved : ∀ r ∈ s₁.listOpen, r.receiptId ∉ startingIds p
  snapshot : ∀ r ∈ rest, r ∈ s₁.listOpen
  tracked : ∀ r ∈ rest, Tracked s₁ r p.shared
  treated : ∀ r ∈ s₁.listOpen, r ∈ rest ∨ Treated pass s₁ progress r p.shared

theorem status_of_listOpen {s : ExecutionEvidenceService} {r : ExecutionReceipt}
    (h : r ∈ s.listOpen) : r.status = .started := by
  simp only [listOpen, List.mem_filter, decide_eq_true_eq] at h
  exact h.2

theorem Following.not_starts (h : Following pass s₁ rest progress p) {r : ExecutionReceipt}
    (hr : r ∈ s₁.listOpen) : ¬ Starts (calling p l) r.receiptId := by
  rintro ⟨i, start, hc, hk⟩
  apply h.reserved r hr
  rw [← hk]
  exact calling_started hc

theorem Following.fire (h : Following pass s₁ rest progress p)
    (hf : Pool.fire EvidenceThread.step p l = some q) : Following pass s₁ rest progress q := by
  refine ⟨(fire_consistent h.consistent hf).1, ?_, h.snapshot, ?_, ?_⟩
  · intro r hr hmem
    exact h.reserved r hr ((fire_startingIds hf).subset hmem)
  · intro r hr
    have hopen := h.snapshot r hr
    rw [fire_shared hf]
    exact (h.tracked r hr).applyNext h.consistent (status_of_listOpen hopen) (h.not_starts hopen)
  · intro r hr
    rw [fire_shared hf]
    rcases h.treated r hr with hrest | htreated
    · exact .inl hrest
    · exact .inr (htreated.applyNext h.consistent (h.not_starts hr))

theorem Following.advance {r : ExecutionReceipt} {progress' : PassProgress}
    (h : Following pass s₁ (r :: rest) progress p)
    (hw : progress.warnings ⊆ progress'.warnings) (hr : Treated pass s₁ progress' r p.shared) :
    Following pass s₁ rest progress' p := by
  refine ⟨h.consistent, h.reserved, fun x hx => h.snapshot x (by simp [hx]),
    fun x hx => h.tracked x (by simp [hx]), ?_⟩
  intro x hx
  rcases h.treated x hx with hrest | htreated
  · rcases List.mem_cons.mp hrest with rfl | hrest
    · exact .inr hr
    · exact .inl hrest
  · exact .inr (htreated.of_progress hw)

inductive PassInvariant (i : Nat) (pass : ReconciliationPass) (s₁ : ExecutionEvidenceService)
    (p : EvidencePool) : Prop where
  | examining (rest : List ExecutionReceipt) (progress : PassProgress)
      (ht : p.threads[i]? = some (.examining pass rest progress))
      (h : Following pass s₁ rest progress p)
  | resolving (r : ExecutionReceipt) (reason : ReconciliationReason) (rest : List ExecutionReceipt)
      (progress : PassProgress) (ht : p.threads[i]? = some (.resolving pass r reason rest progress))
      (hreason : p.shared.Resolved r.receiptId ∨
        pass.judge r (s₁.getMonotonicStart r.receiptId) = some reason)
      (h : Following pass s₁ (r :: rest) progress p)
  | finished (progress : PassProgress) (ht : p.threads[i]? = some (.finished progress))
      (h : Following pass s₁ [] progress p)

theorem warnings_note (progress : PassProgress) (k : String)
    (reply : Except EvidenceError ExecutionReceipt) :
    progress.warnings ⊆ (progress.note k reply).warnings := by
  intro w hw
  cases reply with
  | ok r => exact hw
  | error e =>
    simp only [PassProgress.note]
    split
    · exact hw
    · simp [hw]

theorem Following.examined {r : ExecutionReceipt} (h : Following pass s₁ (r :: rest) progress p)
    (hjudge : pass.judge r (p.shared.getMonotonicStart r.receiptId) = none) :
    Following pass s₁ rest progress p := by
  refine h.advance (List.Subset.refl _) ?_
  rcases h.tracked r (by simp) with ⟨-, hstart⟩ | hresolved
  · rw [hstart] at hjudge
    exact .inr (.inr hjudge)
  · exact .inl hresolved

theorem PassInvariant.own {clock : Instant} (h : PassInvariant i pass s₁ p)
    (hf : Pool.fire EvidenceThread.step p (i, clock) = some q) : PassInvariant i pass s₁ q := by
  obtain ⟨t, t', ht, hm, hq⟩ := Pool.fire_eq_some hf
  have hi : i < p.threads.length := (List.getElem?_eq_some_iff.mp ht).1
  have ht' : q.threads[i]? = some t' := by rw [hq, List.getElem?_set_self hi]
  cases h with
  | examining rest progress hget h =>
    rw [hget] at ht
    cases ht
    have hnext := h.fire hf
    cases rest with
    | nil =>
      obtain ⟨-, rfl⟩ := Prod.mk.inj (Option.some.inj hm)
      exact .finished progress ht' hnext
    | cons r rest =>
      simp only [EvidenceThread.step] at hm
      split at hm
      · rename_i hjudge
        obtain ⟨hshared, rfl⟩ := Prod.mk.inj (Option.some.inj hm)
        rw [hshared] at hjudge
        exact .examining rest progress ht' (hnext.examined hjudge)
      · rename_i reason hjudge
        obtain ⟨hshared, rfl⟩ := Prod.mk.inj (Option.some.inj hm)
        refine .resolving r reason rest progress ht' ?_ hnext
        rcases hnext.tracked r (by simp) with ⟨-, hstart⟩ | hresolved
        · rw [← hstart, ← hshared]
          exact .inr hjudge
        · exact .inl hresolved
  | resolving r reason rest progress hget hreason h =>
    rw [hget] at ht
    cases ht
    have hnext := h.fire hf
    obtain ⟨hshared, rfl⟩ := Prod.mk.inj (Option.some.inj hm)
    refine .examining rest _ ht' (hnext.advance (warnings_note _ _ _) ?_)
    rw [← hshared]
    exact recordReconciled_treated h.consistent pass s₁ progress r
  | finished progress hget h =>
    rw [hget] at ht
    cases ht
    cases hm

theorem PassInvariant.other (h : PassInvariant i pass s₁ p) (hl : l.1 ≠ i)
    (hf : Pool.fire EvidenceThread.step p l = some q) : PassInvariant i pass s₁ q := by
  have hidle := Pool.fire_idle hl hf
  cases h with
  | examining rest progress ht h =>
    exact .examining rest progress (hidle.trans ht) (h.fire hf)
  | resolving r reason rest progress ht hreason h =>
    refine .resolving r reason rest progress (hidle.trans ht) ?_ (h.fire hf)
    rcases hreason with hresolved | hjudge
    · rw [fire_shared hf]
      exact .inl (hresolved.applyNext h.consistent (h.not_starts (h.snapshot r (by simp))))
    · exact .inr hjudge
  | finished progress ht h => exact .finished progress (hidle.trans ht) (h.fire hf)

theorem PassInvariant.run {ls : List (Nat × Instant)} (h : PassInvariant i pass s₁ p)
    (hr : Pool.run EvidenceThread.step ls p = some q) : PassInvariant i pass s₁ q := by
  refine Pool.run_invariant (PassInvariant i pass s₁) ?_ h hr
  rintro p₁ ⟨j, clock⟩ p₂ h₁ hf
  by_cases hj : j = i
  · subst hj
    exact h₁.own hf
  · exact h₁.other hj hf

end EvidencePool

end AgentSecurityPlatform
