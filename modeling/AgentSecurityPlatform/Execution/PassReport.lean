import AgentSecurityPlatform.Execution.Reconciliation

namespace AgentSecurityPlatform

def EvidenceCall.fault : EvidenceCall → Except EvidenceError ExecutionReceipt →
    Option (String × EvidenceError)
  | .reconciled receiptId _ _, .error e => if e.isTransition then none else some (receiptId, e)
  | _, _ => none

def EvidenceCall.terminalised : EvidenceCall → Except EvidenceError ExecutionReceipt →
    Option ExecutionReceipt
  | .terminal _ _, .ok receipt => some receipt
  | _, _ => none

namespace EvidencePool

open ExecutionEvidenceService

variable {p q : EvidencePool} {l : Nat × Instant} {i : Nat} {pass : ReconciliationPass}
  {s₁ : ExecutionEvidenceService} {ls : List (Nat × Instant)}
  {es : List (EvidenceCall × Except EvidenceError ExecutionReceipt)}

def faults (log : List (EvidenceCall × Except EvidenceError ExecutionReceipt)) :
    List (String × EvidenceError) :=
  log.filterMap (fun e => e.1.fault e.2)

def terminalisedBy (log : List (EvidenceCall × Except EvidenceError ExecutionReceipt)) :
    List ExecutionReceipt :=
  log.filterMap (fun e => e.1.terminalised e.2)

theorem exchange_of_calling {c : EvidenceCall} (hc : calling p l = some c) :
    exchange p l = [(c, (p.shared.apply c).2)] := by
  simp [exchange, hc]

theorem exchange_silent (hc : calling p l = none) : exchange p l = [] := by
  simp [exchange, hc]

def Crowd (i : Nat) (p : EvidencePool) : Prop :=
  ∀ j t, j ≠ i → p.threads[j]? = some t → t.Executor

theorem Crowd.fire (h : Crowd i p) (hf : Pool.fire EvidenceThread.step p l = some q) :
    Crowd i q := by
  obtain ⟨t, t', ht, hm, hq⟩ := Pool.fire_eq_some hf
  intro j u hj hu
  by_cases hl : l.1 = j
  · rw [hq, hl, List.getElem?_set_self
      (by rw [← hl]; exact (List.getElem?_eq_some_iff.mp ht).1)] at hu
    cases hu
    rw [hl] at ht
    exact (h j t hj ht).step hm
  · rw [hq, List.getElem?_set_ne hl] at hu
    exact h j u hj hu

theorem Crowd.calling_reconciled (h : Crowd i p) {k : String} {t : Timestamp}
    {reason : ReconciliationReason} (hc : calling p l = some (.reconciled k t reason)) :
    l.1 = i := by
  by_contra hl
  obtain ⟨u, hu, hn⟩ := Option.bind_eq_some_iff.mp hc
  exact (h l.1 u hl hu).not_reconciled k t reason hn

theorem Crowd.quiet (h : Crowd i p) (hl : l.1 ≠ i) :
    movedToUnknown (exchange p l) = [] ∧ faults (exchange p l) = [] := by
  cases hc : calling p l with
  | none => simp [exchange_silent hc, movedToUnknown, faults]
  | some c =>
    cases c with
    | started j start =>
      simp [exchange_of_calling hc, movedToUnknown, faults, EvidenceCall.moved, EvidenceCall.fault]
    | terminal k o =>
      simp [exchange_of_calling hc, movedToUnknown, faults, EvidenceCall.moved, EvidenceCall.fault]
    | reconciled k t reason => exact absurd (h.calling_reconciled hc) hl

-- thread i has noted exactly what its record_reconciled calls replied so far
structure Noted (i : Nat) (es : List (EvidenceCall × Except EvidenceError ExecutionReceipt))
    (p : EvidencePool) : Prop where
  crowd : Crowd i p
  noted : ∃ t, p.threads[i]? = some t ∧ (∀ c, t ≠ .call c) ∧
    t.progressOf = ⟨movedToUnknown es, faults es⟩

theorem note_reconciled (k : String) (u : Timestamp) (reason : ReconciliationReason)
    (reply : Except EvidenceError ExecutionReceipt) :
    PassProgress.note ⟨movedToUnknown es, faults es⟩ k reply =
      ⟨movedToUnknown (es ++ [(.reconciled k u reason, reply)]),
        faults (es ++ [(.reconciled k u reason, reply)])⟩ := by
  cases reply with
  | ok r => simp [PassProgress.note, movedToUnknown, faults, EvidenceCall.moved, EvidenceCall.fault]
  | error e =>
    cases he : e.isTransition <;>
      simp [PassProgress.note, movedToUnknown, faults, EvidenceCall.moved, EvidenceCall.fault, he]

theorem step_noted {clock : Instant} {s s' : ExecutionEvidenceService} {t t' : EvidenceThread}
    (ht : ∀ c, t ≠ .call c) (hp : t.progressOf = ⟨movedToUnknown es, faults es⟩)
    (h : t.step clock s = some (s', t')) : (∀ c, t' ≠ .call c) ∧
      t'.progressOf = ⟨movedToUnknown (es ++ (t.nextCall.map (fun c => (c, (s.apply c).2))).toList),
        faults (es ++ (t.nextCall.map (fun c => (c, (s.apply c).2))).toList)⟩ := by
  cases t with
  | call c => exact absurd rfl (ht c)
  | called c reply => cases h
  | startup nowUtc =>
    cases h
    exact ⟨by simp, by simpa [EvidenceThread.nextCall, EvidenceThread.progressOf] using hp⟩
  | restarting nowUtc rs progress =>
    cases rs with
    | nil =>
      cases h
      exact ⟨by simp, by simpa [EvidenceThread.nextCall, EvidenceThread.progressOf] using hp⟩
    | cons r rest =>
      cases h
      refine ⟨by simp, ?_⟩
      have hp' : progress = ⟨movedToUnknown es, faults es⟩ := hp
      rw [hp']
      exact note_reconciled _ _ _ _
  | unresolved nowUtc monotonicNow grace =>
    cases h
    exact ⟨by simp, by simpa [EvidenceThread.nextCall, EvidenceThread.progressOf] using hp⟩
  | examining pass rs progress =>
    cases rs with
    | nil =>
      cases h
      exact ⟨by simp, by simpa [EvidenceThread.nextCall, EvidenceThread.progressOf] using hp⟩
    | cons r rest =>
      simp only [EvidenceThread.step] at h
      split at h <;> cases h <;>
        exact ⟨by simp, by simpa [EvidenceThread.nextCall, EvidenceThread.progressOf] using hp⟩
  | resolving pass r reason rest progress =>
    cases h
    refine ⟨by simp, ?_⟩
    have hp' : progress = ⟨movedToUnknown es, faults es⟩ := hp
    rw [hp']
    exact note_reconciled _ _ _ _
  | finished progress => cases h

theorem Noted.fire (h : Noted i es p) (hf : Pool.fire EvidenceThread.step p l = some q) :
    Noted i (es ++ exchange p l) q := by
  refine ⟨h.crowd.fire hf, ?_⟩
  obtain ⟨t, ht, hcall, hprogress⟩ := h.noted
  by_cases hl : l.1 = i
  · obtain ⟨t₀, t', ht₀, hm, hq⟩ := Pool.fire_eq_some hf
    rw [hl, ht] at ht₀
    cases ht₀
    refine ⟨t', ?_, ?_⟩
    · rw [hq, hl, List.getElem?_set_self (List.getElem?_eq_some_iff.mp ht).1]
    · have hex : exchange p l = (t.nextCall.map (fun c => (c, (p.shared.apply c).2))).toList := by
        simp [exchange, calling, hl, ht]
      rw [hex]
      exact step_noted hcall hprogress hm
  · obtain ⟨hmoved, hfaults⟩ := h.crowd.quiet hl
    refine ⟨t, (Pool.fire_idle hl hf).trans ht, hcall, ?_⟩
    rw [hprogress]
    simp only [movedToUnknown, faults, List.filterMap_append] at hmoved hfaults ⊢
    rw [hmoved, hfaults, List.append_nil, List.append_nil]

structure Settled (r : ExecutionReceipt) (p : EvidencePool) : Prop where
  terminal : r.status ≠ .started
  reserved : r.receiptId ∉ startingIds p
  kept : ∀ x, p.shared.receipts.get? r.receiptId = some x → x = r

theorem Settled.fire {r : ExecutionReceipt} (hp : p.shared.Consistent) (h : Settled r p)
    (hf : Pool.fire EvidenceThread.step p l = some q) : Settled r q := by
  refine ⟨h.terminal, fun hmem => h.reserved ((fire_startingIds hf).subset hmem), ?_⟩
  intro x hx
  cases fire_law hp hf with
  | silent hnone hshared =>
    rw [hshared] at hx
    exact h.kept x hx
  | called c hc hobeys =>
    cases hget : p.shared.receipts.get? r.receiptId with
    | none =>
      obtain ⟨-, -, hid, start, rfl⟩ := hobeys.registered _ x hget hx
      exact absurd (hid ▸ calling_started hc) h.reserved
    | some y =>
      have hy := h.kept y hget
      rcases hobeys.lifecycle _ y x hget hx with rfl | ⟨-, -, hs, -⟩
      · exact hy
      · rw [hy] at hs
        exact absurd hs h.terminal

def Closing (r : ExecutionReceipt) (p q : EvidencePool) : Prop :=
  Settled r q ∧ ∀ y, Settled y p → y.receiptId ≠ r.receiptId

theorem closing_settled {c : EvidenceCall} {r : ExecutionReceipt} (hp : p.shared.Consistent)
    (hfresh : Fresh p) (hc : calling p l = some c) (hstart : ∀ j start, c ≠ .started j start)
    (hreply : (p.shared.apply c).2 = .ok r) (hf : Pool.fire EvidenceThread.step p l = some q) :
    Closing r p q := by
  have heq : p.shared.apply c = ((p.shared.apply c).1, .ok r) := Prod.ext rfl hreply
  obtain ⟨existing, -, -, hget, hopen, hterminal, -⟩ := apply_closes hstart heq hp
  obtain ⟨-, -, hkept⟩ := resolved_of_closed hstart hp hreply
  refine ⟨⟨hterminal, ?_, ?_⟩, ?_⟩
  · intro hmem
    have habsent := hfresh.unused _ ((fire_startingIds hf).subset hmem)
    rw [hget] at habsent
    cases habsent
  · rw [fire_shared hf, hc]
    exact hkept
  · intro y hy he
    rw [← he] at hget
    rw [hy.kept existing hget] at hopen
    exact hy.terminal hopen

structure Ledger (es : List (EvidenceCall × Except EvidenceError ExecutionReceipt))
    (p : EvidencePool) : Prop where
  consistent : p.shared.Consistent
  fresh : Fresh p
  moved : ∀ y ∈ movedToUnknown es, Settled y p
  terminalised : ∀ r ∈ terminalisedBy es, Settled r p
  apart : ∀ r ∈ terminalisedBy es, ∀ y ∈ movedToUnknown es, y.receiptId ≠ r.receiptId

theorem Ledger.extend (h : Ledger es p) (hf : Pool.fire EvidenceThread.step p l = some q)
    {ds : List (EvidenceCall × Except EvidenceError ExecutionReceipt)}
    (hm : ∀ y ∈ movedToUnknown ds, Closing y p q) (ht : ∀ r ∈ terminalisedBy ds, Closing r p q)
    (hone : movedToUnknown ds = [] ∨ terminalisedBy ds = []) : Ledger (es ++ ds) q := by
  have hkeep (y : ExecutionReceipt) (hy : Settled y p) : Settled y q := hy.fire h.consistent hf
  have hterm : terminalisedBy (es ++ ds) = terminalisedBy es ++ terminalisedBy ds :=
    List.filterMap_append
  refine ⟨(fire_consistent h.consistent hf).1, h.fresh.fire h.consistent hf, ?_, ?_, ?_⟩
  · intro y hy
    rw [movedToUnknown_append, List.mem_append] at hy
    rcases hy with hy | hy
    · exact hkeep y (h.moved y hy)
    · exact (hm y hy).1
  · intro r hr
    rw [hterm, List.mem_append] at hr
    rcases hr with hr | hr
    · exact hkeep r (h.terminalised r hr)
    · exact (ht r hr).1
  · intro r hr y hy
    rw [hterm, List.mem_append] at hr
    rw [movedToUnknown_append, List.mem_append] at hy
    rcases hr with hr | hr
    · rcases hy with hy | hy
      · exact h.apart r hr y hy
      · exact ((hm y hy).2 r (h.terminalised r hr)).symm
    · rcases hy with hy | hy
      · exact (ht r hr).2 y (h.moved y hy)
      · rcases hone with hnil | hnil
        · rw [hnil] at hy
          cases hy
        · rw [hnil] at hr
          cases hr

theorem Ledger.fire (h : Ledger es p) (hf : Pool.fire EvidenceThread.step p l = some q) :
    Ledger (es ++ exchange p l) q := by
  cases hc : calling p l with
  | none =>
    rw [exchange_silent hc]
    exact h.extend hf (by simp [movedToUnknown]) (by simp [terminalisedBy]) (.inl rfl)
  | some c =>
    rw [exchange_of_calling hc]
    cases hreply : (p.shared.apply c).2 with
    | error e =>
      cases c <;> exact h.extend hf (by simp [movedToUnknown, EvidenceCall.moved])
        (by simp [terminalisedBy, EvidenceCall.terminalised]) (.inl rfl)
    | ok r =>
      cases c with
      | started j start =>
        exact h.extend hf (by simp [movedToUnknown, EvidenceCall.moved])
          (by simp [terminalisedBy, EvidenceCall.terminalised]) (.inl rfl)
      | terminal k o =>
        have hr := closing_settled h.consistent h.fresh hc (by simp) hreply hf
        exact h.extend hf (by simp [movedToUnknown, EvidenceCall.moved])
          (by simpa [terminalisedBy, EvidenceCall.terminalised] using hr) (.inl rfl)
      | reconciled k t reason =>
        have hr := closing_settled h.consistent h.fresh hc (by simp) hreply hf
        exact h.extend hf (by simpa [movedToUnknown, EvidenceCall.moved] using hr)
          (by simp [terminalisedBy, EvidenceCall.terminalised]) (.inr rfl)

theorem fire_unknown {k : String} {x : ExecutionReceipt} (hp : p.shared.Consistent)
    (hf : Pool.fire EvidenceThread.step p l = some q) (hx : q.shared.receipts.get? k = some x)
    (hu : x.status = .unknown) :
    p.shared.receipts.get? k = some x ∨ x ∈ movedToUnknown (exchange p l) := by
  cases fire_law hp hf with
  | silent hnone hshared =>
    rw [hshared] at hx
    exact .inl hx
  | called c hc hobeys =>
    rcases hobeys.unknown k x hx hu with hold | ⟨hreply, t, reason, rfl⟩
    · exact .inl hold
    · refine .inr ?_
      rw [exchange_of_calling hc, hreply]
      simp [movedToUnknown, EvidenceCall.moved]

theorem run_unknown (hp : p.shared.Consistent) (h : Pool.run EvidenceThread.step ls p = some q)
    {k : String} {x : ExecutionReceipt} (hx : q.shared.receipts.get? k = some x)
    (hu : x.status = .unknown) :
    p.shared.receipts.get? k = some x ∨ x ∈ movedToUnknown (callLog ls p) := by
  have hinv := Pool.run_trace_invariant exchange
    (fun es (r : EvidencePool) => r.shared.Consistent ∧ ∀ k x, r.shared.receipts.get? k = some x →
      x.status = .unknown → p.shared.receipts.get? k = some x ∨ x ∈ movedToUnknown es) ?_
    [] ⟨hp, fun _ _ hx _ => .inl hx⟩ h
  · exact hinv.2 k x hx hu
  · rintro es p₁ l p₂ ⟨hp₁, hold⟩ hf
    refine ⟨(fire_consistent hp₁ hf).1, ?_⟩
    intro k x hx hu
    rw [movedToUnknown_append, List.mem_append]
    rcases fire_unknown hp₁ hf hx hu with hx | hx
    · rcases hold k x hx hu with hx | hx
      · exact .inl hx
      · exact .inr (.inl hx)
    · exact .inr (.inr hx)

end EvidencePool

end AgentSecurityPlatform
