import AgentSecurityPlatform.Execution.Retention
import AgentSecurityPlatform.Library.Simulation

namespace AgentSecurityPlatform

namespace EvidenceThread

def starting : EvidenceThread → Option String
  | .call (.started i _) => some i.receiptId
  | _ => none

inductive Executor : EvidenceThread → Prop where
  | starts (i : ReceiptIdentity) (start : Option Instant) : Executor (.call (.started i start))
  | ends (receiptId : String) (o : TerminalOutcome) : Executor (.call (.terminal receiptId o))
  | done (c : EvidenceCall) (reply : Except EvidenceError ExecutionReceipt) :
      Executor (.called c reply)

variable {clock : Instant} {s s' : ExecutionEvidenceService} {t t' : EvidenceThread}

theorem Executor.step (ht : t.Executor) (h : t.step clock s = some (s', t')) : t'.Executor := by
  cases ht with
  | starts i start =>
    cases h
    exact .done _ _
  | ends receiptId o =>
    cases h
    exact .done _ _
  | done c reply => cases h

theorem Executor.not_reconciled (ht : t.Executor) (k : String) (u : Timestamp)
    (reason : ReconciliationReason) : t.nextCall ≠ some (.reconciled k u reason) := by
  cases ht <;> simp [nextCall]

theorem step_starting (h : t.step clock s = some (s', t')) : t'.starting = none := by
  cases t with
  | call c =>
    cases h
    rfl
  | called c reply => cases h
  | startup nowUtc =>
    cases h
    rfl
  | restarting nowUtc rs progress =>
    cases rs with
    | nil =>
      cases h
      rfl
    | cons r rest =>
      cases h
      rfl
  | unresolved nowUtc monotonicNow grace =>
    cases h
    rfl
  | examining pass rs progress =>
    cases rs with
    | nil =>
      cases h
      rfl
    | cons r rest =>
      simp only [EvidenceThread.step] at h
      split at h <;> (cases h; rfl)
  | resolving pass r reason rest progress =>
    cases h
    rfl
  | finished progress => cases h

theorem starting_of_nextCall {i : ReceiptIdentity} {start : Option Instant}
    (h : t.nextCall = some (.started i start)) : t.starting = some i.receiptId := by
  unfold nextCall at h
  split at h
  · cases h
    rfl
  · cases h
  · cases h
  · cases h

end EvidenceThread

namespace EvidencePool

variable {p q : EvidencePool} {l : Nat × Instant} {k : String}

def startingIds (p : EvidencePool) : List String := p.threads.filterMap EvidenceThread.starting

theorem startingIds_split {t : EvidenceThread} (ht : p.threads[l.1]? = some t) : ∃ before after,
    startingIds p = before ++ t.starting.toList ++ after ∧
      ∀ t', t'.starting = none → (p.threads.set l.1 t').filterMap EvidenceThread.starting =
        before ++ after := by
  obtain ⟨hlt, hget⟩ := List.getElem?_eq_some_iff.mp ht
  refine ⟨(p.threads.take l.1).filterMap EvidenceThread.starting,
    (p.threads.drop (l.1 + 1)).filterMap EvidenceThread.starting, ?_, ?_⟩
  · have hsplit : p.threads = p.threads.take l.1 ++ t :: p.threads.drop (l.1 + 1) := by
      rw [← hget, List.cons_getElem_drop_succ, List.take_append_drop]
    refine (congrArg (List.filterMap EvidenceThread.starting) hsplit).trans ?_
    cases hs : t.starting <;> simp [hs]
  · intro t' ht'
    rw [List.set_eq_take_append_cons_drop, if_pos hlt, List.filterMap_append]
    simp [ht']

theorem fire_startingIds (h : Pool.fire EvidenceThread.step p l = some q) :
    (startingIds q).Sublist (startingIds p) := by
  obtain ⟨t, t', ht, hm, hq⟩ := Pool.fire_eq_some h
  obtain ⟨before, after, hp, hset⟩ := startingIds_split ht
  rw [hp, startingIds, hq, hset t' (EvidenceThread.step_starting hm)]
  exact (List.sublist_append_left _ _).append (List.Sublist.refl _)

structure Fresh (p : EvidencePool) : Prop where
  unused : ∀ k ∈ startingIds p, p.shared.receipts.get? k = none
  distinct : (startingIds p).Nodup

theorem calling_started {i : ReceiptIdentity} {start : Option Instant}
    (h : calling p l = some (.started i start)) : i.receiptId ∈ startingIds p := by
  obtain ⟨t, ht, hn⟩ := Option.bind_eq_some_iff.mp h
  exact List.mem_filterMap.mpr ⟨t, List.mem_of_getElem? ht, EvidenceThread.starting_of_nextCall hn⟩

theorem fire_starts_once {i : ReceiptIdentity} {start : Option Instant} (hd : (startingIds p).Nodup)
    (hc : calling p l = some (.started i start))
    (h : Pool.fire EvidenceThread.step p l = some q) : i.receiptId ∉ startingIds q := by
  obtain ⟨t, t', ht, hm, hq⟩ := Pool.fire_eq_some h
  obtain ⟨before, after, hp, hset⟩ := startingIds_split ht
  rw [calling, ht] at hc
  rw [hp, EvidenceThread.starting_of_nextCall hc] at hd
  rw [startingIds, hq, hset t' (EvidenceThread.step_starting hm)]
  intro hmem
  simp only [Option.toList_some, List.append_assoc, List.cons_append, List.nil_append,
    List.nodup_middle, List.nodup_cons] at hd
  exact hd.1 hmem

theorem Fresh.fire (hp : p.shared.Consistent) (hf : Fresh p)
    (h : Pool.fire EvidenceThread.step p l = some q) : Fresh q := by
  refine ⟨?_, hf.distinct.sublist (fire_startingIds h)⟩
  intro k hk
  have hold := hf.unused k ((fire_startingIds h).subset hk)
  by_contra hnew
  obtain ⟨r, hr⟩ := Option.ne_none_iff_exists'.mp hnew
  cases fire_law hp h with
  | silent hnone hshared =>
    rw [hshared, hold] at hr
    cases hr
  | called c hc hobeys =>
    obtain ⟨-, -, rfl, start, rfl⟩ := hobeys.registered k r hold hr
    exact fire_starts_once hf.distinct hc h hk

end EvidencePool

end AgentSecurityPlatform
