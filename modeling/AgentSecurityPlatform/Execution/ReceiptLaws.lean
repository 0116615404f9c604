import AgentSecurityPlatform.Execution.Receipts
import AgentSecurityPlatform.Library.Sorting

namespace AgentSecurityPlatform

namespace ExecutionReceipt

theorem construct_eq_some {f : ReceiptFields} {r : ExecutionReceipt} (h : construct f = some r) :
    r.toReceiptFields = f := by
  unfold construct at h
  split at h
  · cases h
    rfl
  · cases h

end ExecutionReceipt

def EvidenceCall.moved : EvidenceCall → Except EvidenceError ExecutionReceipt →
    Option ExecutionReceipt
  | .reconciled _ _ _, .ok receipt => some receipt
  | _, _ => none

namespace ExecutionEvidenceService

variable {s s' : ExecutionEvidenceService} {r x : ExecutionReceipt} {k g : String}

def closeAs (s : ExecutionEvidenceService) (r : ExecutionReceipt) (unknowns : Nat) :
    ExecutionEvidenceService :=
  { s.close r with reconciledUnknownCount := s.reconciledUnknownCount + unknowns }

inductive Closes (c : EvidenceCall) (r : ExecutionReceipt) : Nat → Prop where
  | terminal (k : String) (o : TerminalOutcome) (hc : c = .terminal k o)
      (hs : r.status = o.status) (hallowed : r.status ∈ allowedTerminalStatuses) : Closes c r 0
  | reconciled (k : String) (t : Timestamp) (reason : ReconciliationReason)
      (hc : c = .reconciled k t reason) (hs : r.status = .unknown)
      (hreason : r.reconciliationReason = some reason) : Closes c r 1

inductive Effect (s : ExecutionEvidenceService) (c : EvidenceCall) :
    ExecutionEvidenceService → Except EvidenceError ExecutionReceipt → Prop where
  | refused (failures : Nat) (e : EvidenceError) :
      Effect s c { s with evidenceFailureCount := failures } (.error e)
  | opened (r : ExecutionReceipt) (start : Option Instant)
      (hc : c = .started r.toReceiptIdentity start) (hfree : s.receipts.get? r.receiptId = none)
      (hgrant : s.grantToReceipt.get? r.grantId = none) (hs : r.status = .started) :
      Effect s c (s.opening r start) (.ok r)
  | closed (existing r : ExecutionReceipt) (unknowns : Nat)
      (hget : s.receipts.get? c.receiptId = some existing) (hopen : existing.status = .started)
      (hid : r.toReceiptIdentity = existing.toReceiptIdentity) (hkind : Closes c r unknowns) :
      Effect s c (s.closeAs r unknowns).pruneTerminalLocked (.ok r)

theorem recordStarted_effect (s : ExecutionEvidenceService) (i : ReceiptIdentity)
    (start : Option Instant) : Effect s (.started i start) (s.recordStarted i start).1
      (s.recordStarted i start).2 := by
  unfold recordStarted
  split
  · exact .refused _ _
  · rename_i habsent
    rw [Bool.not_eq_true, Dict.contains_eq_false_iff] at habsent
    split
    · exact .refused _ _
    · rename_i hgrant
      split
      · exact .refused s.evidenceFailureCount _
      · rename_i r hr
        have hf := ExecutionReceipt.construct_eq_some hr
        have hid : r.toReceiptIdentity = i := congrArg ReceiptFields.toReceiptIdentity hf
        refine .opened r start (by rw [hid]) ?_ ?_ (congrArg ReceiptFields.status hf)
        · rw [hid]
          exact habsent
        · rw [hid]
          exact hgrant

theorem recordTerminal_effect (s : ExecutionEvidenceService) (k : String) (o : TerminalOutcome) :
    Effect s (.terminal k o) (s.recordTerminal k o).1 (s.recordTerminal k o).2 := by
  unfold recordTerminal
  split
  · exact .refused s.evidenceFailureCount _
  · rename_i hallowed
    split
    · exact .refused s.evidenceFailureCount _
    · rename_i existing hget
      split
      · exact .refused s.evidenceFailureCount _
      · rename_i hopen
        split
        · exact .refused s.evidenceFailureCount _
        · rename_i r hr
          have hf := ExecutionReceipt.construct_eq_some hr
          have hs : r.status = o.status := congrArg ReceiptFields.status hf
          have hid := congrArg ReceiptFields.toReceiptIdentity hf
          refine .closed existing r 0 hget (not_not.mp hopen) hid (.terminal k o rfl hs ?_)
          rw [hs]
          exact not_not.mp hallowed

theorem recordReconciled_effect (s : ExecutionEvidenceService) (k : String) (t : Timestamp)
    (reason : ReconciliationReason) :
    Effect s (.reconciled k t reason) (s.recordReconciled k t reason).1
      (s.recordReconciled k t reason).2 := by
  unfold recordReconciled
  split
  · exact .refused s.evidenceFailureCount _
  · rename_i existing hget
    split
    · exact .refused s.evidenceFailureCount _
    · rename_i hopen
      split
      · exact .refused s.evidenceFailureCount _
      · rename_i r hr
        have hf := ExecutionReceipt.construct_eq_some hr
        have hid := congrArg ReceiptFields.toReceiptIdentity hf
        exact .closed existing r 1 hget (not_not.mp hopen) hid
          (.reconciled k t reason rfl (congrArg ReceiptFields.status hf)
            (congrArg ReceiptFields.reconciliationReason hf))

theorem apply_effect (s : ExecutionEvidenceService) (c : EvidenceCall) :
    Effect s c (s.apply c).1 (s.apply c).2 := by
  cases c with
  | started i start => exact s.recordStarted_effect i start
  | terminal k o => exact s.recordTerminal_effect k o
  | reconciled k t reason => exact s.recordReconciled_effect k t reason

theorem Closes.status_ne {c : EvidenceCall} {n : Nat} (h : Closes c r n) : r.status ≠ .started := by
  cases h with
  | terminal k o hc hs hallowed =>
    intro he
    rw [he] at hallowed
    simp [allowedTerminalStatuses] at hallowed
  | reconciled k t reason hc hs =>
    rw [hs]
    simp

structure Indexed (s : ExecutionEvidenceService) : Prop where
  keyed : ∀ k r, s.receipts.get? k = some r → r.receiptId = k
  grants : ∀ g k, s.grantToReceipt.get? g = some k ↔
    ∃ r, s.receipts.get? k = some r ∧ r.grantId = g
  starts : ∀ k t, s.monotonicStarts.get? k = some t →
    ∃ r, s.receipts.get? k = some r ∧ r.status = .started

theorem indexed_create (n : Nat) (h : 1 ≤ n) : (create n h).Indexed := by
  refine ⟨?_, ?_, ?_⟩
  · intro k r hr
    cases hr
  · intro g k
    simp [create]
  · intro k t ht
    cases ht

theorem Indexed.opening (h : s.Indexed) (start : Option Instant)
    (hfree : s.receipts.get? r.receiptId = none) (hgrant : s.grantToReceipt.get? r.grantId = none)
    (hs : r.status = .started) : (s.opening r start).Indexed := by
  refine ⟨?_, ?_, ?_⟩
  · intro k x hx
    simp only [ExecutionEvidenceService.opening, Dict.get?_set] at hx
    split at hx
    · rename_i hk
      cases hx
      exact hk
    · exact h.keyed k x hx
  · intro g k
    simp only [ExecutionEvidenceService.opening, Dict.get?_set]
    by_cases hg : r.grantId = g
    · subst hg
      simp only [if_true, Option.some.injEq]
      constructor
      · rintro rfl
        exact ⟨r, by simp, rfl⟩
      · rintro ⟨x, hx, hxg⟩
        split at hx
        · rename_i hk
          exact hk
        · have hbound := (h.grants r.grantId k).mpr ⟨x, hx, hxg⟩
          rw [hgrant] at hbound
          cases hbound
    · rw [if_neg hg, h.grants]
      constructor
      · rintro ⟨x, hx, hxg⟩
        have hk : r.receiptId ≠ k := by
          rintro rfl
          rw [hfree] at hx
          cases hx
        exact ⟨x, by rw [if_neg hk, hx], hxg⟩
      · rintro ⟨x, hx, hxg⟩
        split at hx
        · cases hx
          exact absurd hxg hg
        · exact ⟨x, hx, hxg⟩
  · intro k t ht
    have hold : s.monotonicStarts.get? k = some t →
        ∃ x, (s.opening r start).receipts.get? k = some x ∧ x.status = .started := by
      intro ht
      obtain ⟨x, hx, hxs⟩ := h.starts k t ht
      have hk : r.receiptId ≠ k := by
        rintro rfl
        rw [hfree] at hx
        cases hx
      exact ⟨x, by simp [ExecutionEvidenceService.opening, hk, hx], hxs⟩
    cases start with
    | none => exact hold ht
    | some t₀ =>
      simp only [ExecutionEvidenceService.opening, Dict.get?_set] at ht
      split at ht
      · rename_i hk
        exact ⟨r, by simp [ExecutionEvidenceService.opening, hk], hs⟩
      · exact hold ht

theorem Indexed.closeAs {existing : ExecutionReceipt} (h : s.Indexed) (n : Nat)
    (hget : s.receipts.get? r.receiptId = some existing) (hg : r.grantId = existing.grantId) :
    (s.closeAs r n).Indexed := by
  refine ⟨?_, ?_, ?_⟩
  · intro k x hx
    simp only [ExecutionEvidenceService.closeAs, close, Dict.get?_set] at hx
    split at hx
    · rename_i hk
      cases hx
      exact hk
    · exact h.keyed k x hx
  · intro g k
    simp only [ExecutionEvidenceService.closeAs, close, Dict.get?_set, h.grants]
    by_cases hk : r.receiptId = k
    · subst hk
      simp [hget, hg]
    · simp [hk]
  · intro k t ht
    simp only [ExecutionEvidenceService.closeAs, close, Dict.get?_erase] at ht
    split at ht
    · cases ht
    · rename_i hk
      obtain ⟨x, hx, hxs⟩ := h.starts k t ht
      exact ⟨x, by simp [ExecutionEvidenceService.closeAs, close, hk, hx], hxs⟩

theorem Indexed.evict (h : s.Indexed) (hget : s.receipts.get? r.receiptId = some r) :
    (s.evict r).Indexed := by
  refine ⟨?_, ?_, ?_⟩
  · intro k x hx
    simp only [ExecutionEvidenceService.evict, Dict.get?_erase] at hx
    split at hx
    · cases hx
    · exact h.keyed k x hx
  · intro g k
    simp only [ExecutionEvidenceService.evict, Dict.get?_erase]
    by_cases hg : r.grantId = g
    · subst hg
      rw [if_pos rfl]
      constructor
      · intro hx
        cases hx
      · rintro ⟨x, hx, hxg⟩
        split at hx
        · cases hx
        · rename_i hk
          have h₁ := (h.grants r.grantId k).mpr ⟨x, hx, hxg⟩
          have h₂ := (h.grants r.grantId r.receiptId).mpr ⟨r, hget, rfl⟩
          rw [h₁] at h₂
          exact absurd (Option.some.inj h₂).symm hk
    · rw [if_neg hg, h.grants]
      constructor
      · rintro ⟨x, hx, hxg⟩
        have hk : r.receiptId ≠ k := by
          rintro rfl
          rw [hget] at hx
          cases hx
          exact hg hxg
        exact ⟨x, by rw [if_neg hk, hx], hxg⟩
      · rintro ⟨x, hx, hxg⟩
        split at hx
        · cases hx
        · exact ⟨x, hx, hxg⟩
  · intro k t ht
    simp only [ExecutionEvidenceService.evict, Dict.get?_erase] at ht
    split at ht
    · cases ht
    · rename_i hk
      obtain ⟨x, hx, hxs⟩ := h.starts k t ht
      exact ⟨x, by simp [ExecutionEvidenceService.evict, hk, hx], hxs⟩

theorem foldl_evict (s : ExecutionEvidenceService) (rs : List ExecutionReceipt) :
    rs.foldl evict s =
      { s with
        receipts := (rs.map (·.receiptId)).foldl Dict.erase s.receipts
        grantToReceipt := (rs.map (·.grantId)).foldl Dict.erase s.grantToReceipt
        monotonicStarts := (rs.map (·.receiptId)).foldl Dict.erase s.monotonicStarts } := by
  induction rs generalizing s with
  | nil => rfl
  | cons r rs ih =>
    rw [List.foldl_cons, ih]
    rfl

theorem Indexed.foldl_evict (h : s.Indexed) {rs : List ExecutionReceipt}
    (hn : (rs.map (·.receiptId)).Nodup)
    (hrs : ∀ r ∈ rs, s.receipts.get? r.receiptId = some r) :
    (rs.foldl ExecutionEvidenceService.evict s).Indexed := by
  induction rs generalizing s with
  | nil => exact h
  | cons r rs ih =>
    simp only [List.map_cons, List.nodup_cons] at hn
    refine ih (h.evict (hrs r (by simp))) hn.2 ?_
    intro x hx
    have hne : r.receiptId ≠ x.receiptId := by
      intro he
      exact hn.1 (List.mem_map.mpr ⟨x, hx, he.symm⟩)
    simp [ExecutionEvidenceService.evict, hne, hrs x (by simp [hx])]

theorem mem_terminals (h : s.Indexed) :
    r ∈ s.terminals ↔ s.receipts.get? r.receiptId = some r ∧ r.status ≠ .started := by
  simp only [terminals, List.mem_filter, decide_eq_true_eq, Dict.mem_values_iff]
  constructor
  · rintro ⟨⟨k, hk⟩, hs⟩
    rw [h.keyed k r hk]
    exact ⟨hk, hs⟩
  · rintro ⟨hk, hs⟩
    exact ⟨⟨_, hk⟩, hs⟩

theorem nodup_values (h : s.Indexed) : (s.receipts.values.map (·.receiptId)).Nodup := by
  have hids : s.receipts.values.map (·.receiptId) = s.receipts.entries.map Prod.fst := by
    simp only [Dict.values, List.map_map]
    apply List.map_congr_left
    rintro ⟨k, x⟩ he
    exact h.keyed k x ((Dict.mem_entries_iff _ _ _).mp he)
  rw [hids]
  exact s.receipts.nodup

theorem nodup_terminals (h : s.Indexed) : (s.terminals.map (·.receiptId)).Nodup :=
  (nodup_values h).sublist (List.filter_sublist.map _)

theorem perm_oldestFirst (rs : List ExecutionReceipt) : (oldestFirst rs).Perm rs :=
  List.perm_insertionSort _ rs

theorem nodup_overflow (h : s.Indexed) :
    (((oldestFirst s.terminals).take s.excess).map (·.receiptId)).Nodup :=
  (((perm_oldestFirst s.terminals).map _).nodup_iff.mpr (nodup_terminals h)).sublist
    ((List.take_sublist _ _).map _)

theorem mem_overflow (h : s.Indexed) (hr : r ∈ (oldestFirst s.terminals).take s.excess) :
    s.receipts.get? r.receiptId = some r ∧ r.status ≠ .started :=
  (mem_terminals h).mp ((perm_oldestFirst s.terminals).mem_iff.mp (List.mem_of_mem_take hr))

theorem Indexed.pruneTerminalLocked (h : s.Indexed) : s.pruneTerminalLocked.Indexed :=
  h.foldl_evict (nodup_overflow h) (fun _ hr => (mem_overflow h hr).1)

theorem get?_pruneTerminalLocked (s : ExecutionEvidenceService) (k : String) :
    s.pruneTerminalLocked.receipts.get? k =
      if k ∈ ((oldestFirst s.terminals).take s.excess).map (·.receiptId) then none
      else s.receipts.get? k := by
  rw [ExecutionEvidenceService.pruneTerminalLocked, ExecutionEvidenceService.foldl_evict]
  exact Dict.get?_foldl_erase _ _ _

theorem terminals_foldl_evict (h : s.Indexed) (rs : List ExecutionReceipt) :
    (rs.foldl ExecutionEvidenceService.evict s).terminals =
      s.terminals.filter (fun x => x.receiptId ∉ rs.map (·.receiptId)) := by
  rw [ExecutionEvidenceService.foldl_evict]
  simp only [terminals, Dict.values, Dict.entries_foldl_erase, List.filter_map, List.filter_filter]
  congr 1
  apply List.filter_congr
  rintro ⟨k, x⟩ he
  have hk := h.keyed k x ((Dict.mem_entries_iff _ _ _).mp he)
  simp only [Function.comp_apply, hk]
  rw [Bool.and_comm]

theorem terminals_pruneTerminalLocked (h : s.Indexed) :
    s.pruneTerminalLocked.terminals.Perm ((oldestFirst s.terminals).drop s.excess) := by
  have hn := ((perm_oldestFirst s.terminals).map (·.receiptId)).nodup_iff.mpr (nodup_terminals h)
  rw [ExecutionEvidenceService.pruneTerminalLocked, terminals_foldl_evict h]
  refine ((perm_oldestFirst s.terminals).symm.filter _).trans (List.Perm.of_eq ?_)
  exact Sorting.filter_notMem_take _ _ _ hn

theorem terminals_bounded (h : s.Indexed) :
    s.pruneTerminalLocked.terminals.length ≤ s.maxTerminalReceipts := by
  rw [(terminals_pruneTerminalLocked h).length_eq, List.length_drop,
    (perm_oldestFirst s.terminals).length_eq, excess]
  omega

structure Consistent (s : ExecutionEvidenceService) : Prop extends Indexed s where
  bounded : s.terminals.length ≤ s.maxTerminalReceipts

theorem consistent_create (n : Nat) (h : 1 ≤ n) : (create n h).Consistent :=
  ⟨indexed_create n h, Nat.zero_le _⟩

theorem terminals_opening (start : Option Instant) (hfree : s.receipts.get? r.receiptId = none)
    (hs : r.status = .started) : (s.opening r start).terminals = s.terminals := by
  simp [terminals, opening, Dict.values_set_of_absent _ _ _ hfree, hs]

theorem Effect.consistent {c : EvidenceCall} {reply : Except EvidenceError ExecutionReceipt}
    (h : Effect s c s' reply) (hs : s.Consistent) :
    s'.Consistent ∧ s'.maxTerminalReceipts = s.maxTerminalReceipts := by
  cases h with
  | refused failures e => exact ⟨⟨⟨hs.keyed, hs.grants, hs.starts⟩, hs.bounded⟩, rfl⟩
  | opened r start hc hfree hgrant hopen =>
    refine ⟨⟨hs.opening start hfree hgrant hopen, ?_⟩, rfl⟩
    rw [terminals_opening start hfree hopen]
    exact hs.bounded
  | closed existing r n hget hopen hid hkind =>
    have hkey : r.receiptId = c.receiptId := by
      rw [hid]
      exact hs.keyed _ _ hget
    rw [← hkey] at hget
    have hindexed := hs.closeAs n hget (congrArg ReceiptIdentity.grantId hid)
    refine ⟨⟨hindexed.pruneTerminalLocked, ?_⟩, ?_⟩
    · refine le_trans (terminals_bounded hindexed) ?_
      rw [pruneTerminalLocked, foldl_evict]
    · rw [pruneTerminalLocked, foldl_evict]
      rfl

-- what one call may do to a store: the law every reachable state is judged by
structure Obeys (s : ExecutionEvidenceService) (c : EvidenceCall) (s' : ExecutionEvidenceService)
    (reply : Except EvidenceError ExecutionReceipt) : Prop where
  refused : ∀ e, reply = .error e → s'.receipts = s.receipts ∧
    s'.grantToReceipt = s.grantToReceipt ∧ s'.monotonicStarts = s.monotonicStarts ∧
    s'.reconciledUnknownCount = s.reconciledUnknownCount
  lifecycle : ∀ k r r', s.receipts.get? k = some r → s'.receipts.get? k = some r' →
    r' = r ∨ (c.receiptId = k ∧ reply = .ok r' ∧ r.status = .started ∧ r'.status ≠ .started ∧
      r'.toReceiptIdentity = r.toReceiptIdentity)
  registered : ∀ k r', s.receipts.get? k = none → s'.receipts.get? k = some r' →
    reply = .ok r' ∧ r'.status = .started ∧ r'.receiptId = k ∧
      ∃ start, c = .started r'.toReceiptIdentity start
  timed : ∀ k r, s.receipts.get? k = some r → s'.receipts.get? k = some r → r.status = .started →
    s'.monotonicStarts.get? k = s.monotonicStarts.get? k
  unknown : ∀ k r', s'.receipts.get? k = some r' → r'.status = .unknown →
    s.receipts.get? k = some r' ∨ (reply = .ok r' ∧ ∃ t reason, c = .reconciled k t reason)
  retained : ∀ k r, s.receipts.get? k = some r → r.status = .started →
    s'.receipts.get? k = some r ∨ (c.receiptId = k ∧ ∃ r', reply = .ok r' ∧ r'.status ≠ .started)
  counted : s'.reconciledUnknownCount = s.reconciledUnknownCount + (c.moved reply).toList.length

theorem get?_closeAs (n : Nat) (k : String) : (s.closeAs r n).receipts.get? k =
    if r.receiptId = k then some r else s.receipts.get? k := Dict.get?_set _ _ _ _

theorem get?_closed {n : Nat} (h : (s.closeAs r n).pruneTerminalLocked.receipts.get? k = some x) :
    (r.receiptId = k ∧ x = r) ∨ (r.receiptId ≠ k ∧ s.receipts.get? k = some x) := by
  rw [get?_pruneTerminalLocked, get?_closeAs] at h
  split at h
  · cases h
  · split at h
    · rename_i hk
      cases h
      exact .inl ⟨hk, rfl⟩
    · rename_i hk
      exact .inr ⟨hk, h⟩

theorem open_not_overflow {n : Nat} (hi : (s.closeAs r n).Indexed) (hk : r.receiptId ≠ k)
    (hx : s.receipts.get? k = some x) (hs : x.status = .started) :
    k ∉ ((oldestFirst (s.closeAs r n).terminals).take (s.closeAs r n).excess).map
      (·.receiptId) := by
  intro hmem
  obtain ⟨y, hy, hyk⟩ := List.mem_map.mp hmem
  obtain ⟨hget, hterminal⟩ := mem_overflow hi hy
  rw [hyk, get?_closeAs, if_neg hk, hx] at hget
  cases hget
  exact hterminal hs

theorem closed_keeps_open {n : Nat} (hi : (s.closeAs r n).Indexed) (hk : r.receiptId ≠ k)
    (hx : s.receipts.get? k = some x) (hs : x.status = .started) :
    (s.closeAs r n).pruneTerminalLocked.receipts.get? k = some x := by
  rw [get?_pruneTerminalLocked, get?_closeAs, if_neg hk, if_neg (open_not_overflow hi hk hx hs), hx]

theorem starts_closed {n : Nat} (hi : (s.closeAs r n).Indexed) (hk : r.receiptId ≠ k)
    (hx : s.receipts.get? k = some x) (hs : x.status = .started) :
    (s.closeAs r n).pruneTerminalLocked.monotonicStarts.get? k = s.monotonicStarts.get? k := by
  rw [pruneTerminalLocked, foldl_evict]
  rw [Dict.get?_foldl_erase, if_neg (open_not_overflow hi hk hx hs)]
  simp only [closeAs, close, Dict.get?_erase, if_neg hk]

theorem count_closed (n : Nat) : (s.closeAs r n).pruneTerminalLocked.reconciledUnknownCount =
    s.reconciledUnknownCount + n := by
  rw [pruneTerminalLocked, foldl_evict]
  rfl

theorem Effect.obeys {c : EvidenceCall} {reply : Except EvidenceError ExecutionReceipt}
    (h : Effect s c s' reply) (hs : s.Consistent) : Obeys s c s' reply := by
  cases h with
  | refused failures e =>
    refine ⟨fun _ _ => ⟨rfl, rfl, rfl, rfl⟩, ?_, ?_, fun _ _ _ _ _ => rfl,
      fun k r' hr' _ => .inl hr', fun k r hr _ => .inl hr, ?_⟩
    · intro k r r' hr hr'
      rw [hr] at hr'
      cases hr'
      exact .inl rfl
    · intro k r' hr hr'
      rw [hr] at hr'
      cases hr'
    · cases c <;> rfl
  | opened x start hc hfree hgrant hopen =>
    have hget (k : String) : (s.opening x start).receipts.get? k =
        if x.receiptId = k then some x else s.receipts.get? k := Dict.get?_set _ _ _ _
    refine ⟨by simp, ?_, ?_, ?_, ?_, ?_, ?_⟩
    · intro k r r' hr hr'
      rw [hget] at hr'
      split at hr'
      · rename_i hk
        rw [hk, hr] at hfree
        cases hfree
      · rw [hr] at hr'
        cases hr'
        exact .inl rfl
    · intro k r' hr hr'
      rw [hget] at hr'
      split at hr'
      · rename_i hk
        cases hr'
        exact ⟨rfl, hopen, hk, start, hc⟩
      · rw [hr] at hr'
        cases hr'
    · intro k r hr _ _
      have hne : x.receiptId ≠ k := by
        rintro rfl
        rw [hfree] at hr
        cases hr
      cases start with
      | none => rfl
      | some t => simp [opening, hne]
    · intro k r' hr' hu
      rw [hget] at hr'
      split at hr'
      · cases hr'
        rw [hopen] at hu
        cases hu
      · exact .inl hr'
    · intro k r hr _
      have hne : x.receiptId ≠ k := by
        rintro rfl
        rw [hfree] at hr
        cases hr
      exact .inl (by rw [hget, if_neg hne, hr])
    · rw [hc]
      rfl
  | closed existing x n hget hopen hid hkind =>
    have hkey : x.receiptId = c.receiptId := by
      rw [hid]
      exact hs.keyed _ _ hget
    have hindexed : (s.closeAs x n).Indexed := by
      rw [← hkey] at hget
      exact hs.closeAs n hget (congrArg ReceiptIdentity.grantId hid)
    refine ⟨by simp, ?_, ?_, ?_, ?_, ?_, ?_⟩
    · intro k r r' hr hr'
      rcases get?_closed hr' with ⟨hk, rfl⟩ | ⟨-, hr'⟩
      · rw [hkey] at hk
        rw [← hk, hget] at hr
        cases hr
        exact .inr ⟨hk, rfl, hopen, hkind.status_ne, hid⟩
      · rw [hr] at hr'
        cases hr'
        exact .inl rfl
    · intro k r' hr hr'
      rcases get?_closed hr' with ⟨hk, rfl⟩ | ⟨-, hr'⟩
      · rw [hkey] at hk
        rw [hk, hr] at hget
        cases hget
      · rw [hr] at hr'
        cases hr'
    · intro k r hr hr' hst
      have hne : x.receiptId ≠ k := by
        intro hk
        rcases get?_closed hr' with ⟨-, rfl⟩ | ⟨hk', -⟩
        · exact hkind.status_ne hst
        · exact hk' hk
      rw [starts_closed hindexed hne hr hst]
    · intro k r' hr' hu
      rcases get?_closed hr' with ⟨hk, rfl⟩ | ⟨-, hr'⟩
      · refine .inr ⟨rfl, ?_⟩
        cases hkind with
        | terminal j o hc hst hallowed =>
          rw [hu] at hallowed
          simp [allowedTerminalStatuses] at hallowed
        | reconciled j t reason hc =>
          rw [hkey, hc] at hk
          exact ⟨t, reason,
            by rw [hc]; exact congrArg (fun k => EvidenceCall.reconciled k t reason) hk⟩
      · exact .inl hr'
    · intro k r hr hst
      by_cases hk : x.receiptId = k
      · exact .inr ⟨hkey.symm.trans hk, x, rfl, hkind.status_ne⟩
      · exact .inl (closed_keeps_open hindexed hk hr hst)
    · rw [count_closed]
      cases hkind with
      | terminal j o hc =>
        rw [hc]
        rfl
      | reconciled j t reason hc =>
        rw [hc]
        rfl

theorem apply_obeys (hs : s.Consistent) (c : EvidenceCall) :
    Obeys s c (s.apply c).1 (s.apply c).2 :=
  (s.apply_effect c).obeys hs

end ExecutionEvidenceService

end AgentSecurityPlatform
