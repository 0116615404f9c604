import AgentSecurityPlatform.Execution.Reconciler

namespace AgentSecurityPlatform

namespace ExecutionEvidenceService

variable {s s' : ExecutionEvidenceService} {r x : ExecutionReceipt} {c : EvidenceCall}

def grantIds (s : ExecutionEvidenceService) : Set String :=
  {g | ∃ r ∈ s.receipts.values, r.grantId = g}

def receiptIds (s : ExecutionEvidenceService) : Set String :=
  {k | ∃ r ∈ s.receipts.values, r.receiptId = k}

def boundReceipt (s : ExecutionEvidenceService) (g : String) : String := s.grantToReceipt.getD g ""

theorem Indexed.get?_of_mem (h : s.Indexed) (hr : r ∈ s.receipts.values) :
    s.receipts.get? r.receiptId = some r := by
  obtain ⟨k, hk⟩ := (Dict.mem_values_iff _ _).mp hr
  rw [h.keyed k r hk]
  exact hk

theorem Indexed.grant_of_get? (h : s.Indexed) (hr : s.receipts.get? r.receiptId = some r) :
    s.grantToReceipt.get? r.grantId = some r.receiptId := (h.grants _ _).mpr ⟨r, hr, rfl⟩

theorem Indexed.contains_grant_iff (h : s.Indexed) (g : String) :
    s.grantToReceipt.contains g = true ↔ g ∈ s.grantIds := by
  rw [Dict.contains_eq_true_iff]
  constructor
  · rintro ⟨k, hk⟩
    obtain ⟨r, hr, hg⟩ := (h.grants g k).mp hk
    exact ⟨r, (Dict.mem_values_iff _ _).mpr ⟨k, hr⟩, hg⟩
  · rintro ⟨r, hr, rfl⟩
    exact ⟨r.receiptId, h.grant_of_get? (h.get?_of_mem hr)⟩

theorem Indexed.bijOn_boundReceipt (h : s.Indexed) :
    Set.BijOn s.boundReceipt s.grantIds s.receiptIds := by
  have hbound (r : ExecutionReceipt) (hr : r ∈ s.receipts.values) :
      s.boundReceipt r.grantId = r.receiptId := by
    rw [boundReceipt, Dict.getD, h.grant_of_get? (h.get?_of_mem hr)]
    rfl
  refine ⟨?_, ?_, ?_⟩
  · rintro g ⟨r, hr, rfl⟩
    exact ⟨r, hr, (hbound r hr).symm⟩
  · rintro g ⟨r, hr, rfl⟩ g' ⟨r', hr', rfl⟩ he
    rw [hbound r hr, hbound r' hr'] at he
    have hget := h.get?_of_mem hr
    rw [he, h.get?_of_mem hr'] at hget
    rw [Option.some.inj hget]
  · rintro k ⟨r, hr, rfl⟩
    exact ⟨r.grantId, ⟨r, hr, rfl⟩, hbound r hr⟩

theorem Indexed.getByGrant_of_get? (h : s.Indexed) (hr : s.receipts.get? r.receiptId = some r) :
    s.getByGrant r.grantId = some r := by
  rw [getByGrant, h.grant_of_get? hr]
  exact hr

end ExecutionEvidenceService

open ExecutionEvidenceService in
theorem EvidencePool.evidence_store_laws (n : Nat) (hn : 1 ≤ n) (threads : List EvidenceThread)
    (ls : List (Nat × Instant)) (q : EvidencePool)
    (h : Pool.run EvidenceThread.step ls ⟨create n hn, threads⟩ = some q) :
    q.shared.Consistent ∧ q.shared.terminals.length ≤ n ∧
      (∀ g, q.shared.grantToReceipt.contains g = true ↔ g ∈ q.shared.grantIds) ∧
      Set.BijOn q.shared.boundReceipt q.shared.grantIds q.shared.receiptIds ∧
      q.shared.reconciledUnknownCount =
        (movedToUnknown (callLog ls ⟨create n hn, threads⟩)).length ∧
      (∀ ls₁ l ls₂, ls = ls₁ ++ l :: ls₂ → ∃ p₁ p₂ : EvidencePool,
        Pool.run EvidenceThread.step ls₁ ⟨create n hn, threads⟩ = some p₁ ∧
          Pool.fire EvidenceThread.step p₁ l = some p₂ ∧ StepLaw p₁ l p₂) ∧
      ∀ ls₁ ls₂ (p₁ : EvidencePool) k r r', ls = ls₁ ++ ls₂ →
        Pool.run EvidenceThread.step ls₁ ⟨create n hn, threads⟩ = some p₁ →
        p₁.shared.receipts.get? k = some r →
        Pool.AllSteps EvidenceThread.step (Retains k) ls₂ p₁ →
        q.shared.receipts.get? k = some r' → Settles r r' := by
  have h₀ := consistent_create n hn
  obtain ⟨hq, hbound⟩ := run_consistent h₀ h
  refine ⟨hq, ?_, hq.contains_grant_iff, hq.bijOn_boundReceipt, ?_, ?_, ?_⟩
  · calc q.shared.terminals.length ≤ q.shared.maxTerminalReceipts := hq.bounded
      _ = n := hbound
  · exact (run_counted h₀ h).trans (Nat.zero_add _)
  · rintro ls₁ l ls₂ rfl
    obtain ⟨p₁, h₁, h₂⟩ := Pool.run_append h
    obtain ⟨p₂, hf, -⟩ := Pool.run_cons h₂
    exact ⟨p₁, p₂, h₁, hf, fire_law (run_consistent h₀ h₁).1 hf⟩
  · rintro ls₁ ls₂ p₁ k r r' rfl h₁ hr hkept hr'
    obtain ⟨p₂, h₁', h₂⟩ := Pool.run_append h
    rw [h₁] at h₁'
    cases h₁'
    exact run_settles (run_consistent h₀ h₁).1 hkept h₂ hr hr'

def sampleIdentity (n : Nat) (startedAt : Instant) : ReceiptIdentity :=
  ⟨s!"receipt-{n}", s!"grant-{n}", "session-1", "agent-1", "request-1", "file_reader", "1.0.0",
    "file_reader_v1", "binding", "profile-1", "digest", 30, ⟨startedAt, some 0⟩⟩

def sampleOutcome (completedAt : Instant) : TerminalOutcome :=
  ⟨.succeeded, ⟨completedAt, some 0⟩, 5, none, none, none⟩

def EvidencePool.sampleThreads : List EvidenceThread :=
  [.call (.started (sampleIdentity 1 0) (some 0)), .call (.started (sampleIdentity 2 1) none),
    .unresolved ⟨100, some 0⟩ (some 100) 10, .call (.terminal "receipt-1" (sampleOutcome 60))]

def EvidencePool.sampleSchedule : List (Nat × Instant) :=
  [(0, 0), (1, 0), (2, 0), (3, 0), (2, 0), (2, 0), (2, 0), (2, 0), (2, 0)]

theorem EvidencePool.evidence_store_laws_sample : ∃ q : EvidencePool,
    Pool.run EvidenceThread.step sampleSchedule
        ⟨ExecutionEvidenceService.create 1 (le_refl 1), sampleThreads⟩ = some q ∧
      q.shared.Consistent ∧ q.shared.terminals.length ≤ 1 ∧
      Set.BijOn q.shared.boundReceipt q.shared.grantIds q.shared.receiptIds := by
  have hsome : (Pool.run EvidenceThread.step sampleSchedule
      ⟨ExecutionEvidenceService.create 1 (le_refl 1), sampleThreads⟩).isSome = true := by
    decide +kernel
  obtain ⟨q, hq⟩ := Option.isSome_iff_exists.mp hsome
  obtain ⟨hc, hn, -, hb, -⟩ := EvidencePool.evidence_store_laws 1 (le_refl 1) sampleThreads _ q hq
  exact ⟨q, hq, hc, hn, hb⟩

namespace ExecutionEvidenceService

inductive Reachable (n : Nat) (hn : 1 ≤ n) : ExecutionEvidenceService → Prop where
  | create : Reachable n hn (create n hn)
  | apply (s : ExecutionEvidenceService) (h : Reachable n hn s) (c : EvidenceCall) :
      Reachable n hn (s.apply c).1

variable {s s' : ExecutionEvidenceService} {r x : ExecutionReceipt} {c : EvidenceCall} {n : Nat}
  {hn : 1 ≤ n}

theorem Reachable.consistent (h : Reachable n hn s) :
    s.Consistent ∧ s.maxTerminalReceipts = n := by
  induction h with
  | create => exact ⟨consistent_create n hn, rfl⟩
  | apply s h c ih =>
    obtain ⟨hc, hmax⟩ := (s.apply_effect c).consistent ih.1
    exact ⟨hc, hmax.trans ih.2⟩

def Oldest (x : ExecutionReceipt) (rs : List ExecutionReceipt) : Prop :=
  Sorting.Earliest (fun r => r.startedAt.instant) x rs

-- r closes a store that is already full, and x is then the oldest of the terminal receipts
def Displaced (s : ExecutionEvidenceService) (r x : ExecutionReceipt) : Prop :=
  s.terminals.length = s.maxTerminalReceipts ∧ Oldest x (s.close r).terminals

theorem terminals_close {existing : ExecutionReceipt}
    (hget : s.receipts.get? r.receiptId = some existing) (hopen : existing.status = .started)
    (hr : r.status ≠ .started) : ∃ before after, s.terminals = before ++ after ∧
      (s.close r).terminals = before ++ r :: after := by
  obtain ⟨before, after, hold, hnew⟩ := s.receipts.entries_set_of_present r.receiptId r hget
  refine ⟨(before.map Prod.snd).filter (·.status ≠ .started),
    (after.map Prod.snd).filter (·.status ≠ .started), ?_, ?_⟩
  · simp [terminals, Dict.values, hold, hopen]
  · simp [terminals, close, Dict.values, hnew, hr]

theorem excess_close {existing : ExecutionReceipt} (m : Nat) (hs : s.Consistent)
    (hget : s.receipts.get? r.receiptId = some existing) (hopen : existing.status = .started)
    (hr : r.status ≠ .started) : (s.closeAs r m).excess =
      if s.terminals.length = s.maxTerminalReceipts then 1 else 0 := by
  obtain ⟨before, after, hold, hnew⟩ := terminals_close hget hopen hr
  have hlength : (s.closeAs r m).terminals.length = s.terminals.length + 1 := by
    calc (s.closeAs r m).terminals.length = (before ++ r :: after).length := congrArg _ hnew
      _ = s.terminals.length + 1 := by rw [hold]; simp; omega
  have hbounded := hs.bounded
  have hmax : (s.closeAs r m).maxTerminalReceipts = s.maxTerminalReceipts := rfl
  rw [excess, hlength, hmax]
  split <;> omega

theorem closed_get? {existing : ExecutionReceipt} (m : Nat) (hs : s.Consistent)
    (hget : s.receipts.get? r.receiptId = some existing) (hopen : existing.status = .started)
    (hr : r.status ≠ .started) (hid : r.toReceiptIdentity = existing.toReceiptIdentity)
    (hx : x ∈ (s.close r).terminals) :
    (¬ Displaced s r x → (s.closeAs r m).pruneTerminalLocked.receipts.get? x.receiptId = some x) ∧
      (Displaced s r x → (s.closeAs r m).pruneTerminalLocked.receipts.get? x.receiptId = none) := by
  have hi : (s.closeAs r m).Indexed := hs.closeAs m hget (congrArg ReceiptIdentity.grantId hid)
  have hkept := ((mem_terminals hi).mp (show x ∈ (s.closeAs r m).terminals from hx)).1
  have hexcess := excess_close m hs hget hopen hr
  rw [get?_pruneTerminalLocked, hexcess, hkept]
  by_cases hfull : s.terminals.length = s.maxTerminalReceipts
  · obtain ⟨y, hy⟩ := Sorting.exists_earliest (fun r : ExecutionReceipt => r.startedAt.instant)
      (List.ne_nil_of_mem hx)
    have htake : (oldestFirst (s.closeAs r m).terminals).take 1 = [y] := hy.take_one
    rw [if_pos hfull, htake]
    constructor
    · intro hnot
      rw [if_neg]
      intro hmem
      have hmem' : y ∈ (s.closeAs r m).terminals := by
        obtain ⟨before, after, he, -⟩ := hy
        change y ∈ (s.close r).terminals
        rw [he]
        simp
      have hsame : x = y := by
        have hky := ((mem_terminals hi).mp hmem').1
        simp only [List.map_cons, List.map_nil, List.mem_singleton] at hmem
        rw [← hmem, hkept] at hky
        exact Option.some.inj hky
      exact hnot ⟨hfull, hsame ▸ hy⟩
    · rintro ⟨-, hold⟩
      have htake' : (oldestFirst (s.closeAs r m).terminals).take 1 = [x] := hold.take_one
      rw [htake] at htake'
      cases htake'
      simp
  · rw [if_neg hfull]
    exact ⟨fun _ => by simp, fun hd => absurd hd.1 hfull⟩

theorem closed_getByGrant (m : Nat) (hi : (s.closeAs r m).Indexed)
    (hx : (s.closeAs r m).receipts.get? x.receiptId = some x) :
    (s.closeAs r m).pruneTerminalLocked.getByGrant x.grantId =
      (s.closeAs r m).pruneTerminalLocked.receipts.get? x.receiptId := by
  cases hget : (s.closeAs r m).pruneTerminalLocked.receipts.get? x.receiptId with
  | some y =>
    have hy := hget
    rw [get?_pruneTerminalLocked] at hy
    split at hy
    · cases hy
    · rw [hx] at hy
      cases hy
      exact hi.pruneTerminalLocked.getByGrant_of_get? hget
  | none =>
    rw [getByGrant]
    split
    · rfl
    · rename_i k hk
      obtain ⟨y, hy, hyg⟩ := (hi.pruneTerminalLocked.grants _ _).mp hk
      have hyk := hi.pruneTerminalLocked.keyed k y hy
      rw [get?_pruneTerminalLocked] at hy
      split at hy
      · cases hy
      · have h₁ := (hi.grants _ _).mpr ⟨y, hy, hyg⟩
        have h₂ := hi.grant_of_get? hx
        rw [h₁] at h₂
        rw [Option.some.inj h₂]
        exact hget

theorem Displaced.unique (hx : Displaced s r x) {y : ExecutionReceipt} (hy : Displaced s r y) :
    x = y := by
  have h := hx.2.take_one
  rw [hy.2.take_one] at h
  exact (List.singleton_inj.mp h).symm

theorem apply_closes (hc : ∀ i start, c ≠ .started i start) (h : s.apply c = (s', .ok r))
    (hs : s.Consistent) : ∃ existing m, r.receiptId = c.receiptId ∧
      s.receipts.get? r.receiptId = some existing ∧ existing.status = .started ∧
        r.status ≠ .started ∧
      r.toReceiptIdentity = existing.toReceiptIdentity ∧
      s' = (s.closeAs r m).pruneTerminalLocked := by
  have he := s.apply_effect c
  rw [h] at he
  cases he with
  | opened _ start hstarted => exact absurd hstarted (hc _ _)
  | closed existing _ m hget hopen hid hkind =>
    have hkey : r.receiptId = c.receiptId := by
      rw [hid]
      exact hs.keyed _ _ hget
    refine ⟨existing, m, hkey, ?_, hopen, hkind.status_ne, hid, rfl⟩
    rw [hkey]
    exact hget

theorem just_recorded_retrievable (n : Nat) (hn : 1 ≤ n) (s : ExecutionEvidenceService)
    (hs : Reachable n hn s) (c : EvidenceCall) (s' : ExecutionEvidenceService)
    (r : ExecutionReceipt) (hc : ∀ i start, c ≠ .started i start) (h : s.apply c = (s', .ok r)) :
    (¬ Displaced s r r → s'.get r.receiptId = some r ∧ s'.getByGrant r.grantId = some r) ∧
      (Displaced s r r → s'.get r.receiptId = none ∧ s'.getByGrant r.grantId = none ∧
        ∀ x ∈ s.terminals, s'.get x.receiptId = some x ∧ s'.getByGrant x.grantId = some x) ∧
      ∀ x ∈ s.terminals,
        (¬ Displaced s r x → s'.get x.receiptId = some x ∧ s'.getByGrant x.grantId = some x) ∧
          (Displaced s r x → s'.get x.receiptId = none ∧ s'.getByGrant x.grantId = none) := by
  have hcons := hs.consistent.1
  obtain ⟨existing, m, -, hget, hopen, hr, hid, rfl⟩ := apply_closes hc h hcons
  have hi : (s.closeAs r m).Indexed := hcons.closeAs m hget (congrArg ReceiptIdentity.grantId hid)
  obtain ⟨before, after, hold, hnew⟩ := terminals_close hget hopen hr
  have hclosed (x : ExecutionReceipt) (hx : x ∈ (s.close r).terminals) :
      (¬ Displaced s r x → (s.closeAs r m).pruneTerminalLocked.get x.receiptId = some x ∧
        (s.closeAs r m).pruneTerminalLocked.getByGrant x.grantId = some x) ∧
      (Displaced s r x → (s.closeAs r m).pruneTerminalLocked.get x.receiptId = none ∧
        (s.closeAs r m).pruneTerminalLocked.getByGrant x.grantId = none) := by
    obtain ⟨hkeep, hdrop⟩ := closed_get? m hcons hget hopen hr hid hx
    have hx' := ((mem_terminals hi).mp (show x ∈ (s.closeAs r m).terminals from hx)).1
    rw [closed_getByGrant m hi hx']
    exact ⟨fun hd => ⟨hkeep hd, hkeep hd⟩, fun hd => ⟨hdrop hd, hdrop hd⟩⟩
  have hself : r ∈ (s.close r).terminals := by simp [hnew]
  have hother : ∀ x ∈ s.terminals, x ∈ (s.close r).terminals := by
    intro x hx
    rw [hold, List.mem_append] at hx
    rw [hnew, List.mem_append, List.mem_cons]
    rcases hx with hx | hx
    · exact .inl hx
    · exact .inr (.inr hx)
  refine ⟨(hclosed r hself).1, ?_, fun x hx => hclosed x (hother x hx)⟩
  intro hd
  obtain ⟨hgone, hgrant⟩ := (hclosed r hself).2 hd
  refine ⟨hgone, hgrant, ?_⟩
  intro x hx
  apply (hclosed x (hother x hx)).1
  intro hdx
  obtain ⟨hxget, hxs⟩ := (mem_terminals hcons.toIndexed).mp hx
  rw [hdx.unique hd, hget] at hxget
  rw [← Option.some.inj hxget] at hr
  exact hr hopen

def applyAll (s : ExecutionEvidenceService) (cs : List EvidenceCall) : ExecutionEvidenceService :=
  cs.foldl (fun s c => (s.apply c).1) s

theorem reachable_applyAll (h : Reachable n hn s) (cs : List EvidenceCall) :
    Reachable n hn (s.applyAll cs) := by
  induction cs generalizing s with
  | nil => exact h
  | cons c cs ih => exact ih (.apply s h c)

-- receipt-1 starts first and is still running when receipt-2 has filled the store
def sampleOverlap (n : Nat) (hn : 1 ≤ n) : ExecutionEvidenceService :=
  (create n hn).applyAll
    [.started (sampleIdentity 1 0) (some 0), .started (sampleIdentity 2 1) (some 1),
      .terminal "receipt-2" (sampleOutcome 60)]

theorem reachable_sampleOverlap (n : Nat) (hn : 1 ≤ n) : Reachable n hn (sampleOverlap n hn) :=
  reachable_applyAll .create _

def sampleCompletion : EvidenceCall := .terminal "receipt-1" (sampleOutcome 70)

def sampleReceipt : ExecutionReceipt :=
  ⟨{ sampleIdentity 1 0 with
      status := .succeeded
      completedAt := some ⟨70, some 0⟩
      durationMs := some 5 }, by decide +kernel⟩

def sampleAfter (n : Nat) (hn : 1 ≤ n) : ExecutionEvidenceService :=
  ((sampleOverlap n hn).apply sampleCompletion).1

theorem sampleOverlap_apply (n : Nat) (hn : 1 ≤ n)
    (h : ((sampleOverlap n hn).apply sampleCompletion).2 = .ok sampleReceipt) :
    (sampleOverlap n hn).apply sampleCompletion = (sampleAfter n hn, .ok sampleReceipt) :=
  Prod.ext rfl h

theorem just_recorded_retrievable_sample :
    (sampleOverlap 2 (by decide)).apply sampleCompletion =
        (sampleAfter 2 (by decide), .ok sampleReceipt) ∧
      (sampleAfter 2 (by decide)).get "receipt-1" = some sampleReceipt ∧
      (sampleAfter 2 (by decide)).getByGrant "grant-1" = some sampleReceipt := by
  have hreply := sampleOverlap_apply 2 (by decide) (by decide +kernel)
  refine ⟨hreply, (just_recorded_retrievable 2 (by decide) (sampleOverlap 2 (by decide))
    (reachable_sampleOverlap _ _) sampleCompletion (sampleAfter 2 (by decide)) sampleReceipt
    (by simp [sampleCompletion]) hreply).1 ?_⟩
  intro hd
  have hfree : (sampleOverlap 2 (by decide)).terminals.length ≠ 2 := by decide +kernel
  exact hfree hd.1

theorem just_recorded_evicted : ¬ ∀ (n : Nat) (hn : 1 ≤ n) (s : ExecutionEvidenceService)
    (c : EvidenceCall) (s' : ExecutionEvidenceService) (r : ExecutionReceipt), Reachable n hn s →
    (∀ i start, c ≠ .started i start) → s.apply c = (s', .ok r) →
    s'.get r.receiptId = some r ∧ s'.getByGrant r.grantId = some r := by
  intro hall
  have hreply := sampleOverlap_apply 1 (le_refl 1) (by decide +kernel)
  have hnone : (sampleAfter 1 (le_refl 1)).get sampleReceipt.receiptId = none := by decide +kernel
  have hget := (hall 1 (le_refl 1) (sampleOverlap 1 (le_refl 1)) sampleCompletion
    (sampleAfter 1 (le_refl 1)) sampleReceipt (reachable_sampleOverlap _ _)
    (by simp [sampleCompletion]) hreply).1
  rw [hnone] at hget
  cases hget

end ExecutionEvidenceService

end AgentSecurityPlatform
