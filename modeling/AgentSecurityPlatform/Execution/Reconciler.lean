import AgentSecurityPlatform.Execution.ReceiptLaws
import AgentSecurityPlatform.Library.Run

namespace AgentSecurityPlatform

structure ReconciliationPass where
  nowUtc : Timestamp
  currentMonotonic : Instant
  grace : Instant
  deriving DecidableEq, Repr

namespace ReconciliationPass

def reconciliationDeadline (pass : ReconciliationPass) (receipt : ExecutionReceipt)
    (startMono : Instant) : Instant :=
  startMono + receipt.declaredTimeoutSeconds + pass.grace

def judge (pass : ReconciliationPass) (receipt : ExecutionReceipt) :
    Option Instant → Option ReconciliationReason
  | none => some .evidenceUnavailable
  | some startMono =>
    if pass.reconciliationDeadline receipt startMono ≤ pass.currentMonotonic then
      some .executionTimeout
    else none

end ReconciliationPass

structure PassProgress where
  reconciled : List ExecutionReceipt := []
  warnings : List (String × EvidenceError) := []
  deriving DecidableEq

def PassProgress.note (progress : PassProgress) (receiptId : String) :
    Except EvidenceError ExecutionReceipt → PassProgress
  | .ok receipt => { progress with reconciled := progress.reconciled ++ [receipt] }
  | .error e =>
    if e.isTransition then progress
    else { progress with warnings := progress.warnings ++ [(receiptId, e)] }

inductive EvidenceThread where
  | call (c : EvidenceCall)
  | called (c : EvidenceCall) (reply : Except EvidenceError ExecutionReceipt)
  | startup (nowUtc : Timestamp)
  | restarting (nowUtc : Timestamp) (openReceipts : List ExecutionReceipt) (progress : PassProgress)
  | unresolved (nowUtc : Timestamp) (monotonicNow : Option Instant) (grace : Instant)
  | examining (pass : ReconciliationPass) (openReceipts : List ExecutionReceipt)
      (progress : PassProgress)
  | resolving (pass : ReconciliationPass) (receipt : ExecutionReceipt)
      (reason : ReconciliationReason) (openReceipts : List ExecutionReceipt)
      (progress : PassProgress)
  | finished (progress : PassProgress)

abbrev EvidencePool := Pool ExecutionEvidenceService EvidenceThread

namespace EvidenceThread

-- every constructor is between two store calls, so each step makes at most one of them
def step (clock : Instant) (s : ExecutionEvidenceService) :
    EvidenceThread → Option (ExecutionEvidenceService × EvidenceThread)
  | .call c => some ((s.apply c).1, .called c (s.apply c).2)
  | .startup nowUtc => some (s, .restarting nowUtc s.listOpen {})
  | .restarting _ [] progress => some (s, .finished progress)
  | .restarting nowUtc (receipt :: rest) progress =>
    let (s', reply) := s.recordReconciled receipt.receiptId nowUtc .processRestart
    some (s', .restarting nowUtc rest (progress.note receipt.receiptId reply))
  | .unresolved nowUtc monotonicNow grace =>
    some (s, .examining ⟨nowUtc, monotonicNow.getD clock, grace⟩ s.listOpen {})
  | .examining _ [] progress => some (s, .finished progress)
  | .examining pass (receipt :: rest) progress =>
    match pass.judge receipt (s.getMonotonicStart receipt.receiptId) with
    | none => some (s, .examining pass rest progress)
    | some reason => some (s, .resolving pass receipt reason rest progress)
  | .resolving pass receipt reason rest progress =>
    let (s', reply) := s.recordReconciled receipt.receiptId pass.nowUtc reason
    some (s', .examining pass rest (progress.note receipt.receiptId reply))
  | .called _ _ => none
  | .finished _ => none

def nextCall : EvidenceThread → Option EvidenceCall
  | .call c => some c
  | .restarting nowUtc (receipt :: _) _ =>
    some (.reconciled receipt.receiptId nowUtc .processRestart)
  | .resolving pass receipt reason _ _ => some (.reconciled receipt.receiptId pass.nowUtc reason)
  | _ => none

def progressOf : EvidenceThread → PassProgress
  | .restarting _ _ progress => progress
  | .examining _ _ progress => progress
  | .resolving _ _ _ _ progress => progress
  | .finished progress => progress
  | _ => {}

end EvidenceThread

namespace ExecutionEvidenceService

def applyNext (s : ExecutionEvidenceService) : Option EvidenceCall → ExecutionEvidenceService
  | none => s
  | some c => (s.apply c).1

end ExecutionEvidenceService

theorem EvidenceThread.step_shared {clock : Instant} {s s' : ExecutionEvidenceService}
    {t t' : EvidenceThread} (h : t.step clock s = some (s', t')) : s' = s.applyNext t.nextCall := by
  cases t with
  | call c =>
    cases h
    rfl
  | called c reply => cases h
  | startup nowUtc =>
    cases h
    rfl
  | restarting nowUtc rs progress =>
    cases rs with
    | nil =>
      cases h
      rfl
    | cons r rest =>
      cases h
      rfl
  | unresolved nowUtc monotonicNow grace =>
    cases h
    rfl
  | examining pass rs progress =>
    cases rs with
    | nil =>
      cases h
      rfl
    | cons r rest =>
      simp only [step] at h
      split at h <;> (cases h; rfl)
  | resolving pass r reason rest progress =>
    cases h
    rfl
  | finished progress => cases h

namespace EvidencePool

variable {p q : EvidencePool} {l : Nat × Instant} {ls : List (Nat × Instant)}

def calling (p : EvidencePool) (l : Nat × Instant) : Option EvidenceCall :=
  p.threads[l.1]?.bind EvidenceThread.nextCall

def exchange (p : EvidencePool) (l : Nat × Instant) :
    List (EvidenceCall × Except EvidenceError ExecutionReceipt) :=
  ((calling p l).map (fun c => (c, (p.shared.apply c).2))).toList

def callLog (ls : List (Nat × Instant)) (p : EvidencePool) :
    List (EvidenceCall × Except EvidenceError ExecutionReceipt) :=
  Pool.trace EvidenceThread.step exchange ls p

def movedToUnknown (log : List (EvidenceCall × Except EvidenceError ExecutionReceipt)) :
    List ExecutionReceipt :=
  log.filterMap (fun e => e.1.moved e.2)

theorem movedToUnknown_append
    (es ds : List (EvidenceCall × Except EvidenceError ExecutionReceipt)) :
    movedToUnknown (es ++ ds) = movedToUnknown es ++ movedToUnknown ds := List.filterMap_append

theorem fire_shared (h : Pool.fire EvidenceThread.step p l = some q) :
    q.shared = p.shared.applyNext (calling p l) := by
  obtain ⟨t, t', ht, hm, -⟩ := Pool.fire_eq_some h
  rw [calling, ht]
  exact EvidenceThread.step_shared hm

-- what a step of the pool is to the store: nothing, or one call that obeys the store's law
inductive StepLaw (p : EvidencePool) (l : Nat × Instant) (q : EvidencePool) : Prop where
  | silent (hnone : calling p l = none) (hshared : q.shared = p.shared)
  | called (c : EvidenceCall) (hc : calling p l = some c)
      (hobeys : p.shared.Obeys c q.shared (p.shared.apply c).2)

theorem fire_law (hp : p.shared.Consistent) (h : Pool.fire EvidenceThread.step p l = some q) :
    StepLaw p l q := by
  have hs := fire_shared h
  cases hc : calling p l with
  | none =>
    rw [hc] at hs
    exact .silent hc hs
  | some c =>
    rw [hc] at hs
    refine .called c hc ?_
    rw [hs]
    exact ExecutionEvidenceService.apply_obeys hp c

theorem fire_consistent (hp : p.shared.Consistent)
    (h : Pool.fire EvidenceThread.step p l = some q) :
    q.shared.Consistent ∧ q.shared.maxTerminalReceipts = p.shared.maxTerminalReceipts := by
  rw [fire_shared h]
  cases calling p l with
  | none => exact ⟨hp, rfl⟩
  | some c => exact (p.shared.apply_effect c).consistent hp

theorem run_consistent (hp : p.shared.Consistent)
    (h : Pool.run EvidenceThread.step ls p = some q) :
    q.shared.Consistent ∧ q.shared.maxTerminalReceipts = p.shared.maxTerminalReceipts := by
  refine Pool.run_invariant
    (fun r : EvidencePool => r.shared.Consistent ∧
      r.shared.maxTerminalReceipts = p.shared.maxTerminalReceipts) ?_ ⟨hp, rfl⟩ h
  intro p₁ l p₂ hp₁ hf
  obtain ⟨hc, hn⟩ := fire_consistent hp₁.1 hf
  exact ⟨hc, hn.trans hp₁.2⟩

theorem fire_counted (hp : p.shared.Consistent) (h : Pool.fire EvidenceThread.step p l = some q) :
    q.shared.reconciledUnknownCount =
      p.shared.reconciledUnknownCount + (movedToUnknown (exchange p l)).length := by
  cases fire_law hp h with
  | silent hnone hshared => simp [hshared, exchange, hnone, movedToUnknown]
  | called c hc hobeys =>
    rw [hobeys.counted]
    cases hm : c.moved (p.shared.apply c).2 <;> simp [exchange, hc, movedToUnknown, hm]

theorem run_counted (hp : p.shared.Consistent) (h : Pool.run EvidenceThread.step ls p = some q) :
    q.shared.reconciledUnknownCount =
      p.shared.reconciledUnknownCount + (movedToUnknown (callLog ls p)).length := by
  have hinv := Pool.run_trace_invariant exchange
    (fun es (r : EvidencePool) => r.shared.Consistent ∧ r.shared.reconciledUnknownCount =
      p.shared.reconciledUnknownCount + (movedToUnknown es).length) ?_
    [] ⟨hp, rfl⟩ h
  · exact hinv.2
  · intro es p₁ l p₂ hp₁ hf
    refine ⟨(fire_consistent hp₁.1 hf).1, ?_⟩
    rw [fire_counted hp₁.1 hf, hp₁.2, movedToUnknown_append, List.length_append, Nat.add_assoc]

def Retains (k : String) (p : EvidencePool) (_ : Nat × Instant) : Prop :=
  p.shared.receipts.contains k = true

instance (k : String) (p : EvidencePool) (l : Nat × Instant) : Decidable (Retains k p l) :=
  inferInstanceAs (Decidable (_ = true))

def Settles (r r' : ExecutionReceipt) : Prop :=
  r' = r ∨ (r.status = .started ∧ r'.status ≠ .started ∧
    r'.toReceiptIdentity = r.toReceiptIdentity)

theorem Settles.trans {r r₁ r₂ : ExecutionReceipt} (h₁ : Settles r r₁) (h₂ : Settles r₁ r₂) :
    Settles r r₂ := by
  rcases h₁ with rfl | ⟨hs, ht, hid⟩
  · exact h₂
  · rcases h₂ with rfl | ⟨hs', -, -⟩
    · exact .inr ⟨hs, ht, hid⟩
    · exact absurd hs' ht

theorem StepLaw.settles {k : String} {r r' : ExecutionReceipt} (h : StepLaw p l q)
    (hr : p.shared.receipts.get? k = some r) (hr' : q.shared.receipts.get? k = some r') :
    Settles r r' := by
  cases h with
  | silent hnone hshared =>
    rw [hshared, hr] at hr'
    cases hr'
    exact .inl rfl
  | called c hc hobeys =>
    rcases hobeys.lifecycle k r r' hr hr' with he | ⟨-, -, hs, ht, hid⟩
    · exact .inl he
    · exact .inr ⟨hs, ht, hid⟩

theorem run_settles {k : String} {r r' : ExecutionReceipt} (hp : p.shared.Consistent)
    (hkept : Pool.AllSteps EvidenceThread.step (Retains k) ls p)
    (h : Pool.run EvidenceThread.step ls p = some q) (hr : p.shared.receipts.get? k = some r)
    (hr' : q.shared.receipts.get? k = some r') : Settles r r' := by
  induction ls generalizing p r with
  | nil =>
    simp only [Pool.run, Option.some.injEq] at h
    rw [← h, hr] at hr'
    cases hr'
    exact .inl rfl
  | cons l ls ih =>
    obtain ⟨p₁, hf, hrest⟩ := Pool.run_cons h
    have hnext := hkept.2 p₁ hf
    have hr₁ : ∃ r₁, p₁.shared.receipts.get? k = some r₁ := by
      cases ls with
      | nil =>
        simp only [Pool.run, Option.some.injEq] at hrest
        exact ⟨r', hrest ▸ hr'⟩
      | cons l' ls => exact (Dict.contains_eq_true_iff _ _).mp hnext.1
    obtain ⟨r₁, hr₁⟩ := hr₁
    exact ((fire_law hp hf).settles hr hr₁).trans (ih (fire_consistent hp hf).1 hnext hrest hr₁)

end EvidencePool

end AgentSecurityPlatform
