import AgentSecurityPlatform.Lifecycle.Enforcement

namespace AgentSecurityPlatform

inductive ExecutionStatus where
  | started
  | succeeded
  | failed
  | timeout
  | interrupted
  | unknown
  deriving DecidableEq, Repr

inductive ReconciliationReason where
  | processRestart
  | executionTimeout
  | workerLost
  | evidenceUnavailable
  deriving DecidableEq, Repr

structure ReceiptIdentity where
  receiptId : String
  grantId : String
  sessionId : String
  agentId : String
  requestId : String
  toolId : String
  toolVersion : String
  implementationId : String
  bindingHash : String
  capabilityProfileId : String
  capabilityDigest : String
  declaredTimeoutSeconds : Instant
  startedAt : Timestamp
  deriving DecidableEq, Repr

structure ReceiptFields extends ReceiptIdentity where
  status : ExecutionStatus
  completedAt : Option Timestamp := none
  reconciledAt : Option Timestamp := none
  durationMs : Option Int := none
  errorType : Option String := none
  errorCode : Option String := none
  reconciliationReason : Option ReconciliationReason := none
  outputDigest : Option String := none
  deriving DecidableEq, Repr

def ReceiptIdentity.named (i : ReceiptIdentity) : List String :=
  [i.receiptId, i.grantId, i.sessionId, i.agentId, i.requestId, i.toolId, i.toolVersion,
    i.implementationId, i.bindingHash, i.capabilityProfileId, i.capabilityDigest]

def ReceiptFields.valid (f : ReceiptFields) : Bool :=
  f.named.all (· ≠ "") && 0 < f.declaredTimeoutSeconds && f.startedAt.isUtc &&
    f.completedAt.all Timestamp.isUtc && f.reconciledAt.all Timestamp.isUtc &&
    f.durationMs.all (0 ≤ ·)

structure ExecutionReceipt extends ReceiptFields where
  isValid : toReceiptFields.valid = true
  deriving DecidableEq

def ExecutionReceipt.construct (f : ReceiptFields) : Option ExecutionReceipt :=
  if h : f.valid = true then some ⟨f, h⟩ else none

inductive EvidenceError where
  | duplicateReceipt (receiptId : String)
  | duplicateGrant (grantId receiptId : String)
  | notFound (receiptId : String)
  | transition (receiptId : String) (status : ExecutionStatus)
  | disallowedStatus (status : ExecutionStatus)
  | validation
  deriving DecidableEq, Repr

def EvidenceError.isTransition : EvidenceError → Bool
  | .transition _ _ => true
  | .disallowedStatus _ => true
  | _ => false

def allowedTerminalStatuses : List ExecutionStatus := [.succeeded, .failed, .timeout, .interrupted]

structure TerminalOutcome where
  status : ExecutionStatus
  completedAt : Timestamp
  durationMs : Int
  errorType : Option String := none
  errorCode : Option String := none
  outputDigest : Option String := none
  deriving DecidableEq, Repr

structure ExecutionEvidenceService where
  maxTerminalReceipts : Nat
  receipts : Dict String ExecutionReceipt
  grantToReceipt : Dict String String
  monotonicStarts : Dict String Instant
  evidenceFailureCount : Nat
  reconciledUnknownCount : Nat
  bound_pos : 1 ≤ maxTerminalReceipts

namespace ExecutionEvidenceService

def create (maxTerminalReceipts : Nat) (h : 1 ≤ maxTerminalReceipts) : ExecutionEvidenceService :=
  ⟨maxTerminalReceipts, .empty, .empty, .empty, 0, 0, h⟩

def terminals (s : ExecutionEvidenceService) : List ExecutionReceipt :=
  s.receipts.values.filter (·.status ≠ .started)

def listOpen (s : ExecutionEvidenceService) : List ExecutionReceipt :=
  s.receipts.values.filter (·.status = .started)

def get (s : ExecutionEvidenceService) (receiptId : String) : Option ExecutionReceipt :=
  s.receipts.get? receiptId

def getByGrant (s : ExecutionEvidenceService) (grantId : String) : Option ExecutionReceipt :=
  match s.grantToReceipt.get? grantId with
  | none => none
  | some receiptId => s.receipts.get? receiptId

def getMonotonicStart (s : ExecutionEvidenceService) (receiptId : String) : Option Instant :=
  s.monotonicStarts.get? receiptId

def evict (s : ExecutionEvidenceService) (r : ExecutionReceipt) : ExecutionEvidenceService :=
  { s with
    receipts := s.receipts.erase r.receiptId
    grantToReceipt := s.grantToReceipt.erase r.grantId
    monotonicStarts := s.monotonicStarts.erase r.receiptId }

def oldestFirst (rs : List ExecutionReceipt) : List ExecutionReceipt :=
  rs.insertionSort (fun r q => r.startedAt.instant ≤ q.startedAt.instant)

def excess (s : ExecutionEvidenceService) : Nat := s.terminals.length - s.maxTerminalReceipts

def pruneTerminalLocked (s : ExecutionEvidenceService) : ExecutionEvidenceService :=
  ((oldestFirst s.terminals).take s.excess).foldl evict s

def countEvidenceFailure (s : ExecutionEvidenceService) : ExecutionEvidenceService :=
  { s with evidenceFailureCount := s.evidenceFailureCount + 1 }

def opening (s : ExecutionEvidenceService) (r : ExecutionReceipt)
    (monotonicStart : Option Instant) :
    ExecutionEvidenceService :=
  { s with
    receipts := s.receipts.set r.receiptId r
    grantToReceipt := s.grantToReceipt.set r.grantId r.receiptId
    monotonicStarts :=
      match monotonicStart with
      | none => s.monotonicStarts
      | some t => s.monotonicStarts.set r.receiptId t }

def recordStarted (s : ExecutionEvidenceService) (i : ReceiptIdentity)
    (monotonicStart : Option Instant) :
    ExecutionEvidenceService × Except EvidenceError ExecutionReceipt :=
  if s.receipts.contains i.receiptId then
    (s.countEvidenceFailure, .error (.duplicateReceipt i.receiptId))
  else
    match s.grantToReceipt.get? i.grantId with
    | some bound => (s.countEvidenceFailure, .error (.duplicateGrant i.grantId bound))
    | none =>
      match ExecutionReceipt.construct { i with status := .started } with
      | none => (s, .error .validation)
      | some receipt => (s.opening receipt monotonicStart, .ok receipt)

def close (s : ExecutionEvidenceService) (r : ExecutionReceipt) : ExecutionEvidenceService :=
  { s with
    receipts := s.receipts.set r.receiptId r
    monotonicStarts := s.monotonicStarts.erase r.receiptId }

def recordTerminal (s : ExecutionEvidenceService) (receiptId : String) (o : TerminalOutcome) :
    ExecutionEvidenceService × Except EvidenceError ExecutionReceipt :=
  if o.status ∉ allowedTerminalStatuses then (s, .error (.disallowedStatus o.status))
  else
    match s.receipts.get? receiptId with
    | none => (s, .error (.notFound receiptId))
    | some existing =>
      if existing.status ≠ .started then (s, .error (.transition receiptId existing.status))
      else
        match ExecutionReceipt.construct
          { existing.toReceiptIdentity with
            status := o.status
            completedAt := some o.completedAt
            durationMs := some o.durationMs
            errorType := o.errorType
            errorCode := o.errorCode
            outputDigest := o.outputDigest } with
        | none => (s, .error .validation)
        | some terminal => ((s.close terminal).pruneTerminalLocked, .ok terminal)

def recordReconciled (s : ExecutionEvidenceService) (receiptId : String) (reconciledAt : Timestamp)
    (reason : ReconciliationReason) :
    ExecutionEvidenceService × Except EvidenceError ExecutionReceipt :=
  match s.receipts.get? receiptId with
  | none => (s, .error (.notFound receiptId))
  | some existing =>
    if existing.status ≠ .started then (s, .error (.transition receiptId existing.status))
    else
      match ExecutionReceipt.construct
        { existing.toReceiptIdentity with
          status := .unknown
          reconciledAt := some reconciledAt
          reconciliationReason := some reason } with
      | none => (s, .error .validation)
      | some reconciled =>
        ({ s.close reconciled with
            reconciledUnknownCount := s.reconciledUnknownCount + 1 }.pruneTerminalLocked,
          .ok reconciled)

end ExecutionEvidenceService

inductive EvidenceCall where
  | started (i : ReceiptIdentity) (monotonicStart : Option Instant)
  | terminal (receiptId : String) (o : TerminalOutcome)
  | reconciled (receiptId : String) (reconciledAt : Timestamp) (reason : ReconciliationReason)
  deriving DecidableEq, Repr

def EvidenceCall.receiptId : EvidenceCall → String
  | .started i _ => i.receiptId
  | .terminal receiptId _ => receiptId
  | .reconciled receiptId _ _ => receiptId

def ExecutionEvidenceService.apply (s : ExecutionEvidenceService) :
    EvidenceCall → ExecutionEvidenceService × Except EvidenceError ExecutionReceipt
  | .started i monotonicStart => s.recordStarted i monotonicStart
  | .terminal receiptId o => s.recordTerminal receiptId o
  | .reconciled receiptId reconciledAt reason => s.recordReconciled receiptId reconciledAt reason

end AgentSecurityPlatform
