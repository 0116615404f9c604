import AgentSecurityPlatform.Authority.Binding
import AgentSecurityPlatform.Lifecycle.Enforcement
import Mathlib.Data.Finset.Basic

namespace AgentSecurityPlatform

open PythonJson

def maxGrantTtlSeconds : Instant := 30 * 1000000

inductive IssuancePlane where
  | administrative
  | enforcement
  deriving DecidableEq, Repr

inductive ExecutionRefusalReason where
  | noAuthority
  | missingGrant
  | malformedGrant
  | foreignAuthority
  | invalidSignature
  | expired
  | consumed
  | revoked
  | toolMismatch
  | resourceMismatch
  | parameterMismatch
  | identityMismatch
  | invalidRequest
  deriving DecidableEq, Repr

structure ExecutionBindingError where
  reason : ExecutionRefusalReason
  toolId : Option String := none
  detail : String := ""
  deriving DecidableEq, Repr

structure GrantFields where
  grantId : String
  authorityId : String
  binding : ExecutionBinding
  issuedAt : Instant
  expiresAt : Instant
  agentId : String
  sessionId : String
  capabilityProfileId : Option String
  capabilityDigest : Option String
  deriving DecidableEq

structure RuntimeExecutionGrant extends GrantFields where
  signature : String
  grantId_ne : grantId ≠ ""
  authorityId_ne : authorityId ≠ ""
  agentId_ne : agentId ≠ ""
  sessionId_ne : sessionId ≠ ""
  signature_ne : signature ≠ ""

instance : DecidableEq RuntimeExecutionGrant := fun a b =>
  decidable_of_iff (a.toGrantFields = b.toGrantFields ∧ a.signature = b.signature)
    (by cases a; cases b; simp)

inductive IssueError where
  | stateUnavailable (e : RepositoryError)
  | validationError
  deriving DecidableEq, Repr

def RuntimeExecutionGrant.construct (f : GrantFields) (signature : String) :
    Option RuntimeExecutionGrant :=
  if h : f.grantId ≠ "" ∧ f.authorityId ≠ "" ∧ f.agentId ≠ "" ∧ f.sessionId ≠ "" ∧
      signature ≠ "" then
    some ⟨f, signature, h.1, h.2.1, h.2.2.1, h.2.2.2.1, h.2.2.2.2⟩
  else none

structure Signing where
  reprFloat : Instant → FloatText
  reprFloat_injective : Function.Injective reprFloat
  hmac : Str → String

structure OutstandingGrant where
  expiresAt : Instant
  agentId : String
  sessionId : String
  deriving DecidableEq, Repr

structure ExecutionAuthority where
  authorityId : String
  ttlSeconds : Instant
  outstanding : Dict String OutstandingGrant
  revoked : Dict String Instant
  issuanceClosed : Dict String (Finset IssuancePlane)

inductive Presented where
  | missing
  | foreign
  | grant (g : RuntimeExecutionGrant)

abbrev EnforcementReader := String → Except RepositoryError (Option AgentEnforcementState)

namespace Signing

def optionalField (key : String) : Option String → List (String × Value)
  | none => []
  | some v => [(key, .str (.ofString v))]

def payloadMembers (σ : Signing) (f : GrantFields) : List (String × Value) :=
  [("agent_id", .str (.ofString f.agentId)),
   ("authority_id", .str (.ofString f.authorityId)),
   ("binding", .str f.binding.canonicalJson),
   ("expires_at", .float (σ.reprFloat f.expiresAt)),
   ("grant_id", .str (.ofString f.grantId)),
   ("issued_at", .float (σ.reprFloat f.issuedAt)),
   ("session_id", .str (.ofString f.sessionId))] ++
    optionalField "capability_profile_id" f.capabilityProfileId ++
    optionalField "capability_digest" f.capabilityDigest

def payload (σ : Signing) (f : GrantFields) : Str :=
  renderRaw .compact (sorted (keyed (σ.payloadMembers f)))

def sign (σ : Signing) (f : GrantFields) : String := σ.hmac (σ.payload f)

end Signing

namespace ExecutionAuthority

def create (authorityId : String) (ttlSeconds : Instant) : Option ExecutionAuthority :=
  if ttlSeconds ≤ 0 then none
  else if maxGrantTtlSeconds < ttlSeconds then none
  else some ⟨authorityId, ttlSeconds, .empty, .empty, .empty⟩

def prune (a : ExecutionAuthority) (now : Instant) : ExecutionAuthority :=
  { a with
    outstanding := a.outstanding.filter (fun _ o => now < o.expiresAt)
    revoked := a.revoked.filter (fun _ e => now < e) }

def outstandingGrantCount (a : ExecutionAuthority) (now : Instant) : ExecutionAuthority × Nat :=
  (a.prune now, (a.prune now).outstanding.size)

def issuanceClosedPlanes (a : ExecutionAuthority) (agentId : String) : Finset IssuancePlane :=
  a.issuanceClosed.getD agentId ∅

def issuanceSuspended (a : ExecutionAuthority) (agentId : String) : Bool :=
  a.issuanceClosedPlanes agentId ≠ ∅

def newFields (a : ExecutionAuthority) (now : Instant) (uuid : String)
    (binding : ExecutionBinding) (agentId sessionId : String)
    (capabilityProfileId capabilityDigest : Option String) : GrantFields :=
  { grantId := "grant-" ++ uuid
    authorityId := a.authorityId
    binding
    issuedAt := now
    expiresAt := now + a.ttlSeconds
    agentId
    sessionId
    capabilityProfileId
    capabilityDigest }

def createGrant (σ : Signing) (a : ExecutionAuthority) (now : Instant) (uuid : String)
    (binding : ExecutionBinding) (agentId sessionId : String)
    (capabilityProfileId capabilityDigest : Option String) :
    ExecutionAuthority × Option RuntimeExecutionGrant :=
  let f := a.newFields now uuid binding agentId sessionId capabilityProfileId capabilityDigest
  let pruned := a.prune now
  ({ pruned with
      outstanding := pruned.outstanding.set f.grantId ⟨f.expiresAt, agentId, sessionId⟩ },
    RuntimeExecutionGrant.construct f (σ.sign f))

def epochMatches (repository : Option EnforcementReader) (agentId : String) :
    Option Nat → Except RepositoryError Bool
  | none => .ok true
  | some expected =>
    match repository with
    | none => .ok true
    | some read =>
      match read agentId with
      | .error e => .error e
      | .ok persisted => .ok ((match persisted with | some s => s.epoch | none => 0) = expected)

def issue (σ : Signing) (a : ExecutionAuthority) (now : Instant) (uuid : String)
    (repository : Option EnforcementReader) (binding : ExecutionBinding) (decision : Decision)
    (agentId sessionId : String) (expectedEpoch : Option Nat)
    (capabilityProfileId capabilityDigest : Option String) :
    ExecutionAuthority × Except IssueError (Option RuntimeExecutionGrant) :=
  if decision ≠ .allow then (a, .ok none)
  else if a.issuanceSuspended agentId then (a, .ok none)
  else
    match epochMatches repository agentId expectedEpoch with
    | .error e => (a, .error (.stateUnavailable e))
    | .ok false => (a, .ok none)
    | .ok true =>
      match a.createGrant σ now uuid binding agentId sessionId capabilityProfileId
        capabilityDigest with
      | (a', some g) => (a', .ok (some g))
      | (a', none) => (a', .error .validationError)

def verifyAuthenticity (σ : Signing) (a : ExecutionAuthority) (toolId : String) :
    Presented → Except ExecutionBindingError RuntimeExecutionGrant
  | .missing => .error ⟨.missingGrant, some toolId, ""⟩
  | .foreign => .error ⟨.malformedGrant, some toolId, "object is not an execution grant"⟩
  | .grant g =>
    if g.authorityId ≠ a.authorityId then
      .error ⟨.foreignAuthority, some toolId, "grant was not issued by this execution authority"⟩
    else if σ.sign g.toGrantFields ≠ g.signature then
      .error ⟨.invalidSignature, some toolId, "grant signature does not verify"⟩
    else .ok g

def requireExactMatch (authorized requested : ExecutionBinding) :
    Except ExecutionBindingError Unit :=
  if requested.toolId ≠ authorized.toolId then
    .error ⟨.toolMismatch, some requested.toolId,
      "requested tool differs from the authorized tool"⟩
  else if requested.toolVersion ≠ authorized.toolVersion then
    .error ⟨.toolMismatch, some requested.toolId,
      "requested tool version differs from the authorized tool version"⟩
  else if requested.resource ≠ authorized.resource then
    .error ⟨.resourceMismatch, some requested.toolId,
      "requested resource differs from the authorized resource"⟩
  else if requested.parameters ≠ authorized.parameters then
    .error ⟨.parameterMismatch, some requested.toolId,
      "requested parameters differ from the authorized parameters"⟩
  else .ok ()

def requireClaimableLocked (a : ExecutionAuthority) (now : Instant) (g : RuntimeExecutionGrant)
    (requested : ExecutionBinding) (toolId : String) :
    ExecutionAuthority × Except ExecutionBindingError Unit :=
  let pruned := a.prune now
  if g.expiresAt ≤ now then
    ({ pruned with outstanding := pruned.outstanding.erase g.grantId },
      .error ⟨.expired, some toolId, ""⟩)
  else if pruned.revoked.contains g.grantId then
    (pruned, .error ⟨.revoked, some toolId, "grant was revoked before use"⟩)
  else
    match pruned.outstanding.get? g.grantId with
    | none => (pruned, .error ⟨.consumed, some toolId, "grant has already been used"⟩)
    | some o =>
      if o.agentId ≠ g.agentId ∨ o.sessionId ≠ g.sessionId then
        (pruned, .error ⟨.identityMismatch, some toolId,
          "grant identity does not match the identity it was issued for"⟩)
      else (pruned, requireExactMatch g.binding requested)

def verifyGrant (σ : Signing) (a : ExecutionAuthority) (now : Instant) (presented : Presented)
    (requested : ExecutionBinding) : ExecutionAuthority × Except ExecutionBindingError Unit :=
  match a.verifyAuthenticity σ requested.toolId presented with
  | .error e => (a, .error e)
  | .ok g => a.requireClaimableLocked now g requested requested.toolId

def claimGrant (σ : Signing) (a : ExecutionAuthority) (now : Instant) (presented : Presented)
    (requested : ExecutionBinding) : ExecutionAuthority × Except ExecutionBindingError Unit :=
  match a.verifyAuthenticity σ requested.toolId presented with
  | .error e => (a, .error e)
  | .ok g =>
    match a.requireClaimableLocked now g requested requested.toolId with
    | (a', .error e) => (a', .error e)
    | (a', .ok ()) => ({ a' with outstanding := a'.outstanding.erase g.grantId }, .ok ())

def consumeGrant (a : ExecutionAuthority) (g : RuntimeExecutionGrant) : ExecutionAuthority :=
  { a with outstanding := a.outstanding.erase g.grantId }

def verifyAndConsume (σ : Signing) (a : ExecutionAuthority) (now : Instant)
    (presented : Presented) (requested : ExecutionBinding) :
    ExecutionAuthority × Except ExecutionBindingError Unit :=
  a.claimGrant σ now presented requested

def revokeAll (agentId : String) (outstanding : List (String × OutstandingGrant))
    (revoked : Dict String Instant) : Dict String Instant :=
  outstanding.foldl
    (fun r e => if e.2.agentId = agentId then r.set e.1 e.2.expiresAt else r) revoked

def suspendIssuance (a : ExecutionAuthority) (agentId : String)
    (plane : IssuancePlane := .enforcement) : ExecutionAuthority × Nat :=
  ({ a with
      issuanceClosed :=
        a.issuanceClosed.set agentId (insert plane (a.issuanceClosedPlanes agentId))
      outstanding := a.outstanding.filter (fun _ o => o.agentId ≠ agentId)
      revoked := revokeAll agentId a.outstanding.entries a.revoked },
    (a.outstanding.filter (fun _ o => o.agentId = agentId)).size)

def resumeIssuance (a : ExecutionAuthority) (agentId : String)
    (plane : IssuancePlane := .enforcement) : ExecutionAuthority :=
  match a.issuanceClosed.get? agentId with
  | none => a
  | some closed =>
    { a with
      issuanceClosed :=
        if closed.erase plane = ∅ then a.issuanceClosed.erase agentId
        else a.issuanceClosed.set agentId (closed.erase plane) }

end ExecutionAuthority

end AgentSecurityPlatform
