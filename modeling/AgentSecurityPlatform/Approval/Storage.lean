import AgentSecurityPlatform.Approval.Continuation
import AgentSecurityPlatform.Library.Refinement

namespace AgentSecurityPlatform

open PythonJson

namespace ApprovalContinuation

-- its parameters are JSON and its timestamps in UTC
structure Storable (readFloat : List Char → Value) (c : ApprovalContinuation) : Prop where
  parameters : ∃ ms, Loadable readFloat (.object ms) ∧
    c.binding.executionParameters = (PythonValue.ofJson (.object ms)).deepFreeze
  createdUtc : c.binding.createdAt.isUtc = true
  expiresUtc : c.binding.expiresAt.isUtc = true
  consumedUtc : ∀ at_, c.consumedAt = some at_ → at_.isUtc = true

-- the values a caller's == compares
def compared (c : ApprovalContinuation) : ApprovalContinuation :=
  { c with
    binding :=
      { c.binding with
        createdAt := c.binding.createdAt.compared
        expiresAt := c.binding.expiresAt.compared }
    consumedAt := c.consumedAt.map (·.compared) }

-- what its columns give back: everything but the two capability fields
def readBack (c : ApprovalContinuation) (column : TimestampColumn) : ApprovalContinuation where
  binding :=
    { c.binding with
      createdAt := column.readBack c.binding.createdAt
      expiresAt := column.readBack c.binding.expiresAt }
  state := c.state
  approvedBy := c.approvedBy
  consumedAt := c.consumedAt.map column.readBack

-- a later form of a continuation: state, approver and consumption aside, the same
def Moved (c later : ApprovalContinuation) : Prop :=
  later = { c with state := later.state, approvedBy := later.approvedBy,
                   consumedAt := later.consumedAt }

variable {d : Driver} {c later : ApprovalContinuation} {t : ContinuationTransition}
  {readFloat : List Char → Value}

theorem compared_readBack (h : c.Storable readFloat) (column : TimestampColumn) :
    (c.readBack column).compared =
      { c with capabilityProfileId := none, capabilityDigest := none }.compared := by
  have hkept {t : Timestamp} (ht : t.isUtc = true) : (column.readBack t).compared = t.compared :=
    TimestampColumn.compared_readBack_iff.mpr (column.keeps_of_isUtc ht)
  have hconsumed : (c.consumedAt.map column.readBack).map (·.compared) =
      c.consumedAt.map (·.compared) := by
    rw [Option.map_map]
    exact Option.map_congr fun at_ hat => hkept (h.consumedUtc at_ hat)
  simp only [compared, readBack, hkept h.createdUtc, hkept h.expiresUtc, hconsumed]

theorem Storable.move (h : c.Storable readFloat)
    (ht : ∀ at_, t.consumedAt = some at_ → at_.isUtc = true) : (c.move t).Storable readFloat where
  parameters := h.parameters
  createdUtc := h.createdUtc
  expiresUtc := h.expiresUtc
  consumedUtc := by
    intro at_ hat
    simp only [ApprovalContinuation.move, ContinuationTransition.writtenConsumption] at hat
    split at hat
    · exact ht at_ hat
    · exact h.consumedUtc at_ hat

theorem Moved.move (h : c.Moved later) (t : ContinuationTransition) : c.Moved (later.move t) := by
  rw [Moved] at h
  rw [h]
  rfl

theorem Moved.capabilities (h : c.Moved later) :
    later.capabilityProfileId = c.capabilityProfileId ∧
      later.capabilityDigest = c.capabilityDigest := by
  rw [Moved] at h
  rw [h]
  exact ⟨rfl, rfl⟩

theorem without_capabilities (hprofile : c.capabilityProfileId = none)
    (hdigest : c.capabilityDigest = none) :
    { c with capabilityProfileId := none, capabilityDigest := none } = c := by
  cases c
  cases hprofile
  cases hdigest
  rfl

end ApprovalContinuation

namespace ApprovalContinuationModel

variable {d : Driver} {c : ApprovalContinuation} {row : ApprovalContinuationModel}

theorem ofDomain_move (h : ofDomain c = some row) (t : ContinuationTransition) :
    ofDomain (c.move t) = some (row.move t) := by
  obtain ⟨parameters, hparameters, rfl⟩ := Option.map_eq_some_iff.mp h
  simp only [ofDomain, ApprovalContinuation.move, hparameters, Option.map_some]
  rfl

-- json.dumps takes what it holds, and the row gives it back
theorem ofDomain_of_storable (h : c.Storable d.readFloat) :
    ∃ row, ofDomain c = some row ∧ row.toDomain d = .ok (c.readBack d.toTimestampColumn) := by
  obtain ⟨ms, hload, hparameters⟩ := h.parameters
  simp only [ofDomain, hparameters, PythonValue.deepUnfreeze_deepFreeze, PythonValue.toJson_ofJson,
    Option.map_some]
  refine ⟨_, rfl, ?_⟩
  simp only [toDomain, parameters, loads_dumps _ hload, ContinuationState.ofValue_value,
    ContinuationBinding.freeze, ApprovalContinuation.readBack, ← hparameters]

theorem toDomain_ofDomain (h : c.Storable d.readFloat) (hrow : ofDomain c = some row) :
    row.toDomain d = .ok (c.readBack d.toTimestampColumn) := by
  obtain ⟨row', hrow', hread⟩ := ofDomain_of_storable h
  cases hrow.symm.trans hrow'
  exact hread

end ApprovalContinuationModel

-- the row and the in-memory grant of one continuation, at any point of its life
structure Mirrored (d : Driver) (c : ApprovalContinuation)
    (m : InMemoryApprovalContinuationRepository)
    (s : SqlApprovalContinuationRepository) (row : ApprovalContinuationModel)
    (later : ApprovalContinuation) : Prop where
  driver : s.driver = d
  stored : s.rows.get? c.grantId = some row
  grant : m.grants.get? c.grantId = some later
  columns : ApprovalContinuationModel.ofDomain later = some row
  storable : later.Storable d.readFloat
  moved : c.Moved later

-- a transition of one continuation, at a moment in UTC
def ContinuationTransition.IsOf (t : ContinuationTransition) (c : ApprovalContinuation) : Prop :=
  t.grantId = c.grantId ∧ ∀ at_, t.consumedAt = some at_ → at_.isUtc = true

namespace Mirrored

variable {d : Driver} {c later : ApprovalContinuation} {m : InMemoryApprovalContinuationRepository}
  {s : SqlApprovalContinuationRepository} {row : ApprovalContinuationModel}

theorem state_eq (h : Mirrored d c m s row later) : row.state = later.state.value := by
  obtain ⟨parameters, -, rfl⟩ := Option.map_eq_some_iff.mp h.columns
  rfl

theorem getContinuation (h : Mirrored d c m s row later) :
    s.getContinuation c.grantId = .ok (some (later.readBack d.toTimestampColumn)) := by
  simp only [SqlApprovalContinuationRepository.getContinuation, h.stored, h.driver,
    ApprovalContinuationModel.toDomain_ofDomain h.storable h.columns]
  rfl

theorem transition (h : Mirrored d c m s row later) {t : ContinuationTransition} (ht : t.IsOf c) :
    (m.transitionContinuation t).2 = (s.transitionContinuation t).2 ∧
      ∃ row' later',
        Mirrored d c (m.transitionContinuation t).1 (s.transitionContinuation t).1 row' later' := by
  simp only [SqlApprovalContinuationRepository.transitionContinuation,
    InMemoryApprovalContinuationRepository.transitionContinuation, ht.1, h.stored, h.grant]
  cases t.check with
  | error e => exact ⟨rfl, row, later, h⟩
  | ok _ =>
    simp only [SqlApprovalContinuationRepository.commitTransition, h.state_eq]
    by_cases hstate : later.state = t.fromState
    · simp only [hstate, ne_eq, not_true_eq_false, ↓reduceIte, true_and]
      refine ⟨row.move t, later.move t, ?_⟩
      exact { driver := h.driver
              stored := by simp [ht.1]
              grant := by simp
              columns := ApprovalContinuationModel.ofDomain_move h.columns t
              storable := h.storable.move ht.2
              moved := h.moved.move t }
    · have hvalue : later.state.value ≠ t.fromState.value :=
        fun heq => hstate (ContinuationState.value_injective heq)
      simp only [hstate, hvalue, ne_eq, not_false_eq_true, ↓reduceIte, true_and]
      exact ⟨row, later, h.driver, h.stored, h.grant, h.columns, h.storable, h.moved⟩

theorem refines (d : Driver) (c : ApprovalContinuation) :
    Run.Refines InMemoryApprovalContinuationRepository.transitionContinuation
      SqlApprovalContinuationRepository.transitionContinuation (fun _ t => t.IsOf c)
      (fun m s => ∃ row later, Mirrored d c m s row later) Eq where
  reply := by
    rintro m s t ⟨row, later, h⟩ ht
    exact (h.transition ht).1
  next := by
    rintro m s t ⟨row, later, h⟩ ht
    exact (h.transition ht).2

end Mirrored

namespace SqlApprovalContinuationRepository

variable {c : ApprovalContinuation} {s s' : SqlApprovalContinuationRepository}
  {refs : ReferencedRows} {m : InMemoryApprovalContinuationRepository}

theorem mirrored_create (h : c.Storable s.driver.readFloat)
    (hcreate : s.createContinuation refs c = (s', .ok ()))
    (m : InMemoryApprovalContinuationRepository) :
    ∃ row, Mirrored s.driver c (m.createContinuation c) s' row c := by
  simp only [createContinuation] at hcreate
  split at hcreate
  · cases hcreate
  · rename_i row hrow
    split at hcreate
    · cases hcreate
    · split at hcreate
      · cases hcreate
      · cases hcreate
        exact ⟨row, { driver := rfl
                      stored := by simp
                      grant := by simp [InMemoryApprovalContinuationRepository.createContinuation]
                      columns := hrow
                      storable := h
                      moved := rfl }⟩

structure Survives (c : ApprovalContinuation) (m : InMemoryApprovalContinuationRepository)
    (s : SqlApprovalContinuationRepository) : Prop where
  stored : ∃ c', s.getContinuation c.grantId = .ok (some c') ∧ c'.compared = c.compared
  evolves : ∀ ts : List ContinuationTransition, (∀ t ∈ ts, t.IsOf c) →
    Run.replies InMemoryApprovalContinuationRepository.transitionContinuation m ts =
        Run.replies transitionContinuation s ts ∧
      ∃ c' later,
        (Run.final transitionContinuation s ts).getContinuation c.grantId = .ok (some c') ∧
        (Run.final InMemoryApprovalContinuationRepository.transitionContinuation m
          ts).getContinuation
          c.grantId = some later ∧
        c'.compared = later.compared ∧ c.Moved later

theorem capabilities_lost {d : Driver} {row : ApprovalContinuationModel}
    (hmirrored : Mirrored d c m s row c)
    (h : ∃ c', s.getContinuation c.grantId = .ok (some c') ∧ c'.compared = c.compared) :
    c.capabilityProfileId = none ∧ c.capabilityDigest = none := by
  obtain ⟨c', hget, hequal⟩ := h
  rw [hmirrored.getContinuation] at hget
  cases hget
  have hprofile : none = c.capabilityProfileId := congrArg (·.capabilityProfileId) hequal
  have hdigest : none = c.capabilityDigest := congrArg (·.capabilityDigest) hequal
  exact ⟨hprofile.symm, hdigest.symm⟩

theorem continuation_survives_iff (h : c.Storable s.driver.readFloat)
    (hcreate : s.createContinuation refs c = (s', .ok ()))
    (m : InMemoryApprovalContinuationRepository) :
    Survives c (m.createContinuation c) s' ↔
      c.capabilityProfileId = none ∧ c.capabilityDigest = none := by
  obtain ⟨row, hmirrored⟩ := mirrored_create h hcreate m
  constructor
  · intro hsurvives
    exact capabilities_lost hmirrored hsurvives.stored
  · rintro ⟨hprofile, hdigest⟩
    have hequal {later : ApprovalContinuation} (hstorable : later.Storable s.driver.readFloat)
        (hmoved : c.Moved later) :
        (later.readBack s.driver.toTimestampColumn).compared = later.compared := by
      have hcapabilities := hmoved.capabilities
      rw [hprofile, hdigest] at hcapabilities
      rw [ApprovalContinuation.compared_readBack hstorable,
        ApprovalContinuation.without_capabilities hcapabilities.1 hcapabilities.2]
    refine ⟨⟨_, hmirrored.getContinuation, hequal h rfl⟩, ?_⟩
    intro ts hts
    have hmeets : Run.Meets InMemoryApprovalContinuationRepository.transitionContinuation
        (fun _ t => t.IsOf c) (m.createContinuation c) ts := Run.meets_of_forall _ hts
    have hrefines := Mirrored.refines s.driver c
    refine ⟨hrefines.replies_eq ⟨row, c, hmirrored⟩ hmeets, ?_⟩
    obtain ⟨row', later, hlater⟩ := hrefines.final ⟨row, c, hmirrored⟩ hmeets
    exact ⟨_, later, hlater.getContinuation, hlater.grant, hequal hlater.storable hlater.moved,
      hlater.moved⟩

def sampleDriver : Driver := ⟨.wallClock, FloatText.read⟩

def sampleParameters : List (Str × Value) :=
  [(.ofString "ticket", .str (.ofString "T-1")),
    (.ofString "notes", .array
      [.str (.ofString "first"), .object [(.ofString "seen", .bool true)]])]

def sampleContinuation (profile digest : Option String) : ApprovalContinuation where
  binding :=
    { grantId := "grant-1"
      sessionId := "session-1"
      agentId := "agent-1"
      toolId := "ticket_read"
      toolVersion := "1.0"
      executionParameters := (PythonValue.ofJson (.object sampleParameters)).deepFreeze
      originatingAuditEventId := "audit-1"
      riskScore := 10
      requiredResponse := "APPROVE"
      enforcementEpoch := 0
      createdAt := .utc 5
      expiresAt := .utc 9
      named := by decide }
  capabilityProfileId := profile
  capabilityDigest := digest

theorem storable_sample (profile digest : Option String) :
    (sampleContinuation profile digest).Storable sampleDriver.readFloat where
  parameters := by
    refine ⟨sampleParameters, ?_, rfl⟩
    simp only [sampleParameters, Loadable, LoadableMembers, LoadableItems, and_true]
    decide
  createdUtc := rfl
  expiresUtc := rfl
  consumedUtc := by
    intro at_ hat
    cases hat

def sampleRows : ReferencedRows := ⟨["session-1"], ["agent-1"], [("ticket_read", "1.0")]⟩

def sampleStored (profile digest : Option String) : SqlApprovalContinuationRepository :=
  ((empty sampleDriver).createContinuation sampleRows (sampleContinuation profile digest)).1

theorem sampleStored_created (profile digest : Option String) :
    (empty sampleDriver).createContinuation sampleRows (sampleContinuation profile digest) =
      (sampleStored profile digest, .ok ()) := rfl

theorem continuation_survives_sample :
    Survives (sampleContinuation none none)
      (InMemoryApprovalContinuationRepository.createContinuation ⟨.empty⟩
        (sampleContinuation none none)) (sampleStored none none) :=
  (continuation_survives_iff (storable_sample none none) (sampleStored_created none none)
    ⟨.empty⟩).mpr ⟨rfl, rfl⟩

theorem continuation_loses_capabilities :
    ¬ Survives (sampleContinuation (some "profile-1") (some "digest-1"))
      (InMemoryApprovalContinuationRepository.createContinuation ⟨.empty⟩
        (sampleContinuation (some "profile-1") (some "digest-1")))
      (sampleStored (some "profile-1") (some "digest-1")) := by
  intro hsurvives
  obtain ⟨row, hmirrored⟩ := mirrored_create (storable_sample (some "profile-1") (some "digest-1"))
    (sampleStored_created (some "profile-1") (some "digest-1")) ⟨.empty⟩
  obtain ⟨hprofile, -⟩ := capabilities_lost hmirrored hsurvives.stored
  cases hprofile

end SqlApprovalContinuationRepository

end AgentSecurityPlatform
