import AgentSecurityPlatform.Authority.Claimability
import AgentSecurityPlatform.Executor.ToolExecutor

namespace AgentSecurityPlatform

-- the three entry points differ only in where the identity and the tool handle come from
structure ExecutionPlan where
  toolId : String
  toolVersion : String
  parameters : Parameters
  grant : Option RuntimeExecutionGrant
  context : Option RuntimeContext
  tool : Except ExecutorError BaseTool
  implementationId : Option String

def ExecutionPlan.ofDescriptor (descriptor : ExecutableDescriptor) (parameters : Parameters)
    (context : Option RuntimeContext) (grant : Option RuntimeExecutionGrant) :
    Except ExecutorError ExecutionPlan :=
  if !descriptor.enabled then .error (.toolDisabled descriptor.toolId)
  else
    .ok
      { toolId := descriptor.toolId
        toolVersion := descriptor.version
        parameters
        grant
        context
        tool := instantiate descriptor
        implementationId := descriptor.implementationId }

-- what a verified call still has to claim, and what it will run with
structure Verification where
  grant : RuntimeExecutionGrant
  requested : ExecutionBinding
  capabilities : ExecutionCapabilities

structure VerificationAttempt (ω : Type) where
  authority : ExecutionAuthority
  calls : List (ExecutorCall ω)
  result : Except ExecutorError Verification

open ExecutionAuthority SingleUse

namespace DefaultToolExecutor

variable {ω : Type} {x : DefaultToolExecutor ω} {t : ExecutorTick} {a : ExecutionAuthority}
  {p : ExecutionPlan}

def resolveDescriptor (x : DefaultToolExecutor ω) :
    Option RuntimeExecutionGrant → Except ExecutorError ExecutableDescriptor
  | none => .error (.binding ⟨.missingGrant, some "", ""⟩)
  | some g =>
    match x.toolRegistry with
    | none => .error (.binding ⟨.noAuthority, some g.binding.toolId,
        "executor is not bound to a tool registry and cannot materialise the implementation " ++
          "this grant authorises"⟩)
    | some registry =>
      match registry.resolveVersion g.binding.toolId g.binding.toolVersion with
      | .error e => .error (.registry e)
      | .ok descriptor => .ok descriptor

def plan (x : DefaultToolExecutor ω) : ExecutorRequest → Except ExecutorError ExecutionPlan
  | .execute grant parameters context =>
    match x.resolveDescriptor grant with
    | .error e => .error e
    | .ok descriptor => ExecutionPlan.ofDescriptor descriptor parameters context grant
  | .executeDescriptor descriptor parameters context grant =>
    ExecutionPlan.ofDescriptor descriptor parameters context grant
  | .executeTool tool parameters context grant implementationId =>
    .ok
      { toolId := tool.toolId
        toolVersion := tool.version
        parameters
        grant
        context
        tool := .ok tool
        implementationId }

def prepare (x : DefaultToolExecutor ω) (t : ExecutorTick) (a : ExecutionAuthority)
    (p : ExecutionPlan) : Preparation ω :=
  x.verifyAndPrepare t a p.toolId p.toolVersion p.parameters p.grant p.context

-- up to the release of the authority's lock: the grant is verified and the capabilities resolved
def verify (x : DefaultToolExecutor ω) (t : ExecutorTick) (a : ExecutionAuthority)
    (p : ExecutionPlan) : VerificationAttempt ω :=
  if !x.hasAuthority then
    ⟨a, [], .error (.binding ⟨.noAuthority, some p.toolId,
      "executor is not bound to an execution authority"⟩)⟩
  else
    match p.grant with
    | none => ⟨a, [], .error (.binding ⟨.missingGrant, some p.toolId, ""⟩)⟩
    | some g =>
      match ExecutionBinding.fromOperation p.toolId p.toolVersion p.parameters none with
      | none =>
        ⟨a, [], .error (.binding ⟨.invalidRequest, some p.toolId, bindingRejection p.parameters⟩)⟩
      | some requested =>
        match a.verifyGrant x.signing t.verifiedAt (.grant g) requested with
        | (verified, .error e) => ⟨verified, [.verifyGrant g requested false], .error (.binding e)⟩
        | (verified, .ok ()) =>
          match x.admission g p.context p.toolId with
          | .error e => ⟨verified, [.verifyGrant g requested true], .error e⟩
          | .ok capabilities =>
            ⟨verified, [.verifyGrant g requested true], .ok ⟨g, requested, capabilities⟩⟩

-- the grant is checked again and removed inside one hold of the lock
def claim (x : DefaultToolExecutor ω) (t : ExecutorTick) (a : ExecutionAuthority)
    (v : Verification) : Preparation ω :=
  match a.claimGrant x.signing t.claimedAt (.grant v.grant) v.requested with
  | (claimed, .error e) => ⟨claimed, [.claimGrant v.grant v.requested false], .error (.binding e)⟩
  | (claimed, .ok ()) =>
    ⟨claimed, [.claimGrant v.grant v.requested true], .ok (v.grant, v.capabilities)⟩

-- preparing is verifying and then claiming with nothing in between
theorem prepare_eq (x : DefaultToolExecutor ω) (t : ExecutorTick) (a : ExecutionAuthority)
    (p : ExecutionPlan) :
    x.prepare t a p =
      match (x.verify t a p).result with
      | .error e => ⟨(x.verify t a p).authority, (x.verify t a p).calls, .error e⟩
      | .ok v =>
        ⟨(x.claim t (x.verify t a p).authority v).authority,
          (x.verify t a p).calls ++ (x.claim t (x.verify t a p).authority v).calls,
          (x.claim t (x.verify t a p).authority v).result⟩ := by
  unfold prepare verifyAndPrepare verify
  cases x.hasAuthority with
  | false => rfl
  | true =>
    cases p.grant with
    | none => rfl
    | some g =>
      cases ExecutionBinding.fromOperation p.toolId p.toolVersion p.parameters none with
      | none => rfl
      | some requested =>
        rcases hv : a.verifyGrant x.signing t.verifiedAt (.grant g) requested with ⟨verified, e | _⟩
        · simp only [Bool.not_true, Bool.false_eq_true, if_false, hv]
        · cases ha : x.admission g p.context p.toolId with
          | error e => simp only [Bool.not_true, Bool.false_eq_true, if_false, hv, ha]
          | ok capabilities =>
            simp only [Bool.not_true, Bool.false_eq_true, if_false, hv, ha, claim]
            rcases verified.claimGrant x.signing t.claimedAt (.grant g) requested with
              ⟨claimed, e | _⟩ <;> rfl

def carryOut (x : DefaultToolExecutor ω) (t : ExecutorTick) (a : ExecutionAuthority)
    (p : ExecutionPlan) : Attempt ω :=
  match (x.prepare t a p).result with
  | .error e => ⟨(x.prepare t a p).authority, (x.prepare t a p).calls, .error e⟩
  | .ok (g, capabilities) =>
    match p.tool with
    | .error e => ⟨(x.prepare t a p).authority, (x.prepare t a p).calls, .error e⟩
    | .ok tool =>
      ⟨(x.prepare t a p).authority,
        (x.prepare t a p).calls ++
          (x.run t tool p.parameters capabilities g p.context p.implementationId).1,
        (x.run t tool p.parameters capabilities g p.context p.implementationId).2⟩

theorem executeResolved_eq (descriptor : ExecutableDescriptor) (parameters : Parameters)
    (context : Option RuntimeContext) (grant : Option RuntimeExecutionGrant) :
    x.executeResolved t a descriptor parameters context grant =
      match ExecutionPlan.ofDescriptor descriptor parameters context grant with
      | .error e => ⟨a, [], .error e⟩
      | .ok p => x.carryOut t a p := by
  unfold executeResolved ExecutionPlan.ofDescriptor
  cases descriptor.enabled with
  | false => rfl
  | true => rfl

theorem serve_eq (x : DefaultToolExecutor ω) (t : ExecutorTick) (a : ExecutionAuthority)
    (req : ExecutorRequest) :
    x.serve t a req =
      match x.plan req with
      | .error e => ⟨a, [], .error e⟩
      | .ok p => x.carryOut t a p := by
  cases req with
  | execute grant parameters context =>
    simp only [serve, execute, plan, resolveDescriptor]
    cases grant with
    | none => rfl
    | some g =>
      cases x.toolRegistry with
      | none => rfl
      | some registry =>
        simp only
        cases registry.resolveVersion g.binding.toolId g.binding.toolVersion with
        | error e => rfl
        | ok descriptor => exact executeResolved_eq descriptor parameters context (some g)
  | executeDescriptor descriptor parameters context grant =>
    exact executeResolved_eq descriptor parameters context grant
  | executeTool tool parameters context grant implementationId => rfl

theorem ofDescriptor_grant {descriptor : ExecutableDescriptor} {parameters : Parameters}
    {context : Option RuntimeContext} {grant : Option RuntimeExecutionGrant} {p : ExecutionPlan}
    (h : ExecutionPlan.ofDescriptor descriptor parameters context grant = .ok p) :
    p.grant = grant := by
  unfold ExecutionPlan.ofDescriptor at h
  split at h
  · cases h
  · cases h
    rfl

theorem plan_grant {req : ExecutorRequest} {p : ExecutionPlan} (h : x.plan req = .ok p) :
    p.grant = req.grant := by
  cases req with
  | execute grant parameters context =>
    simp only [plan] at h
    split at h
    · cases h
    · exact ofDescriptor_grant h
  | executeDescriptor descriptor parameters context grant => exact ofDescriptor_grant h
  | executeTool tool parameters context grant implementationId =>
    cases h
    rfl

inductive Prepares (x : DefaultToolExecutor ω) (t : ExecutorTick) (a : ExecutionAuthority)
    (p : ExecutionPlan) : Preparation ω → Prop where
  | unexamined (e : ExecutionBindingError) : Prepares x t a p ⟨a, [], .error (.binding e)⟩
  | unverified (g : RuntimeExecutionGrant) (requested : ExecutionBinding)
      (verified : ExecutionAuthority) (e : ExecutionBindingError) (hg : p.grant = some g)
      (hv : a.verifyGrant x.signing t.verifiedAt (.grant g) requested = (verified, .error e)) :
      Prepares x t a p ⟨verified, [.verifyGrant g requested false], .error (.binding e)⟩
  | unadmitted (g : RuntimeExecutionGrant) (requested : ExecutionBinding)
      (verified : ExecutionAuthority) (e : ExecutorError) (hg : p.grant = some g)
      (hv : a.verifyGrant x.signing t.verifiedAt (.grant g) requested = (verified, .ok ()))
      (he : x.admission g p.context p.toolId = .error e) :
      Prepares x t a p ⟨verified, [.verifyGrant g requested true], .error e⟩
  | unclaimed (g : RuntimeExecutionGrant) (requested : ExecutionBinding)
      (verified claimed : ExecutionAuthority) (e : ExecutionBindingError) (hg : p.grant = some g)
      (hv : a.verifyGrant x.signing t.verifiedAt (.grant g) requested = (verified, .ok ()))
      (hc : verified.claimGrant x.signing t.claimedAt (.grant g) requested = (claimed, .error e)) :
      Prepares x t a p
        ⟨claimed, [.verifyGrant g requested true, .claimGrant g requested false],
          .error (.binding e)⟩
  | claimed (g : RuntimeExecutionGrant) (requested : ExecutionBinding)
      (verified claimed : ExecutionAuthority) (capabilities : ExecutionCapabilities)
      (hg : p.grant = some g)
      (hr : ExecutionBinding.fromOperation p.toolId p.toolVersion p.parameters none =
        some requested)
      (hv : a.verifyGrant x.signing t.verifiedAt (.grant g) requested = (verified, .ok ()))
      (ha : x.admission g p.context p.toolId = .ok capabilities)
      (hc : verified.claimGrant x.signing t.claimedAt (.grant g) requested = (claimed, .ok ())) :
      Prepares x t a p
        ⟨claimed, [.verifyGrant g requested true, .claimGrant g requested true],
          .ok (g, capabilities)⟩

theorem prepare_prepares (x : DefaultToolExecutor ω) (t : ExecutorTick) (a : ExecutionAuthority)
    (p : ExecutionPlan) : Prepares x t a p (x.prepare t a p) := by
  unfold prepare verifyAndPrepare
  split
  · exact .unexamined _
  · split
    · exact .unexamined _
    · rename_i g hg
      split
      · exact .unexamined _
      · rename_i requested hr
        split
        · rename_i verified e hv
          exact .unverified g requested verified e hg hv
        · rename_i verified hv
          split
          · rename_i e he
            exact .unadmitted g requested verified e hg hv he
          · rename_i capabilities ha
            split
            · rename_i claimed e hc
              exact .unclaimed g requested verified claimed e hg hv hc
            · rename_i claimed hc
              exact .claimed g requested verified claimed capabilities hg hr hv ha hc

inductive Verifies (x : DefaultToolExecutor ω) (t : ExecutorTick) (a : ExecutionAuthority)
    (p : ExecutionPlan) : VerificationAttempt ω → Prop where
  | unexamined (e : ExecutionBindingError) : Verifies x t a p ⟨a, [], .error (.binding e)⟩
  | unverified (g : RuntimeExecutionGrant) (requested : ExecutionBinding)
      (verified : ExecutionAuthority) (e : ExecutionBindingError)
      (hv : a.verifyGrant x.signing t.verifiedAt (.grant g) requested = (verified, .error e)) :
      Verifies x t a p ⟨verified, [.verifyGrant g requested false], .error (.binding e)⟩
  | unadmitted (g : RuntimeExecutionGrant) (requested : ExecutionBinding)
      (verified : ExecutionAuthority) (e : ExecutorError)
      (hv : a.verifyGrant x.signing t.verifiedAt (.grant g) requested = (verified, .ok ())) :
      Verifies x t a p ⟨verified, [.verifyGrant g requested true], .error e⟩
  | verified (v : Verification) (verified : ExecutionAuthority) (hg : p.grant = some v.grant)
      (hr : ExecutionBinding.fromOperation p.toolId p.toolVersion p.parameters none =
        some v.requested)
      (hv : a.verifyGrant x.signing t.verifiedAt (.grant v.grant) v.requested = (verified, .ok ()))
      (ha : x.admission v.grant p.context p.toolId = .ok v.capabilities) :
      Verifies x t a p ⟨verified, [.verifyGrant v.grant v.requested true], .ok v⟩

theorem verify_verifies (x : DefaultToolExecutor ω) (t : ExecutorTick) (a : ExecutionAuthority)
    (p : ExecutionPlan) : Verifies x t a p (x.verify t a p) := by
  unfold verify
  split
  · exact .unexamined _
  · split
    · exact .unexamined _
    · rename_i g hg
      split
      · exact .unexamined _
      · rename_i requested hr
        split
        · rename_i verified e hv
          exact .unverified g requested verified e hv
        · rename_i verified hv
          split
          · exact .unadmitted g requested verified _ hv
          · rename_i capabilities ha
            exact .verified ⟨g, requested, capabilities⟩ verified hg hr hv ha

theorem claim_cases (x : DefaultToolExecutor ω) (t : ExecutorTick) (a : ExecutionAuthority)
    (v : Verification) :
    (∃ claimed e, a.claimGrant x.signing t.claimedAt (.grant v.grant) v.requested =
        (claimed, .error e) ∧
      x.claim t a v = ⟨claimed, [.claimGrant v.grant v.requested false], .error (.binding e)⟩) ∨
    ∃ claimed, a.claimGrant x.signing t.claimedAt (.grant v.grant) v.requested = (claimed, .ok ()) ∧
      x.claim t a v =
        ⟨claimed, [.claimGrant v.grant v.requested true], .ok (v.grant, v.capabilities)⟩ := by
  unfold claim
  rcases a.claimGrant x.signing t.claimedAt (.grant v.grant) v.requested with ⟨claimed, e | _⟩
  · exact .inl ⟨claimed, e, rfl, rfl⟩
  · exact .inr ⟨claimed, rfl, rfl⟩

theorem verifyCapabilityBinding_ok_iff {h : CapabilityHashing} {g : RuntimeExecutionGrant}
    {c : ExecutionCapabilities} {toolId : String} :
    verifyCapabilityBinding h g c toolId = .ok () ↔
      g.capabilityProfileId = some c.capabilityProfileId ∧
      g.capabilityDigest = some (c.computeDigest h) := by
  unfold verifyCapabilityBinding
  cases g.capabilityProfileId with
  | none => simp
  | some profile =>
    by_cases hp : profile = c.capabilityProfileId
    · cases g.capabilityDigest with
      | none => simp [hp]
      | some digest =>
        by_cases hd : c.computeDigest h = digest
        · simp [hp, hd]
        · simp [hp, hd, Ne.symm hd]
    · simp [hp]

theorem resolveCapabilities_ok_iff {g : RuntimeExecutionGrant} {toolId : String}
    {c : ExecutionCapabilities} :
    x.resolveCapabilities g toolId = .ok c ↔
      x.sandbox.isSome = true ∧ c.capabilityProfileId ≠ "" ∧
      (∃ registry, x.capabilityRegistry = some registry ∧
        registry.get? c.capabilityProfileId = some c) ∧
      g.capabilityProfileId = some c.capabilityProfileId ∧
      g.capabilityDigest = some (c.computeDigest x.capabilityHashing) := by
  unfold resolveCapabilities
  constructor
  · intro h
    split at h
    · cases h
    · rename_i hs
      split at h
      · cases h
      · rename_i profile hp
        split at h
        · cases h
        · rename_i registry hr
          split at h
          · cases h
          · rename_i capabilities hc
            cases hv : verifyCapabilityBinding x.capabilityHashing g capabilities toolId with
            | error e =>
              rw [hv] at h
              cases h
            | ok u =>
              rw [hv] at h
              cases h
              obtain ⟨hprofile, hdigest⟩ := verifyCapabilityBinding_ok_iff.mp hv
              obtain ⟨hp', hne⟩ := Option.filter_eq_some_iff.mp hp
              rw [hprofile] at hp'
              cases hp'
              exact ⟨by simpa [Option.isSome_iff_ne_none] using hs, by simpa using hne,
                ⟨registry, hr, hc⟩, hprofile, hdigest⟩
  · rintro ⟨hs, hne, ⟨registry, hr, hc⟩, hprofile, hdigest⟩
    have hsandbox : x.sandbox.isNone = false := by simpa [Option.isSome_iff_ne_none] using hs
    have hnonempty : nonEmpty g.capabilityProfileId = some c.capabilityProfileId := by
      simp [nonEmpty, hprofile, hne]
    simp only [hsandbox, Bool.false_eq_true, if_false, hnonempty, hr, hc,
      verifyCapabilityBinding_ok_iff.mpr ⟨hprofile, hdigest⟩]
    rfl

theorem admission_ok {g : RuntimeExecutionGrant} {context : Option RuntimeContext} {toolId : String}
    {c : ExecutionCapabilities} (h : x.admission g context toolId = .ok c) :
    x.resolveCapabilities g toolId = .ok c := by
  unfold admission at h
  split at h
  · cases h
  · exact h

theorem admission_none (g : RuntimeExecutionGrant) (toolId : String) :
    x.admission g none toolId = x.resolveCapabilities g toolId := rfl

-- every check up to the claim passes
structure Claims (x : DefaultToolExecutor ω) (t : ExecutorTick) (a : ExecutionAuthority)
    (p : ExecutionPlan) (g : RuntimeExecutionGrant) (requested : ExecutionBinding) : Prop where
  bound : x.hasAuthority = true
  grant : p.grant = some g
  operation : ExecutionBinding.fromOperation p.toolId p.toolVersion p.parameters none =
    some requested
  verifies : (a.verifyGrant x.signing t.verifiedAt (.grant g) requested).2 = .ok ()
  admitted : ∃ capabilities, x.admission g p.context p.toolId = .ok capabilities
  unexpired : t.claimedAt < g.expiresAt

theorem verifyGrant_authentic {g : RuntimeExecutionGrant} {requested : ExecutionBinding}
    (hexpiry : RecordsExpiry a g)
    (h : (a.verifyGrant x.signing t.verifiedAt (.grant g) requested).2 = .ok ()) :
    a.verifyGrant x.signing t.verifiedAt (.grant g) requested = (a.prune t.verifiedAt, .ok ()) := by
  obtain ⟨hauthority, hsign, -⟩ := verifyGrant_ok_iff.mp h
  refine Prod.ext ?_ h
  simp only [verifyGrant, verifyAuthenticity, hauthority, hsign, ne_eq, not_true_eq_false, if_false]
  exact requireClaimableLocked_prunes _ _ hexpiry _

theorem Claims.prepares {g : RuntimeExecutionGrant} {requested : ExecutionBinding}
    (h : Claims x t a p g requested) (ht : t.verifiedAt ≤ t.claimedAt)
    (hexpiry : RecordsExpiry a g) :
    ∃ capabilities, x.admission g p.context p.toolId = .ok capabilities ∧
      (x.prepare t a p).result = .ok (g, capabilities) ∧
      (x.prepare t a p).authority.outstanding.get? g.grantId = none ∧
      (x.prepare t a p).calls = [.verifyGrant g requested true, .claimGrant g requested true] := by
  obtain ⟨capabilities, hadmission⟩ := h.admitted
  obtain ⟨hauthority, hsign, hpresentable⟩ := verifyGrant_ok_iff.mp h.verifies
  have hverified := verifyGrant_authentic hexpiry h.verifies
  have hclaim : ((a.prune t.verifiedAt).claimGrant x.signing t.claimedAt (.grant g) requested).2 =
      .ok () :=
    claimGrant_ok_iff.mpr ⟨hauthority, hsign, hpresentable.later ht hexpiry h.unexpired⟩
  have hclaimed : (a.prune t.verifiedAt).claimGrant x.signing t.claimedAt (.grant g) requested =
      (((a.prune t.verifiedAt).claimGrant x.signing t.claimedAt (.grant g) requested).1, .ok ()) :=
    Prod.ext rfl hclaim
  refine ⟨capabilities, hadmission, ?_⟩
  simp only [prepare, verifyAndPrepare, h.bound, h.grant, h.operation, hverified, hadmission]
  rw [hclaimed]
  exact ⟨rfl, claimGrant_removes hclaim, rfl⟩

theorem prepare_claims {g : RuntimeExecutionGrant} {capabilities : ExecutionCapabilities}
    (h : (x.prepare t a p).result = .ok (g, capabilities)) :
    ∃ requested, Claims x t a p g requested ∧
      x.admission g p.context p.toolId = .ok capabilities := by
  have hbound : x.hasAuthority = true := by
    by_contra hb
    simp only [prepare, verifyAndPrepare, Bool.eq_false_iff.mpr hb] at h
    cases h
  have hcases := prepare_prepares x t a p
  generalize x.prepare t a p = prep at h hcases
  cases hcases with
  | unexamined e => cases h
  | unverified g requested verified e => cases h
  | unadmitted g requested verified e => cases h
  | unclaimed g requested verified claimed e => cases h
  | claimed g' requested verified claimed capabilities' hg hr hv ha hc =>
    cases h
    obtain ⟨-, -, hpresentable⟩ := claimGrant_ok_iff.mp (congrArg Prod.snd hc)
    exact ⟨requested, ⟨hbound, hg, hr, congrArg Prod.snd hv, ⟨capabilities, ha⟩,
      hpresentable.unexpired⟩, ha⟩

def sampleProfile : ExecutionCapabilities :=
  { capabilityProfileId := "profile-read_file", filesystem := { workspaceRoot := "/srv/files" } }

def sampleHashing : CapabilityHashing :=
  ⟨PythonJson.FloatText.ofMicroseconds, fun text => "sha256:" ++ text⟩

def sampleFields : GrantFields :=
  sampleAuthority.newFields 0 "1" sampleBinding "agent-1" "session-1"
    (some sampleProfile.capabilityProfileId) (some (sampleProfile.computeDigest sampleHashing))

def sampleIssue : AuthorityCall :=
  ⟨0, "1", .issue none sampleBinding .allow "agent-1" "session-1" none
    (some sampleProfile.capabilityProfileId) (some (sampleProfile.computeDigest sampleHashing))⟩

def sampleGranted : RuntimeExecutionGrant :=
  ⟨sampleFields, Signing.reference.sign sampleFields, by decide, by decide, by decide, by decide,
    Signing.reference_sign_ne _⟩

def sampleDescriptor (implementationId : Option String) : ExecutableDescriptor :=
  { toolId := "read_file"
    version := "1.0.0"
    category := "helpdesk"
    instanceTool := some ⟨"read_file", "1.0.0"⟩
    implementationId }

def sampleRegistry (implementationId : Option String) : Option ExecutableRegistry :=
  (ExecutableRegistry.empty.register ⟨"read_file", "1.0.0"⟩ "helpdesk" implementationId).toOption

def sampleExecutor (implementationId : Option String) : DefaultToolExecutor Nat :=
  { hasAuthority := true
    evidenceStore := some ⟨fun _ => true, fun _ _ => true⟩
    telemetryEmitter := none
    sandbox := some (fun _ => .returned { success := true, output := some 7 })
    capabilityRegistry := some (.set .empty "profile-read_file" sampleProfile)
    toolRegistry := sampleRegistry implementationId
    signing := .reference
    capabilityHashing := sampleHashing
    sha256 := fun text => "sha256:" ++ text.text
    computeOutputDigest := fun n => some (toString n) }

def sampleTick : ExecutorTick :=
  { verifiedAt := 10
    claimedAt := 20
    startedAt := ⟨100, some 0⟩
    monotonicStart := 30
    completedAt := ⟨200, some 0⟩
    monotonicEnd := 40
    requestUuid := "q1"
    receiptUuid := "r1" }

def sampleContext : RuntimeContext := ⟨"session-1", "request-1", "agent-2"⟩

theorem sampleIssue_signed : signedFields sampleAuthority sampleIssue = some sampleFields := by
  have hopen : sampleAuthority.issuanceClosedPlanes "agent-1" = ∅ := by decide
  simp only [signedFields, sampleIssue, hopen, epochMatches, and_self, if_true]
  rfl

theorem sampleGranted_genuine :
    Genuine Signing.reference sampleAuthority [sampleIssue] sampleGranted :=
  fun _ => ⟨[], sampleIssue, [], sampleFields, rfl, sampleIssue_signed, rfl⟩

def sampleIssued : ExecutionAuthority := after Signing.reference sampleAuthority [sampleIssue]

theorem sampleIssued_eq : sampleIssued =
    { sampleAuthority with
      outstanding := .set .empty "grant-1" ⟨30000000, "agent-1", "session-1"⟩ } := by
  simp only [sampleIssued, after, Run.final, apply, sampleIssue]
  rw [issue_of_open (by decide) rfl]
  rfl

theorem sampleIssued_verifies :
    (sampleIssued.verifyGrant Signing.reference sampleTick.verifiedAt (.grant sampleGranted)
      sampleBinding).2 = .ok () := by
  rw [sampleIssued_eq]
  exact verifyGrant_ok_iff.mpr ⟨rfl, rfl, by decide, by decide, ⟨_, rfl, rfl, rfl⟩, rfl⟩

theorem sampleIssued_recordsExpiry : RecordsExpiry sampleIssued sampleGranted :=
  sampleGranted_genuine.recordsExpiry (create_outstanding sample_create) (by decide) rfl

def samplePlan (implementationId : Option String) (context : Option RuntimeContext) :
    ExecutionPlan :=
  { toolId := "read_file"
    toolVersion := "1.0.0"
    parameters := .empty
    grant := some sampleGranted
    context
    tool := .ok ⟨"read_file", "1.0.0"⟩
    implementationId }

def sampleCall (context : Option RuntimeContext) : ExecutorRequest :=
  .execute (some sampleGranted) .empty context

theorem sampleRegistry_eq (implementationId : Option String) :
    ∃ registry, (sampleExecutor implementationId).toolRegistry = some registry ∧
      (registry.versionsOf "read_file").entries = [("1.0.0", sampleDescriptor implementationId)] :=
  ⟨_, rfl, rfl⟩

theorem plan_sampleCall (implementationId : Option String) (context : Option RuntimeContext) :
    (sampleExecutor implementationId).plan (sampleCall context) =
      .ok (samplePlan implementationId context) := by
  obtain ⟨registry, hregistry, hversions⟩ := sampleRegistry_eq implementationId
  have hresolve : registry.resolveVersion sampleGranted.binding.toolId
      sampleGranted.binding.toolVersion = .ok (sampleDescriptor implementationId) :=
    ExecutableRegistry.resolveVersion_single hversions
  simp only [plan, sampleCall, resolveDescriptor, hregistry, hresolve]
  rfl

theorem samplePlan_operation (implementationId : Option String) (context : Option RuntimeContext) :
    ExecutionBinding.fromOperation (samplePlan implementationId context).toolId
      (samplePlan implementationId context).toolVersion
      (samplePlan implementationId context).parameters none = some sampleBinding := by
  rfl

theorem sampleGranted_admitted (implementationId : Option String) :
    (sampleExecutor implementationId).admission sampleGranted none "read_file" =
      .ok sampleProfile := by
  rw [admission_none, resolveCapabilities_ok_iff]
  refine ⟨rfl, by decide, ⟨_, rfl, rfl⟩, rfl, ?_⟩
  rfl

theorem sampleGranted_claims (implementationId : Option String) :
    Claims (sampleExecutor implementationId) sampleTick sampleIssued
      (samplePlan implementationId none) sampleGranted sampleBinding where
  bound := rfl
  grant := rfl
  operation := samplePlan_operation implementationId none
  verifies := sampleIssued_verifies
  admitted := ⟨sampleProfile, sampleGranted_admitted implementationId⟩
  unexpired := by decide

end DefaultToolExecutor

end AgentSecurityPlatform
