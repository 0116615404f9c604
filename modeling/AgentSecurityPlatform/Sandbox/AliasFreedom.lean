import AgentSecurityPlatform.Authority.GrantLifecycle
import AgentSecurityPlatform.Authorization.Monotonicity
import AgentSecurityPlatform.Runtime.Execute
import AgentSecurityPlatform.Sandbox.CanonicalIdentity

namespace AgentSecurityPlatform

open Resolution FileTree

namespace FilesystemResourceIdentityResolver

variable {r : FilesystemResourceIdentityResolver} {path identity : String}

-- the entry the operating system finds for a request, from the workspace root
def denotes (r : FilesystemResourceIdentityResolver) (path : String) : Option (List String) :=
  (r.tree.stat (r.candidate path)).map Place.entry

def target (r : FilesystemResourceIdentityResolver) (path : String) : Option Reached :=
  r.tree.reach ⟨[], []⟩ (r.candidate path).parts

def RelativeIdentity (identity : String) : Prop :=
  identity = "." ∨ ∀ part ∈ identity.toList.splitOn '/', PlainName (String.ofList part)

structure CanonicalIdentity (r : FilesystemResourceIdentityResolver) (path identity : String) :
    Prop where
  relative : RelativeIdentity identity
  contained : ∃ x, r.target identity = some x ∧ r.place.entry <+: x.entry
  same : ∀ entry, r.denotes path = some entry → r.denotes identity = some entry

theorem candidate_plain {part : String} (h : part ∈ (r.candidate path).parts) (hup : part ≠ "..") :
    PlainName part := by
  simp only [candidate, PosixPath.join] at h
  split at h
  · exact PosixPath.parts_plain h hup
  · rcases List.mem_append.mp h with h | h
    · exact r.spells.plain part h
    · exact PosixPath.parts_plain h hup

theorem candidate_parts {part : String} (h : part ∈ (r.candidate path).parts) :
    part ≠ "" ∧ part ≠ "." := by
  by_cases hup : part = ".."
  · rw [hup]
    decide
  · exact ⟨(candidate_plain h hup).nonempty, (candidate_plain h hup).not_here⟩

-- what an accepted request was resolved to
structure Accepted (r : FilesystemResourceIdentityResolver) (path identity : String) (x : Reached)
    (below : List String) : Prop where
  target : r.target path = some x
  sound : r.tree.SoundAt x
  entry : x.entry = r.place.entry ++ below
  text : identity = PosixPath.text ⟨"", below ++ x.missing⟩
  plain : ∀ name ∈ below ++ x.missing, PlainName name

theorem accepted_of_canonicalize (h : r.canonicalize path = returns identity) :
    ∃ x below, Accepted r path identity x below := by
  simp only [canonicalize] at h
  split at h
  · cases h
  · split at h
    · cases h
    · split at h
      · cases h
      · split at h
        · cases h
        · split at h
          · cases h
          · cases h
          · cases h
          · rename_i relative hrelative
            cases h
            obtain ⟨resolved, hresolved, hdrop⟩ := bind_returns.mp hrelative
            obtain ⟨x, below, hreach, hstands⟩ :=
              resolveExistingOrMissing_spec (fun part hpart => candidate_parts hpart) hresolved
            have hplain : ∀ name ∈ below ++ x.missing, PlainName name := by
              intro name hname
              rcases List.mem_append.mp hname with hname | hname
              · have hsome := hstands.sound.settled.1
                rw [hstands.entry] at hsome
                exact plain_below hsome name hname
              · rcases reach_missing hreach name hname with hnone | hpart
                · cases hnone
                · exact candidate_plain hpart (hstands.sound.names name hname)
            refine ⟨x, below, hreach, hstands.sound, hstands.entry, ?_, hplain⟩
            simp only [relativeTo] at hdrop
            split at hdrop
            · cases hdrop
              simp [hstands.path, workspaceRoot]
            · cases hdrop

theorem Accepted.candidate_identity {x : Reached} {below : List String}
    (h : Accepted r path identity x below) :
    r.candidate identity = ⟨"/", r.place.spelled ++ (below ++ x.missing)⟩ := by
  rw [candidate, h.text, PosixPath.parse_text h.plain]
  simp [PosixPath.join, PosixPath.isAbsolute, workspaceRoot]

theorem Accepted.relative {x : Reached} {below : List String}
    (h : Accepted r path identity x below) :
    RelativeIdentity identity := by
  by_cases hempty : below ++ x.missing = []
  · left
    rw [h.text, hempty]
    rfl
  · right
    intro part hpart
    rw [h.text, PosixPath.splitOn_text hempty (fun n hn => (h.plain n hn).no_slash)] at hpart
    obtain ⟨name, hname, rfl⟩ := List.mem_map.mp hpart
    rw [String.ofList_toList]
    exact h.plain name hname

theorem Accepted.stat_below {x : Reached} {below : List String}
    (h : Accepted r path identity x below) :
    r.tree.stat ⟨"/", r.place.spelled ++ below⟩ = some ⟨r.place.spelled ++ below, x.entry⟩ := by
  have hsettled := h.sound.settled
  rw [h.entry] at hsettled ⊢
  exact stat_of_spells (r.spells.extend hsettled) "/"

theorem Accepted.target_identity {x : Reached} {below : List String}
    (h : Accepted r path identity x below) : r.target identity = some x := by
  have hbelow : r.tree.reach ⟨[], []⟩ (r.place.spelled ++ below) = some ⟨x.entry, []⟩ :=
    reach_of_stat h.stat_below
  rw [FilesystemResourceIdentityResolver.target, h.candidate_identity]
  simp only [← List.append_assoc]
  rw [reach_append, hbelow]
  exact h.sound.reach_self

theorem target_of_denotes {entry : List String} (h : r.denotes path = some entry) :
    r.target path = some ⟨entry, []⟩ := by
  obtain ⟨p, hp, rfl⟩ := Option.map_eq_some_iff.mp h
  exact reach_of_stat hp

theorem Accepted.denotes_identity {x : Reached} {below : List String}
    (h : Accepted r path identity x below) {entry : List String}
    (hentry : r.target path = some ⟨entry, []⟩) : r.denotes identity = some entry := by
  have hx := h.target
  rw [hentry] at hx
  cases hx
  rw [denotes, h.candidate_identity, List.append_nil, h.stat_below]
  rfl

theorem Accepted.canonical {x : Reached} {below : List String}
    (h : Accepted r path identity x below) :
    CanonicalIdentity r path identity :=
  ⟨h.relative, ⟨x, h.target_identity, ⟨below, h.entry.symm⟩⟩,
    fun _ hdenotes => h.denotes_identity (target_of_denotes hdenotes)⟩

theorem Accepted.identity_of_entry {x : Reached} {below names : List String}
    (h : Accepted r path identity x below)
    (htarget : r.target path = some ⟨r.place.entry ++ names, []⟩) :
    identity = PosixPath.text ⟨"", names⟩ := by
  have hx := h.target
  rw [htarget] at hx
  cases hx
  have hbelow := h.entry
  simp only [List.append_cancel_left_eq] at hbelow
  rw [h.text, ← hbelow, List.append_nil]

theorem Accepted.identity_unique {x x' : Reached} {below below' : List String}
    {other identity' : String}
    (h : Accepted r path identity x below) (h' : Accepted r other identity' x' below')
    {entry : List String} (hp : r.target path = some ⟨entry, []⟩)
    (ho : r.target other = some ⟨entry, []⟩) : identity' = identity := by
  have hx := h.target
  rw [hp] at hx
  cases hx
  have hentry : entry = r.place.entry ++ below := h.entry
  rw [hentry] at hp ho
  rw [h.identity_of_entry hp, h'.identity_of_entry ho]

def identityOf (r : FilesystemResourceIdentityResolver) (path : String) : Option String :=
  match r.canonicalize path with
  | returns identity => some identity
  | _ => none

theorem identityOf_some (h : r.identityOf path = some identity) :
    r.canonicalize path = returns identity := by
  simp only [identityOf] at h
  split at h
  · rename_i found hfound
    cases h
    exact hfound
  · cases h

theorem canonicalize_nonempty (h : r.canonicalize path = returns identity) : path ≠ "" := by
  rintro rfl
  cases h

theorem identityOf_of_canonicalize (h : r.canonicalize path = returns identity) :
    r.identityOf path = some identity := by
  rw [identityOf, h]

theorem protected_plain {name : String} (h : name ∈ protectedResources) : PlainName name := by
  obtain rfl := List.mem_singleton.mp h
  exact ⟨by decide, by decide, by decide, by decide⟩

theorem Accepted.identity_eq_iff {x : Reached} {below : List String} {name : String}
    (h : Accepted r path identity x below) (hname : PlainName name) :
    identity = name ↔ x.entry ++ x.missing = r.place.entry ++ [name] := by
  have htext : PosixPath.text ⟨"", [name]⟩ = name := by
    simp [PosixPath.text, String.intercalate_singleton]
  have hparse : PosixPath.parse name = ⟨"", [name]⟩ := by
    rw [← htext, PosixPath.parse_text (by simpa using hname), htext]
  rw [h.entry, List.append_assoc, List.append_cancel_left_eq]
  constructor
  · intro hsame
    have hidentity : PosixPath.parse identity = ⟨"", below ++ x.missing⟩ := by
      rw [h.text, PosixPath.parse_text h.plain]
    rw [hsame, hparse] at hidentity
    exact (congrArg PosixPath.parts hidentity).symm
  · intro hbelow
    rw [h.text, hbelow, htext]

end FilesystemResourceIdentityResolver

theorem evaluatePolicy_protected (agent : Agent) {tool : ToolFamilyGovernance} {resource : String}
    (refusal : Option LifecycleRefusalCode) (htool : tool.toolId = "file_read")
    (hresource : resource ∈ protectedResources) :
    (evaluatePolicy agent tool (some resource) refusal).decision = .deny := by
  have hprotected : resourceProtected tool (some resource) = true := by
    simp [resourceProtected, htool, hresource]
  cases refusal with
  | some refusal => rfl
  | none =>
    simp only [evaluatePolicy, hprotected]
    split
    · rfl
    · rfl

theorem evaluate_protected (agents : AgentService) (tools : ToolService) (agentId : String)
    {resource : String} (hresource : resource ∈ protectedResources) :
    (AuthorizationService.evaluate agents tools agentId "file_read" (some resource)).decision =
      .deny := by
  simp only [AuthorizationService.evaluate]
  split
  · rfl
  · simp only [AuthorizationService.evaluateAgent]
    split
    · rfl
    · rename_i governance hgovernance
      have htool : governance.toolId = "file_read" := by
        simp only [ToolService.getFamilyGovernance] at hgovernance
        split at hgovernance
        · cases hgovernance
        · cases hgovernance
          rfl
      split
      · rfl
      · exact evaluatePolicy_protected _ _ htool hresource

namespace Deployment

variable {d : Deployment} {req : ExecuteRequest} {r : FilesystemResourceIdentityResolver}

-- the workspace of the tool's profile is the one this resolver was built for
def ResolvesWith (d : Deployment) (toolId : String) (r : FilesystemResourceIdentityResolver) :
    Prop :=
  ∀ capabilities, d.capabilities.get? (profileId toolId) = some capabilities →
    d.workspaces capabilities.filesystem.workspaceRoot = some r.identityOf

def NamesPath (req : ExecuteRequest) (path : String) : Prop :=
  req.resource = some path ∨ req.parameters.get? (.text resourceParameter) = some (.text path)

theorem canonicalize_text {resolve : String → Option String} {path found : String}
    (h : canonicalize resolve (.text path) = some found) : resolve path = some found := by
  simp only [canonicalize] at h
  split at h
  · cases h
  · exact h

theorem canonicalTarget_of_named {resolve : String → Option String} {path name : String}
    (hname : name ≠ "") (hnamed : NamesPath req path)
    (hresolve : ∀ found, resolve path = some found → found = name)
    {parameter resource : Option String}
    (hp : canonicalParameter resolve req.parameters = some parameter)
    (hr : canonicalResource resolve req.resource = some resource)
    (hagree : ¬ (parameter.isSome ∧ resource.isSome ∧ parameter ≠ resource)) :
    canonicalTarget parameter resource = some name := by
  rcases hnamed with hres | hpar
  · rw [hres] at hr
    obtain ⟨found, hfound, rfl⟩ := Option.map_eq_some_iff.mp hr
    rw [hresolve found (canonicalize_text hfound)] at hagree ⊢
    cases parameter with
    | none => rfl
    | some other =>
      have hsame : some other = some name := by simpa using hagree
      cases hsame
      simp [canonicalTarget, hname]
  · simp only [canonicalParameter, hpar] at hp
    obtain ⟨found, hfound, rfl⟩ := Option.map_eq_some_iff.mp hp
    rw [hresolve found (canonicalize_text hfound)]
    simp [canonicalTarget, hname]

theorem filesystemIdentity_named {path name : String} (hname : name ≠ "")
    (hd : d.ResolvesWith req.toolId r) (hnamed : NamesPath req path)
    (hresolve : ∀ found, r.identityOf path = some found → found = name)
    {resource : Option String} {parameters : Parameters}
    (h : d.filesystemIdentity req = some (resource, parameters)) : resource = some name := by
  simp only [filesystemIdentity, Option.bind_eq_bind, Option.bind_eq_some_iff] at h
  obtain ⟨capabilities, hcap, resolve, hwork, parameter, hp, canonical, hr, h⟩ := h
  rw [hd capabilities hcap] at hwork
  cases hwork
  split at h
  · cases h
  · rename_i hagree
    rw [canonicalTarget_of_named hname hnamed hresolve hp hr hagree] at h
    cases h
    rfl

theorem fromOperation_given {toolId toolVersion name : String} {parameters : Parameters}
    {b : ExecutionBinding}
    (h : ExecutionBinding.fromOperation toolId toolVersion parameters (some name) = some b) :
    b.resource = some name := by
  simp only [ExecutionBinding.fromOperation] at h
  split at h
  · cases h
  · rename_i canonical _
    cases hlookup : canonical.lookup resourceParameter with
    | none =>
      simp only [hlookup] at h
      exact (ExecutionBinding.construct_eq_some h).2.2.1
    | some declared =>
      simp only [hlookup] at h
      split at h
      · cases h
      · exact (ExecutionBinding.construct_eq_some h).2.2.1

theorem bindOperation_resource {toolVersion : Option String} {name : String}
    {parameters : Parameters}
    (h : (bindOperation req toolVersion (some name) parameters).operationIsMalformed = false) :
    (bindOperation req toolVersion (some name) parameters).resource = some name := by
  cases toolVersion with
  | none => rfl
  | some version =>
    simp only [bindOperation] at h ⊢
    cases hb : ExecutionBinding.fromOperation req.toolId version parameters (some name) with
    | none => rfl
    | some b => exact fromOperation_given hb

-- whatever else the platform holds, file_read of the path is denied
def Refuses (r : FilesystemResourceIdentityResolver) (path : String) : Prop :=
  ∀ (d : Deployment) (w : World) (req : ExecuteRequest), d.ResolvesWith "file_read" r →
    req.toolId = "file_read" → NamesPath req path → d.needsFilesystemIdentity req = true →
      (World.authorize d w (d.prepare req)).decision = .deny

theorem protected_refused {path name : String} (hprotected : name ∈ protectedResources)
    (hresolve : r.identityOf path = some name) : Refuses r path := by
  intro d w req hd htool hnamed hneeds
  have hname : name ≠ "" := by
    rintro rfl
    revert hprotected
    decide
  have hunique (found : String) (hfound : r.identityOf path = some found) : found = name :=
    Option.some.inj (hfound.symm.trans hresolve)
  have hmeets : (d.prepare req).operationIsMalformed = true ∨
      (d.prepare req).request = req ∧ (d.prepare req).resource = some name := by
    cases hmalformed : (d.prepare req).operationIsMalformed with
    | true => exact .inl rfl
    | false =>
      refine .inr ⟨(prepare_spec d req).1, ?_⟩
      simp only [prepare, hneeds, if_true] at hmalformed ⊢
      split at hmalformed
      · cases hmalformed
      · rename_i resource parameters hidentity
        rw [← htool] at hd
        cases filesystemIdentity_named hname hd hnamed hunique hidentity
        exact bindOperation_resource hmalformed
  simp only [World.authorize, Authorized.decision]
  rcases hmeets with hmalformed | ⟨hreq, hres⟩
  · simp [hmalformed]
  · split
    · rfl
    · rename_i result hresult
      split at hresult
      · cases hresult
      · cases hresult
        rw [hreq, hres, htool]
        exact evaluate_protected w.agents d.tools req.agentId hprotected

-- a platform with one agent that may read files of the workspace
def readers : AgentService :=
  ((AgentService.empty.registerAgent 1 "t1" "c1"
    ⟨"agent-1", "Agent", "owner", .medium, ["file_read"], .registered⟩).1.activateAgent 2 "t2"
      "c2" "agent-1" systemRegistrationActor).1

def readerWorld : World :=
  { agents := readers
    sessions := .empty
    findings := .empty
    aggregator := { projections := .empty }
    authority := ⟨"authority-1", 30000000, .empty, .empty, .empty⟩
    audit := [] }

def reading (r : FilesystemResourceIdentityResolver) : Deployment :=
  { registry := ⟨.set .empty "file_read" (.set .empty "1.0.0" ⟨"file_read", "1.0.0", "filesystem"⟩)⟩
    tools := ⟨.set .empty ("file_read", "1.0.0") ⟨"file_read", "1.0.0", .low, true⟩⟩
    capabilities := .set .empty "profile-file_read"
      { capabilityProfileId := "profile-file_read", filesystem := { workspaceRoot := "/srv/work" } }
    capabilityHashing := ⟨PythonJson.FloatText.ofMicroseconds, fun text => "sha256:" ++ text⟩
    workspaces := fun _ => some r.identityOf
    rules := []
    windowSeconds := 60000000
    window_pos := by decide
    retention := none
    hashing := ⟨fun space name => space ++ ":" ++ name, id⟩
    signing := .reference }

def readRequest (path : String) : ExecuteRequest :=
  { sessionId := "session-1", agentId := "agent-1", toolId := "file_read", resource := some path }

theorem reading_prepared {path identity : String} (hpath : path ≠ "")
    (h : r.identityOf path = some identity) :
    ((reading r).prepare (readRequest path)).operationIsMalformed = false ∧
      ((reading r).prepare (readRequest path)).resource = some identity ∧
      ((reading r).prepare (readRequest path)).request = readRequest path := by
  have hversion : (reading r).resolvedVersion "file_read" = some "1.0.0" := rfl
  have hneeds : (reading r).needsFilesystemIdentity (readRequest path) = true := rfl
  have hidentity : (reading r).filesystemIdentity (readRequest path) =
      some (some identity, .empty) := by
    have hcap : ((reading r).capabilities.get? (profileId "file_read")).isSome = true := rfl
    obtain ⟨capabilities, hget⟩ := Option.isSome_iff_exists.mp hcap
    have hnone : canonicalParameter r.identityOf (readRequest path).parameters = some none := rfl
    have hsome : canonicalResource r.identityOf (readRequest path).resource =
        some (some identity) := by
      simp [canonicalResource, readRequest, canonicalize, hpath, h]
    simp only [filesystemIdentity, readRequest, Option.bind_eq_bind] at hget hnone hsome ⊢
    rw [hget, Option.bind_some]
    simp only [reading, Option.bind_some, hnone, hsome]
    rfl
  have hbound : (ExecutionBinding.fromOperation "file_read" "1.0.0" .empty (some identity)).isSome =
      true := by
    have hcanonical : canonicalizeParameters .empty = some [] := rfl
    simp [ExecutionBinding.fromOperation, hcanonical, ExecutionBinding.construct]
  obtain ⟨b, hb⟩ := Option.isSome_iff_exists.mp hbound
  have htool : (readRequest path).toolId = "file_read" := rfl
  simp only [prepare, hneeds, if_true, hidentity, bindOperation, htool, hversion, hb]
  exact ⟨trivial, fromOperation_given hb, trivial⟩

theorem reading_allowed {path identity : String} (hpath : path ≠ "")
    (h : r.identityOf path = some identity) (hunprotected : identity ∉ protectedResources) :
    (World.authorize (reading r) readerWorld ((reading r).prepare (readRequest path))).decision =
      .allow := by
  obtain ⟨hmalformed, hresource, hrequest⟩ := reading_prepared hpath h
  have hallow : (AuthorizationService.evaluate readers (reading r).tools "agent-1" "file_read"
      (some identity)).decision = .allow := by
    refine AuthorizationService.evaluate_allow_iff.mpr
      ⟨⟨"agent-1", "Agent", "owner", .medium, ["file_read"], .registered⟩,
        ⟨"agent-1", .active, 2, some (.utc 2)⟩, ToolRiskLevel.low.severity, ?_⟩
    exact
      { registered := rfl
        version := ⟨"1.0.0", _, rfl⟩
        approved := by decide
        recorded := rfl
        active := rfl
        notSuspended := rfl
        maximum := rfl
        belowCritical := by decide
        lowTier := by decide
        unprotected := by simpa using hunprotected }
  simp only [World.authorize, Authorized.decision, hmalformed, hresource, hrequest]
  exact hallow

theorem refuses_iff {path identity : String} (hpath : path ≠ "")
    (h : r.identityOf path = some identity) : Refuses r path ↔ identity ∈ protectedResources := by
  constructor
  · intro hrefuses
    by_contra hunprotected
    have hdeny := hrefuses (reading r) readerWorld (readRequest path)
      (fun _ _ => rfl) rfl (.inl rfl) rfl
    rw [reading_allowed hpath h hunprotected] at hdeny
    cases hdeny
  · exact fun hprotected => protected_refused hprotected h

end Deployment

namespace FilesystemResourceIdentityResolver

theorem canonical_identity_alias_free (r : FilesystemResourceIdentityResolver)
    {path identity : String} (h : r.canonicalize path = returns identity) :
    CanonicalIdentity r path identity ∧
    (∀ other identity' entry, r.canonicalize other = returns identity' →
      r.target path = some ⟨entry, []⟩ → r.target other = some ⟨entry, []⟩ →
        identity' = identity) ∧
    (∀ name ∈ protectedResources, ∀ x, r.target name = some x → r.target path = some x →
      (Deployment.Refuses r path ↔ x.entry ++ x.missing = r.place.entry ++ [name])) ∧
    ∀ request, r.canonicalize request ≠ running := by
  obtain ⟨x, below, haccepted⟩ := accepted_of_canonicalize h
  refine ⟨haccepted.canonical, ?_, ?_, canonicalize_ends⟩
  · intro other identity' entry hother hp ho
    obtain ⟨x', below', haccepted'⟩ := accepted_of_canonicalize hother
    exact haccepted.identity_unique haccepted' hp ho
  · intro name hname x' _ htarget
    obtain rfl : x = x' := Option.some.inj (haccepted.target.symm.trans htarget)
    rw [Deployment.refuses_iff (canonicalize_nonempty h) (identityOf_of_canonicalize h),
      ← haccepted.identity_eq_iff (protected_plain hname), List.mem_singleton.mp hname]
    exact List.mem_singleton

def sampleTable : Table :=
  [([], .directory), (["srv"], .directory), (["srv", "work"], .directory),
    (["srv", "work", "secrets.txt"], .file 7), (["srv", "work", "notes"], .directory),
    (["srv", "work", "notes", "latest"], .symlink ⟨"", ["..", "SECRETS.TXT"]⟩)]

def sampleFold (name : String) : String :=
  if name = "SECRETS.TXT" ∨ name = "Secrets.txt" then "secrets.txt" else name

theorem sampleTable_sound : TableSound sampleTable sampleFold :=
  .of_names (by decide +kernel) (by decide +kernel) (by decide +kernel) (by decide +kernel)

def sampleTree : FileTree := ofTable sampleTable sampleFold 4 sampleTable_sound

theorem sampleTree_root : sampleTree.stat (.parse "/srv/work") =
    some ⟨["srv", "work"], ["srv", "work"]⟩ := by
  decide +kernel

def sampleResolver : FilesystemResourceIdentityResolver where
  tree := sampleTree
  casefold := sampleFold
  windowsAbsolute _ := false
  place := ⟨["srv", "work"], ["srv", "work"]⟩
  spells := stat_spells sampleTree_root
  directory := by decide +kernel

theorem canonical_identity_through_link :
    sampleResolver.canonicalize "notes/missing/../latest" = returns "secrets.txt" ∧
      sampleResolver.canonicalize "/srv/work/Secrets.txt" = returns "secrets.txt" ∧
      CanonicalIdentity sampleResolver "notes/missing/../latest" "secrets.txt" ∧
      Deployment.Refuses sampleResolver "notes/missing/../latest" := by
  have hlink : sampleResolver.canonicalize "notes/missing/../latest" = returns "secrets.txt" := by
    decide +kernel
  have hcase : sampleResolver.canonicalize "/srv/work/Secrets.txt" = returns "secrets.txt" := by
    decide +kernel
  have hstored : sampleResolver.target "secrets.txt" = some ⟨["srv", "work", "secrets.txt"], []⟩ ∧
      sampleResolver.target "notes/missing/../latest" =
        some ⟨["srv", "work", "secrets.txt"], []⟩ := by
    decide +kernel
  have hsound := canonical_identity_alias_free sampleResolver hlink
  exact ⟨hlink, hcase, hsound.1,
    (hsound.2.2.1 "secrets.txt" (by decide) _ hstored.1 hstored.2).mpr rfl⟩

def linkedTable : Table :=
  [([], .directory), (["srv"], .directory), (["srv", "work"], .directory),
    (["srv", "work", "vault"], .directory), (["srv", "work", "vault", "s1.txt"], .file 7),
    (["srv", "work", "secrets.txt"], .symlink ⟨"", ["vault", "s1.txt"]⟩)]

theorem linkedTable_sound : TableSound linkedTable id :=
  .of_names (by decide +kernel) (by decide +kernel) (by decide +kernel) (by decide +kernel)

def linkedTree : FileTree := ofTable linkedTable id 4 linkedTable_sound

theorem linkedTree_root : linkedTree.stat (.parse "/srv/work") =
    some ⟨["srv", "work"], ["srv", "work"]⟩ := by
  decide +kernel

def linkedResolver : FilesystemResourceIdentityResolver where
  tree := linkedTree
  casefold := id
  windowsAbsolute _ := false
  place := ⟨["srv", "work"], ["srv", "work"]⟩
  spells := stat_spells linkedTree_root
  directory := by decide +kernel

-- the policy is shown the name of the file behind the link, which it does not protect
theorem linked_secret_allowed :
    linkedResolver.canonicalize "secrets.txt" = returns "vault/s1.txt" ∧
      linkedResolver.denotes "secrets.txt" = some ["srv", "work", "vault", "s1.txt"] ∧
      (World.authorize (Deployment.reading linkedResolver) Deployment.readerWorld
        ((Deployment.reading linkedResolver).prepare
          (Deployment.readRequest "secrets.txt"))).decision = .allow ∧
      ¬ Deployment.Refuses linkedResolver "secrets.txt" := by
  have hlink : linkedResolver.canonicalize "secrets.txt" = returns "vault/s1.txt" := by
    decide +kernel
  have hidentity := identityOf_of_canonicalize hlink
  have hpath : "secrets.txt" ≠ "" := by decide
  have hunprotected : "vault/s1.txt" ∉ protectedResources := by decide
  refine ⟨hlink, by decide +kernel, Deployment.reading_allowed hpath hidentity hunprotected, ?_⟩
  rw [Deployment.refuses_iff hpath hidentity]
  exact hunprotected

end FilesystemResourceIdentityResolver

end AgentSecurityPlatform
