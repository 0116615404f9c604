import AgentSecurityPlatform.Executor.Canonical
import AgentSecurityPlatform.Runtime.Mediation
import AgentSecurityPlatform.Sandbox.PackagedTools
import AgentSecurityPlatform.Sandbox.ProcessSandbox

namespace AgentSecurityPlatform

open PythonJson Resolution

def wireEntry : ParameterName × ParameterValue → Option (Str × Value)
  | (.text name, .text value) => some (.ofString name, .str (.ofString value))
  | (.text name, .null) => some (.ofString name, .null)
  | _ => none

-- a mapping that holds the JSON of the parameters, in their order
def SandboxRequest.Carries (q : SandboxRequest) (parameters : Mapping) : Prop :=
  q.parameters.entries.mapM wireEntry = some parameters.entries

section Descriptor

variable {u : UnicodeData} {readFloat : List Char → Value} {q : SandboxRequest}
  {parameters : Mapping}
  {c : SandboxCapabilities u} {scratch : Option String} {d : ToolExecutionDescriptor}

theorem mem_of_mapM {α β : Type} {f : α → Option β} {xs : List α} {ys : List β}
    (h : xs.mapM f = some ys) : ∀ y ∈ ys, ∃ x ∈ xs, f x = some y := by
  induction xs generalizing ys with
  | nil =>
    cases h
    simp
  | cons x xs ih =>
    obtain ⟨y, hy, rest, hrest, rfl⟩ : ∃ y, f x = some y ∧ ∃ rest, xs.mapM f = some rest ∧
        y :: rest = ys := by
      simpa [Option.bind_eq_some_iff] using h
    rw [List.forall_mem_cons]
    refine ⟨⟨x, by simp, hy⟩, ?_⟩
    intro z hz
    obtain ⟨x', hx', hf⟩ := ih hrest z hz
    exact ⟨x', List.mem_cons_of_mem _ hx', hf⟩

theorem wireEntry_eq_some {e : ParameterName × ParameterValue} {m : Str × Value}
    (h : wireEntry e = some m) : ∃ name, e.1 = .text name ∧ m.1 = .ofString name ∧
      (e.2 = .null ∧ m.2 = .null ∨ ∃ value, e.2 = .text value ∧ m.2 = .str (.ofString value)) := by
  obtain ⟨name, value⟩ := e
  cases name with
  | other n => cases h
  | text name =>
    cases value with
    | text value =>
      cases h
      exact ⟨name, rfl, rfl, .inr ⟨value, rfl, rfl⟩⟩
    | null =>
      cases h
      exact ⟨name, rfl, rfl, .inl ⟨rfl, rfl⟩⟩
    | other n => cases h

theorem loadable_carried (h : q.Carries parameters) :
    Loadable readFloat (ToolExecutionDescriptor.object parameters) := by
  refine ⟨parameters.nodup, loadableMembers_iff.mpr ?_⟩
  intro m hm
  obtain ⟨e, -, he⟩ := mem_of_mapM h m hm
  obtain ⟨name, -, hname, hvalue⟩ := wireEntry_eq_some he
  rw [hname]
  refine ⟨joinPairs_ofString name, ?_⟩
  rcases hvalue with ⟨-, hnull⟩ | ⟨value, -, htext⟩
  · rw [hnull]
    trivial
  · rw [htext]
    exact joinPairs_ofString value

-- the descriptor of a request survives the way to the worker
theorem descriptor_loads (h : q.Carries parameters)
    (hd : ProcessToolExecutionSandbox.descriptor q.tool parameters c q.provenance q.implementationId
      (some q.toolVersion) scratch = some d) :
    ToolExecutionDescriptor.Loads readFloat d.toDescriptorFields := by
  rw [ProcessToolExecutionSandbox.descriptor, ToolExecutionDescriptor.construct] at hd
  split at hd
  · cases hd
    constructor
    case texts => cases scratch <;> simp [joinPairs_ofString]
    case parameters => exact loadable_carried h
    case filesystem =>
      rintro m ⟨⟩
      exact loadable_filesystem c.filesystem
    case network =>
      rintro m ⟨⟩
      exact loadable_network c
  · cases hd

theorem descriptor_guard {host : WorkspaceHost} {runtimeDirs : List PosixPath}
    (hd : ProcessToolExecutionSandbox.descriptor q.tool parameters c q.provenance q.implementationId
      (some q.toolVersion) scratch = some d) :
    SandboxRunner.filesystemGuard host.files runtimeDirs (SandboxRunner.received d) =
      (FilesystemSandboxGuard.fromDict
        host.files c.filesystem scratch none runtimeDirs).map some := by
  rw [ProcessToolExecutionSandbox.descriptor, ToolExecutionDescriptor.construct] at hd
  split at hd
  · cases hd
    cases scratch with
    | none =>
      simp only [SandboxRunner.filesystemGuard, SandboxRunner.scratchDir, SandboxRunner.received,
        ToolExecutionDescriptor.sortedFields, Option.map_some, Option.map_none, Option.bind_eq_bind,
        Option.bind_some, FilesystemSandboxGuard.fromMapping_dump]
      rw [Option.map_eq_bind]
      rfl
    | some scratch =>
      simp only [SandboxRunner.filesystemGuard, SandboxRunner.scratchDir, SandboxRunner.received,
        ToolExecutionDescriptor.sortedFields, Option.map_some, Option.bind_eq_bind,
        Option.bind_some, FilesystemSandboxGuard.fromMapping_dump, Str.encodeUtf8_ofString]
      rw [Option.map_eq_bind]
      rfl
  · cases hd

theorem descriptor_network {ports : PortReading}
    (hempty : c.destinations = [] → c.network.allowedDestinations = [])
    (hd : ProcessToolExecutionSandbox.descriptor q.tool parameters c q.provenance q.implementationId
      (some q.toolVersion) scratch = some d) :
    (SandboxRunner.networkGuard u ports (SandboxRunner.received d)).isSome = true := by
  rw [ProcessToolExecutionSandbox.descriptor, ToolExecutionDescriptor.construct] at hd
  split at hd
  · cases hd
    simp only [SandboxRunner.networkGuard, SandboxRunner.received,
      ToolExecutionDescriptor.sortedFields, Option.map_some,
      NetworkSandboxGuard.fromMapping_dump ports hempty, Option.isSome_some]
  · cases hd

theorem descriptor_received
    (hd : ProcessToolExecutionSandbox.descriptor q.tool parameters c q.provenance q.implementationId
      (some q.toolVersion) scratch = some d) :
    (SandboxRunner.received d).implementationId = .ofString q.implementationId ∧
      (∀ name, (SandboxRunner.received d).parameters.field name =
        (parameters.field name).map sorted) ∧
      (SandboxRunner.context (SandboxRunner.received d)).workspaceRoot =
        .str (.ofString c.filesystem.workspaceRoot) := by
  rw [ProcessToolExecutionSandbox.descriptor, ToolExecutionDescriptor.construct] at hd
  split at hd
  · cases hd
    refine ⟨rfl, fun name => Mapping.field_sortedKeys parameters name, ?_⟩
    have hroot : c.filesystem.modelDump.field "workspace_root" =
        some (.str (.ofString c.filesystem.workspaceRoot)) := rfl
    simp only [SandboxRunner.context, SandboxRunner.received, ToolExecutionDescriptor.sortedFields,
      Option.map_some, Option.bind_some, Mapping.field_sortedKeys, hroot, Option.getD_some, sorted]
  · cases hd

theorem carried_parameter {b : ExecutionBinding} (hq : q.parameters = b.parametersDict)
    (h : q.Carries parameters) {name value : String}
    (hfield : (parameters.field name).map sorted = some (.str (.ofString value))) :
    b.parameters.lookup name = some value := by
  obtain ⟨found, hfound, hsame⟩ := Option.map_eq_some_iff.mp hfield
  obtain ⟨e, he, hwire⟩ := mem_of_mapM h _ ((parameters.mem_entries_iff _ _).mpr hfound)
  obtain ⟨key, hkey, hname, hvalue⟩ := wireEntry_eq_some hwire
  have hvalue' : e.2 = .text value := by
    rcases hvalue with ⟨-, hnull⟩ | ⟨text, htext, hfoundText⟩
    · simp only at hnull
      rw [hnull] at hsame
      cases hsame
    · simp only at hfoundText
      simp only [hfoundText, sorted, Value.str.injEq] at hsame
      rw [htext, Str.ofString_injective hsame]
  have hentry : e = (.text name, .text value) :=
    Prod.ext (by rw [hkey, Str.ofString_injective hname]) hvalue'
  rw [hentry, hq] at he
  exact (lookup_canonical b.canonicalizeParameters_dict name value).mpr
    ((b.parametersDict.mem_entries_iff _ _).mp he)

end Descriptor

namespace Deployment

variable {d : Deployment} {req : ExecuteRequest} {b : ExecutionBinding}

theorem bindOperation_bound {toolVersion resource : Option String} {parameters : Parameters}
    (h : (bindOperation req toolVersion resource parameters).binding = some b) :
    (bindOperation req toolVersion resource parameters).resource = b.resource ∧
      (bindOperation req toolVersion resource parameters).operationIsMalformed = false := by
  cases toolVersion with
  | none => cases h
  | some version =>
    simp only [bindOperation] at h ⊢
    split at h
    · cases h
      exact ⟨rfl, rfl⟩
    · cases h

theorem prepare_bound (h : (d.prepare req).binding = some b) :
    (d.prepare req).resource = b.resource := by
  unfold prepare at h ⊢
  simp only at h ⊢
  split at h
  · rename_i hneeds
    rw [if_pos hneeds]
    split at h
    · cases h
    · exact (bindOperation_bound h).1
  · rename_i hneeds
    rw [if_neg hneeds]
    exact (bindOperation_bound h).1

theorem allowed_unprotected {w : World} {path : String} (h : (d.prepare req).binding = some b)
    (hresource : b.resource = some path) (htool : req.toolId = "file_read")
    (hallow : (World.authorize d w (d.prepare req)).decision = .allow) :
    path ∉ protectedResources := by
  intro hprotected
  have hdeny := evaluate_protected w.agents d.tools req.agentId hprotected
  have hprepared := prepare_bound h
  simp only [World.authorize, Authorized.decision] at hallow
  split at hallow
  · cases hallow
  · rename_i result hresult
    split at hresult
    · cases hresult
    · cases hresult
      rw [(d.prepare_spec req).1, hprepared, hresource, htool, hdeny] at hallow
      cases hallow

end Deployment

namespace Deployment

variable {d : Deployment} {b : ExecutionBinding} {i : ToolInvocation}
  {r : FilesystemResourceIdentityResolver}

-- a path the agent gives is bound as the identity the platform's own resolver finds for it
theorem bound_identity {agentId query sessionId given : String}
    (hb : (d.prepare (AgentRuntimeService.request agentId query sessionId i)).binding = some b)
    (hgiven : i.parameters.get? resourceParameter = some given)
    (htool : d.isFilesystemTool i.toolId = true) (hd : d.ResolvesWith i.toolId r) :
    ∃ path, b.resource = some path ∧ r.canonicalize given = returns path := by
  have hversion := (d.prepare_spec _).2.2 b hb
  have hneeds : d.needsFilesystemIdentity (AgentRuntimeService.request agentId query sessionId i) =
      true := by
    have hresolved : (d.resolvedVersion i.toolId).isSome = true := by
      rw [show d.resolvedVersion i.toolId = some b.toolVersion from hversion.2]
      rfl
    simp [needsFilesystemIdentity, AgentRuntimeService.request, htool, hgiven, hresolved]
  unfold prepare at hb
  simp only [hneeds, if_true] at hb
  split at hb
  · cases hb
  · rename_i resource parameters hidentity
    obtain ⟨path, hpath, hne⟩ : ∃ path, r.identityOf given = some path ∧ path ≠ "" := by
      simp only [filesystemIdentity, Option.bind_eq_bind, Option.bind_eq_some_iff] at hidentity
      obtain ⟨capabilities, hcap, resolve, hwork, -, -, canonical, hr, -⟩ := hidentity
      rw [hd capabilities hcap] at hwork
      cases hwork
      simp only [AgentRuntimeService.request, hgiven, canonicalResource] at hr
      obtain ⟨path, hpath, -⟩ := Option.map_eq_some_iff.mp hr
      have hidentity := canonicalize_text hpath
      obtain ⟨x, below, haccepted⟩ := FilesystemResourceIdentityResolver.accepted_of_canonicalize
        (FilesystemResourceIdentityResolver.identityOf_some hidentity)
      exact ⟨path, hidentity, haccepted.nonempty⟩
    have hresource : resource = some path := filesystemIdentity_named hne hd
      (.inl (by simp only [AgentRuntimeService.request, hgiven]))
      (fun found hfound => Option.some.inj (hfound.symm.trans hpath)) hidentity
    rw [hresource] at hb
    obtain ⟨hbound, hformed⟩ := bindOperation_bound hb
    exact ⟨path, hbound.symm.trans (bindOperation_resource hformed),
      FilesystemResourceIdentityResolver.identityOf_some hpath⟩

end Deployment

theorem FilesystemResourceIdentityResolver.Names.requested {r : FilesystemResourceIdentityResolver}
    {given path : String} {names : List String} (h : r.Names path names)
    (hgiven : r.canonicalize given = returns path) :
    r.target given = some ⟨r.place.entry ++ names, []⟩ := by
  obtain ⟨x, below, haccepted⟩ := accepted_of_canonicalize hgiven
  obtain ⟨hbelow, hmissing⟩ := h.accepted haccepted
  have hx := haccepted.target
  have hentry := haccepted.entry
  obtain ⟨entry, missing⟩ := x
  simp only at hmissing hentry
  rw [hx, hmissing, hentry, hbelow]

namespace AgentRuntime

variable {ω : Type} {d : Deployment} {u : UnicodeData}
  {p : Pool AgentShared (AgentPlatformThread ω)}

-- what a worker reports for a request is read from the entry that the evaluated resource names
structure ReadsEvaluated (d : Deployment) (i : ToolInvocation) (b : ExecutionBinding)
    (r : FilesystemResourceIdentityResolver) (path : String) (names : List String) : Prop where
  evaluated : b.resource = some path
  named : r.Names path names
  unprotected : i.toolId = "file_read" → ∀ name ∈ protectedResources, names ≠ [name]
  requested : ∀ given r₀, i.parameters.get? resourceParameter = some given →
    d.isFilesystemTool i.toolId = true → d.ResolvesWith i.toolId r₀ →
    r₀.canonicalize given = returns path ∧
      (r₀ = r → r.target given = some ⟨r.place.entry ++ names, []⟩)

theorem reads_evaluated {seen : World → Prop} {s : AgentRuntimeService ω} {query path : String}
    {q : SandboxRequest} {i : ToolInvocation} {b : ExecutionBinding} {names : List String}
    {r : FilesystemResourceIdentityResolver} (h : Mediates d seen s query q i b)
    (hpath : b.parameters.lookup resourceParameter = some path) (hnames : r.Names path names) :
    ReadsEvaluated d i b r path names := by
  have hresource : b.resource = some path := h.resource.trans hpath
  constructor
  case evaluated => exact hresource
  case named => exact hnames
  case unprotected =>
    rintro htool name hname rfl
    obtain ⟨w, -, hallow⟩ := h.allowed
    apply Deployment.allowed_unprotected h.evaluated hresource htool hallow
    rw [hnames.text]
    simpa [PosixPath.text, String.intercalate_singleton] using hname
  case requested =>
    intro given r₀ hgiven htool hd
    obtain ⟨found, hfound, hcanonical⟩ := Deployment.bound_identity h.evaluated hgiven htool hd
    obtain rfl : found = path := Option.some.inj (hfound.symm.trans hresource)
    exact ⟨hcanonical, by rintro rfl; exact hnames.requested hcanonical⟩

theorem delivered_resources_evaluated (world : World) (threads : List (AgentPlatformThread ω))
    (hstarts : ∀ c ∈ threads, Starts c) {ls : List (Nat × AgentTick)}
    (h : Pool.run (step d) ls (started world threads) = some p) {q : SandboxRequest}
    (hq : q ∈ p.shared.sandboxed) {c : SandboxCapabilities u} {parameters : Mapping}
    (hc : c.toExecutionCapabilities = q.capabilities) (hparameters : q.Carries parameters)
    {scratch : Option String} {descriptor : ToolExecutionDescriptor}
    (hd : ProcessToolExecutionSandbox.descriptor q.tool parameters c q.provenance q.implementationId
      (some q.toolVersion) scratch = some descriptor)
    (host : WorkspaceHost) (e : RunnerEnvironment u) {printed : String} {result : Value}
    (hrun : SandboxRunner.runHeadless (host.runner e) descriptor.toJson =
      .wrote printed (.success result)) :
    ∃ s agentId query i b guard r path names, .agent s (.start agentId query) ∈ threads ∧
      Mediates d (Visited d ls (started world threads)) s query q i b ∧
      host.resolverOf q.capabilities.filesystem.workspaceRoot = .ok r ∧
      FilesystemSandboxGuard.fromDict host.files q.capabilities.filesystem scratch none
        e.runtimeDirs =
        some guard ∧
      ReadsEvaluated d i b r path names ∧
      SandboxExecutionRegistry.Delivers host u (some guard) r names (.ofString q.implementationId)
        result := by
  obtain ⟨himplementation, hfield, hroot⟩ := descriptor_received hd
  rw [SandboxRunner.runHeadless_toJson (descriptor_loads hparameters hd),
    SandboxRunner.dispatch_success_iff] at hrun
  obtain ⟨-, guard, hguard, -, r, path, names, hanswers⟩ := hrun
  rw [descriptor_guard hd] at hguard
  obtain ⟨guard, hdict, rfl⟩ := Option.map_eq_some_iff.mp hguard
  rw [hc] at hdict
  obtain ⟨s, agentId, query, hstart, i, b, -, hmediates, -⟩ :=
    (mediated_run world threads hstarts h).runs q hq
  have hworkspace : host.resolverOf q.capabilities.filesystem.workspaceRoot = .ok r := by
    obtain ⟨root, hrequired, hresolver⟩ := hanswers.called.workspace
    rw [SandboxExecutionRegistry.requireWorkspaceRoot, hroot] at hrequired
    split at hrequired
    · simp only [textOf, Str.encodeUtf8_ofString, Option.getD_some, Except.ok.injEq] at hrequired
      rw [← hc, hrequired]
      exact hresolver
    · cases hrequired
  have hpath : b.parameters.lookup resourceParameter = some path :=
    carried_parameter hmediates.parameters hparameters
      ((hfield resourceParameter).symm.trans hanswers.called.parameter)
  have hdelivers := hanswers.delivers
  rw [himplementation] at hdelivers
  exact ⟨s, agentId, query, i, b, guard, r, path, names, hstart, hmediates, hworkspace, hdict,
    reads_evaluated hmediates hpath hanswers.named, hdelivers⟩

def reportTable : FileTree.Table :=
  [([], .directory), (["work"], .directory), (["work", "reports"], .directory),
    (["work", "reports", "q1.txt"], .file 9),
    (["work", "latest"], .symlink ⟨"", ["reports", "q1.txt"]⟩), (["work", "secrets.txt"], .file 7)]

theorem reportTable_sound : FileTree.TableSound reportTable id :=
  .of_names (by decide +kernel) (by decide +kernel) (by decide +kernel) (by decide +kernel)

def reportTree : FileTree := .ofTable reportTable id 4 reportTable_sound

theorem reportTree_root : reportTree.stat (.parse "/work") = some ⟨["work"], ["work"]⟩ := by
  decide +kernel

theorem reportTree_directory : reportTree.kind ["work"] = some .directory := by decide +kernel

def reportResolver : FilesystemResourceIdentityResolver where
  tree := reportTree
  casefold := id
  windowsAbsolute _ := false
  place := ⟨["work"], ["work"]⟩
  spells := FileTree.stat_spells reportTree_root
  directory := reportTree_directory

def reportHost : WorkspaceHost :=
  { tree := reportTree
    workingDirectory := ⟨"/", []⟩
    casefold := id
    windowsAbsolute := fun _ => false
    files := SandboxCapabilities.sampleFiles
    resolve := fun text => .ok text
    rendered := fun _ => "None"
    readText := fun inode => .ok (if inode = 9 then "Revenue: 10" else "s3cret")
    lookupException := fun _ path => { typeName := "FileNotFoundError", message := path }
    unpairedException := fun _ => { typeName := "UnicodeEncodeError" } }

theorem reportHost_resolver : reportHost.resolverOf "/work" = .ok reportResolver := by
  have hinit : FilesystemResourceIdentityResolver.init reportTree id (fun _ => false)
      ⟨"/", []⟩ "/work" = .ok reportResolver :=
    FilesystemResourceIdentityResolver.init_ok reportTree_root reportTree_directory
  simp only [WorkspaceHost.resolverOf, reportHost, hinit]

def reportCapabilities : ExecutionCapabilities :=
  { capabilityProfileId := "profile-file_read", filesystem := { workspaceRoot := "/work" } }

def reportDeployment : Deployment :=
  { ticketDeployment with
    registry := ⟨.set .empty "file_read" (.set .empty "1.0.0" ⟨"file_read", "1.0.0", "filesystem"⟩)⟩
    tools := ⟨.set .empty ("file_read", "1.0.0") ⟨"file_read", "1.0.0", .low, true⟩⟩
    capabilities := .set .empty "profile-file_read" reportCapabilities
    workspaces := fun _ => some reportResolver.identityOf }

def reportWorld : World :=
  World.sampleStores.postures
    [World.sampleStep 1 (.register { World.sampleAgent with approvedTools := ["file_read"] }
       systemRegistrationActor),
     World.sampleStep 2 (.activate "agent-1" systemRegistrationActor)]

def reportService : AgentRuntimeService Nat :=
  { ticketService with
    agent :=
      { agentId := "agent-1"
        invoke := fun _ =>
          .ok { toolId := "file_read", parameters := .set .empty "path" "latest" } }
    toolRegistry := (ExecutableRegistry.empty.register ⟨"file_read", "1.0.0"⟩ "filesystem"
      (some "file_read_v1")).toOption.getD .empty }

def reportThreads : List (AgentPlatformThread Nat) :=
  [.agent reportService (.start none "show me the latest report")]

theorem reportThreads_start : ∀ c ∈ reportThreads, Starts c := by
  intro c hc
  rw [List.mem_singleton.mp hc]
  trivial

theorem reportSchedule_runs : (Pool.run (step reportDeployment) ticketSchedule
    (started reportWorld reportThreads)).any (fun p => p.shared.sandboxed.any (fun q =>
      q.parameters.entries = [(.text "path", .text "reports/q1.txt")] ∧
        q.capabilities = reportCapabilities ∧ q.tool.toolId = "file_read" ∧
          q.implementationId = "file_read_v1")) = true := by
  decide +kernel

def reportMapping : Mapping :=
  textParameters (.set .empty (.ofString "path") (.ofString "reports/q1.txt"))

def reportConfinement : SandboxCapabilities .ascii := ⟨reportCapabilities, []⟩

theorem report_named : reportResolver.Names "reports/q1.txt" ["reports", "q1.txt"] :=
  ⟨by decide +kernel, by decide +kernel, by decide +kernel, by decide +kernel⟩

def reportGuard : FilesystemSandboxGuard :=
  { workspaceRoot := ⟨"/", ["work"]⟩ }

theorem report_answers {d : ToolExecutionDescriptor}
    (hroot : (SandboxRunner.context d).workspaceRoot = .str (.ofString "/work"))
    (hfield : d.parameters.field "path" = some (.str (.ofString "reports/q1.txt"))) :
    SandboxExecutionRegistry.Answers reportHost .ascii (some reportGuard) (.ofString "file_read_v1")
      d.parameters (SandboxRunner.context d) reportResolver "reports/q1.txt" ["reports", "q1.txt"]
      (SandboxExecutionRegistry.textValue "Revenue: 10") := by
  refine ⟨⟨⟨"/work", ?_, reportHost_resolver⟩, hfield⟩, report_named, by decide +kernel, ?_⟩
  · rw [SandboxExecutionRegistry.requireWorkspaceRoot, hroot]
    rfl
  · exact .file 9 "Revenue: 10" (by decide +kernel) (by decide +kernel) rfl

theorem delivered_resources_evaluated_sample : ∃ p q descriptor,
    Pool.run (step reportDeployment) ticketSchedule (started reportWorld reportThreads) = some p ∧
    q ∈ p.shared.sandboxed ∧
    SandboxRunner.runHeadless (reportHost.runner ProcessToolExecutionSandbox.sampleEnvironment)
      (ToolExecutionDescriptor.toJson descriptor) =
        .wrote "" (.success (SandboxExecutionRegistry.textValue "Revenue: 10")) ∧
    ∃ s agentId query i b guard r path names, .agent s (.start agentId query) ∈ reportThreads ∧
      Mediates reportDeployment (Visited reportDeployment ticketSchedule
        (started reportWorld reportThreads)) s query q i b ∧
      reportHost.resolverOf q.capabilities.filesystem.workspaceRoot = .ok r ∧
      FilesystemSandboxGuard.fromDict reportHost.files q.capabilities.filesystem none none [] =
        some guard ∧
      ReadsEvaluated reportDeployment i b r path names ∧
      SandboxExecutionRegistry.Delivers reportHost .ascii (some guard) r names
        (.ofString q.implementationId) (SandboxExecutionRegistry.textValue "Revenue: 10") := by
  obtain ⟨p, hp, hany⟩ := (Option.any_eq_true _ _).mp reportSchedule_runs
  obtain ⟨q, hq, hfacts⟩ := List.any_eq_true.mp hany
  obtain ⟨hparameters, hcapabilities, htool, himplementation⟩ := of_decide_eq_true hfacts
  have hcarries : q.Carries reportMapping := by
    rw [SandboxRequest.Carries, hparameters]
    rfl
  obtain ⟨descriptor, hd⟩ :
    ∃ descriptor, ProcessToolExecutionSandbox.descriptor q.tool reportMapping
      reportConfinement q.provenance q.implementationId (some q.toolVersion) none =
        some descriptor := by
    rw [ProcessToolExecutionSandbox.descriptor, ToolExecutionDescriptor.construct, htool,
      himplementation]
    exact ⟨_, dif_pos ProcessToolExecutionSandbox.sampleIds_ne⟩
  have hrun : SandboxRunner.runHeadless
      (reportHost.runner ProcessToolExecutionSandbox.sampleEnvironment) descriptor.toJson =
        .wrote "" (.success (SandboxExecutionRegistry.textValue "Revenue: 10")) := by
    obtain ⟨hid, hfield, hroot⟩ := descriptor_received hd
    rw [SandboxRunner.runHeadless_toJson (descriptor_loads hcarries hd),
      SandboxRunner.dispatch_success_iff, descriptor_guard hd, hid, himplementation]
    exact ⟨rfl, some reportGuard, rfl, descriptor_network (fun _ => rfl) hd, _, _, _,
      report_answers hroot ((hfield "path").trans rfl)⟩
  exact ⟨p, q, descriptor, hp, hq, hrun, delivered_resources_evaluated reportWorld reportThreads
    reportThreads_start hp hq hcapabilities.symm hcarries hd reportHost _ hrun⟩

end AgentRuntime

end AgentSecurityPlatform
