import AgentSecurityPlatform.Executor.Preparation
import AgentSecurityPlatform.Sandbox.Reconciliation

namespace AgentSecurityPlatform

open PythonJson

theorem sortedSet_sameMembers {xs ys : List String}
    (h : ExecutionCapabilities.sortedSet xs = ExecutionCapabilities.sortedSet ys) :
    SameMembers xs ys := by
  have hsort := List.map_injective_iff.mpr
    (fun a b hab => Str.ofString_injective (Value.str.inj hab)) (Value.array.inj h)
  intro x
  rw [← List.mem_eraseDups, ← List.mem_insertionSort (r := (· ≤ ·)), hsort, List.mem_insertionSort,
    List.mem_eraseDups]

-- the fields a digest fixes, the collections as sets
structure ExecutionCapabilities.SameDigested (c c' : ExecutionCapabilities) : Prop where
  profile : c.capabilityProfileId = c'.capabilityProfileId
  workspaceRoot : c.filesystem.workspaceRoot = c'.filesystem.workspaceRoot
  readOnly : c.filesystem.readOnly = c'.filesystem.readOnly
  subpaths : SameMembers c.filesystem.allowedSubpaths c'.filesystem.allowedSubpaths
  tempWrites : c.filesystem.allowTempWrites = c'.filesystem.allowTempWrites
  environment : c.environmentVariables.entries.Perm c'.environmentVariables.entries
  bind : c.network.allowBind = c'.network.allowBind
  unixSockets : c.network.allowUnixSockets = c'.network.allowUnixSockets
  allowed : SameMembers c.network.allowedDestinations c'.network.allowedDestinations
  mode : c.network.mode = c'.network.mode
  memory : c.resources.maxMemoryBytes = c'.resources.maxMemoryBytes
  cpu : c.resources.maxCpuSeconds = c'.resources.maxCpuSeconds
  output : c.resources.maxOutputBytes = c'.resources.maxOutputBytes
  timeout : c.resources.wallClockTimeoutSeconds = c'.resources.wallClockTimeoutSeconds
  controls : SameMembers c.resources.requiredControls c'.resources.requiredControls

theorem mode_value_injective : Function.Injective NetworkEgressMode.value := by
  intro m m' h
  revert h
  cases m <;> cases m' <;> decide

theorem environment_perm {e e' : List (String × String)}
    (h : ExecutionCapabilities.sortedEnvironment e = ExecutionCapabilities.sortedEnvironment e') :
    e.Perm e' := by
  have hsort := List.map_injective_iff.mpr ExecutionBinding.pairJson_injective (Value.array.inj h)
  have hperm := List.perm_insertionSort (fun p q : String × String => p.1 ≤ q.1) e
  rw [hsort] at hperm
  exact hperm.symm.trans (List.perm_insertionSort _ e')

namespace ExecutionCapabilities

theorem sorted_sortedSet (xs : List String) : sorted (sortedSet xs) = sortedSet xs :=
  sorted_array_map (fun _ => rfl) _

theorem sorted_environment (entries : List (String × String)) :
    sorted (sortedEnvironment entries) = sortedEnvironment entries :=
  ExecutionBinding.sorted_pairs _

theorem recoverable_sortedSet (xs : List String) : Recoverable (sortedSet xs) := by
  refine recoverable_array fun x hx => ?_
  obtain ⟨text, -, rfl⟩ := List.mem_map.mp hx
  exact recoverable_str text

theorem recoverable_canonical (f : Instant → FloatText) (c : ExecutionCapabilities) :
    Recoverable (c.canonical f) := by
  refine recoverable_keyed (by simp) ?_
  simp only [List.forall_mem_cons, List.not_mem_nil, IsEmpty.forall_iff, implies_true, and_true]
  refine ⟨recoverable_str _, ?filesystem, ExecutionBinding.recoverable_pairs _,
    ?network, ?resources⟩
  case filesystem =>
    exact recoverable_keyed (by simp)
      (by simp [recoverable_str, recoverable_bool, recoverable_sortedSet])
  case network =>
    exact recoverable_keyed (by simp)
      (by simp [recoverable_str, recoverable_bool, recoverable_sortedSet])
  case resources =>
    exact recoverable_keyed (by simp)
      (by simp [recoverable_int, recoverable_float, recoverable_sortedSet])

variable {f : Instant → FloatText} {c c' : ExecutionCapabilities}

theorem sameDigested_of_canonical (hf : Function.Injective f)
    (h : sorted (c.canonical f) = sorted (c'.canonical f)) : c.SameDigested c' := by
  have hprofile := member_of_sorted_keyed h (by simp) 0 rfl rfl
  have hfiles := member_of_sorted_keyed h (by simp) 1 rfl rfl
  have henv := member_of_sorted_keyed h (by simp) 2 rfl rfl
  have hnetwork := member_of_sorted_keyed h (by simp) 3 rfl rfl
  have hresources := member_of_sorted_keyed h (by simp) 4 rfl rfl
  have hroot := member_of_sorted_keyed hfiles (by simp) 0 rfl rfl
  have hread := member_of_sorted_keyed hfiles (by simp) 1 rfl rfl
  have hsub := member_of_sorted_keyed hfiles (by simp) 2 rfl rfl
  have htemp := member_of_sorted_keyed hfiles (by simp) 3 rfl rfl
  have hbind := member_of_sorted_keyed hnetwork (by simp) 0 rfl rfl
  have hunix := member_of_sorted_keyed hnetwork (by simp) 1 rfl rfl
  have hallowed := member_of_sorted_keyed hnetwork (by simp) 2 rfl rfl
  have hmode := member_of_sorted_keyed hnetwork (by simp) 3 rfl rfl
  have hmemory := member_of_sorted_keyed hresources (by simp) 0 rfl rfl
  have hcpu := member_of_sorted_keyed hresources (by simp) 1 rfl rfl
  have houtput := member_of_sorted_keyed hresources (by simp) 2 rfl rfl
  have hwall := member_of_sorted_keyed hresources (by simp) 3 rfl rfl
  have hcontrols := member_of_sorted_keyed hresources (by simp) 4 rfl rfl
  rw [sorted_sortedSet, sorted_sortedSet] at hsub hallowed hcontrols
  rw [sorted_environment, sorted_environment] at henv
  have htext {s t : String} (hst : Value.str (.ofString s) = .str (.ofString t)) : s = t :=
    Str.ofString_injective (Value.str.inj hst)
  exact ⟨htext hprofile, htext hroot, Value.bool.inj hread, sortedSet_sameMembers hsub,
    Value.bool.inj htemp, environment_perm henv, Value.bool.inj hbind, Value.bool.inj hunix,
    sortedSet_sameMembers hallowed, mode_value_injective (htext hmode),
    Int.ofNat.inj (Value.int.inj hmemory), hf (Value.float.inj hcpu),
    Int.ofNat.inj (Value.int.inj houtput), hf (Value.float.inj hwall),
    sortedSet_sameMembers hcontrols⟩

end ExecutionCapabilities

section Endpoints

variable {u : UnicodeData}

structure SameEndpoints (ds es : List (NetworkDestination u)) : Prop where
  hosts : SameMembers (ds.map (·.host)) (es.map (·.host))
  ports : SameMembers (ds.map (·.port)) (es.map (·.port))

theorem sameMembers_map {α β : Type} (f : α → β) {xs ys : List α} (h : SameMembers xs ys) :
    SameMembers (xs.map f) (ys.map f) := by
  intro y
  simp only [List.mem_map]
  exact exists_congr (fun x => and_congr_left (fun _ => h x))

theorem sameEndpoints_of_synced {allowed allowed' : List String}
    {ds es : List (NetworkDestination u)} (h : NetworkInput.Synced allowed ds)
    (h' : NetworkInput.Synced allowed' es) (hsame : SameMembers allowed allowed') :
    SameEndpoints ds es := by
  have hmembers : SameMembers ds es :=
    fun d => ⟨h.subset h' hsame d, h'.subset h (fun text => (hsame text).symm) d⟩
  exact ⟨sameMembers_map _ hmembers, sameMembers_map _ hmembers⟩

theorem any_of_sameMembers {α : Type} {xs ys : List α} (h : SameMembers xs ys) (p : α → Bool) :
    xs.any p = ys.any p := by
  rw [Bool.eq_iff_iff, List.any_eq_true, List.any_eq_true]
  exact exists_congr (fun x => and_congr_left (fun _ => h x))

namespace NetworkSandboxGuard

variable {g g' : NetworkSandboxGuard u}

theorem checkDestination_of_sameEndpoints (hactive : g.active = g'.active)
    (hmode : g.mode = g'.mode)
    (hsame : SameEndpoints g.destinations g'.destinations) (r : Resolver u) (hostOrIp : String)
    (port : Int) : checkDestination r g hostOrIp port = checkDestination r g' hostOrIp port := by
  have hhosts : SameMembers g.allowedHosts g'.allowedHosts := by
    simpa only [allowedHosts, NetworkDestination.lower_host] using hsame.hosts
  have hports (p : Nat → Bool) : g.allowedPorts.any p = g'.allowedPorts.any p :=
    any_of_sameMembers hsame.ports p
  have hany (p : String → Bool) : g.allowedHosts.any p = g'.allowedHosts.any p :=
    any_of_sameMembers hhosts p
  simp only [checkDestination, hactive, hmode, hports, hany, hhosts _]

theorem endpoints_subset (hactive : g.active = true) (hmode : g.mode = .allowlist)
    (hactive' : g'.active = true) (hmode' : g'.mode = .allowlist)
    (hsame : ∀ (r : Resolver u) hostOrIp port,
      checkDestination r g hostOrIp port = checkDestination r g' hostOrIp port)
    {d : NetworkDestination u} (hd : d ∈ g.destinations) :
    d.host ∈ g'.destinations.map (·.host) ∧ d.port ∈ g'.destinations.map (·.port) := by
  obtain ⟨r, hostOrIp, hok, honly⟩ := exists_request hactive hmode hd hd
    (g'.destinations.map (·.host))
  rw [hsame] at hok
  obtain ⟨⟨e, he, hport⟩, hhost⟩ := (checkDestination_ok_iff hactive' hmode').mp hok
  constructor
  · rcases hhost with ⟨-, -, -, f, hf, hhas⟩ | ⟨-, ⟨f, hf, hnames⟩, -⟩
    · rw [← honly f (List.mem_map_of_mem hf) (.inr hhas)]
      exact List.mem_map_of_mem hf
    · rw [← honly f (List.mem_map_of_mem hf) (.inl hnames)]
      exact List.mem_map_of_mem hf
  · rw [← Int.ofNat.inj hport]
    exact List.mem_map_of_mem he

theorem sameEndpoints_of_same_decisions (hactive : g.active = true) (hmode : g.mode = .allowlist)
    (hactive' : g'.active = true) (hmode' : g'.mode = .allowlist)
    (hsame : ∀ (r : Resolver u) hostOrIp port,
      checkDestination r g hostOrIp port = checkDestination r g' hostOrIp port) :
    SameEndpoints g.destinations g'.destinations := by
  have hleft := fun d hd => endpoints_subset (d := d) hactive hmode hactive' hmode' hsame hd
  have hright := fun d hd => endpoints_subset (d := d) hactive' hmode' hactive hmode
    (fun r hostOrIp port => (hsame r hostOrIp port).symm) hd
  constructor
  · intro host
    constructor
    · intro hmem
      obtain ⟨d, hd, rfl⟩ := List.mem_map.mp hmem
      exact (hleft d hd).1
    · intro hmem
      obtain ⟨d, hd, rfl⟩ := List.mem_map.mp hmem
      exact (hright d hd).1
  · intro port
    constructor
    · intro hmem
      obtain ⟨d, hd, rfl⟩ := List.mem_map.mp hmem
      exact (hleft d hd).2
    · intro hmem
      obtain ⟨d, hd, rfl⟩ := List.mem_map.mp hmem
      exact (hright d hd).2

theorem checkDestination_disabled (hactive : g.active = true) (hmode : g.mode = .disabled)
    (r : Resolver u) (hostOrIp : String) (port : Int) :
    checkDestination r g hostOrIp port =
      .error (redacted "Network egress is disabled by sandbox capability") := by
  simp [checkDestination, hactive, hmode]

end NetworkSandboxGuard

end Endpoints

namespace FilesystemSandboxGuard

variable {g g' : FilesystemSandboxGuard}

theorem ne_nil_of_sameMembers {α : Type} {xs ys : List α} (h : SameMembers xs ys) :
    xs ≠ [] ↔ ys ≠ [] := by
  simp only [ne_eq, List.eq_nil_iff_forall_not_mem, h _]

def withSubpaths (g : FilesystemSandboxGuard) (subpaths : List String) : FilesystemSandboxGuard :=
  { g with allowedSubpaths := subpaths }

theorem checkAccess_withSubpaths {subpaths : List String}
    (h : SameMembers g.allowedSubpaths subpaths)
    (u : UnicodeData) (fs : Filesystem) (target : AuditTarget) (isWrite : Bool) :
    (g.withSubpaths subpaths).checkAccess u fs target isWrite =
      g.checkAccess u fs target isWrite := by
  have hwrite (resolved : PosixPath) :
      (g.withSubpaths subpaths).checkWrite resolved = g.checkWrite resolved := by
    simp only [checkWrite, withSubpaths, inScratch, subpath, any_of_sameMembers h,
      ne_nil_of_sameMembers h]
    congr
  have hread (resolved : PosixPath) :
      (g.withSubpaths subpaths).checkRead resolved = g.checkRead resolved := by
    simp only [checkRead, withSubpaths, inScratch, subpath, any_of_sameMembers h,
      ne_nil_of_sameMembers h]
    congr
  simp only [checkAccess, hwrite, hread]
  rfl

theorem auditHook_withSubpaths {subpaths : List String} (h : SameMembers g.allowedSubpaths subpaths)
    (u : UnicodeData) (fs : Filesystem) (event : FileEvent) :
    (g.withSubpaths subpaths).auditHook u fs event = g.auditHook u fs event := by
  cases event with
  | _ => simp only [auditHook, checkAccess_withSubpaths h]

end FilesystemSandboxGuard

namespace SandboxCapabilities

variable {u : UnicodeData} {fs : Filesystem} {upper : String → String}
  {c c' : SandboxCapabilities u} {i i' : CapabilitiesInput u} {h : CapabilityHashing}

def fileDecision (fs : Filesystem) (c : SandboxCapabilities u)
    (scratchDir platformRoot : Option String)
    (runtimeDirs : List PosixPath) (event : FileEvent) : Option (Except String Unit) :=
  (FilesystemSandboxGuard.fromDict fs c.filesystem scratchDir platformRoot runtimeDirs).map
    (fun g =>
    FilesystemSandboxGuard.auditHook u fs { g with active := true } event)

def networkDecision (c : SandboxCapabilities u) (r : Resolver u) (hostOrIp : String) (port : Int) :
    Option (Except String Unit) :=
  (NetworkSandboxGuard.fromDict u c.dumpNetwork).map (fun g =>
    NetworkSandboxGuard.checkDestination r { g with active := true } hostOrIp port)

structure SameConfinement (fs : Filesystem) (c c' : SandboxCapabilities u) : Prop where
  files : ∀ scratchDir platformRoot runtimeDirs event,
    c.fileDecision fs scratchDir platformRoot runtimeDirs event =
      c'.fileDecision fs scratchDir platformRoot runtimeDirs event
  network : ∀ r hostOrIp port, c.networkDecision r hostOrIp port =
    c'.networkDecision r hostOrIp port
  environment : ∀ key, c.environmentVariables.get? key = c'.environmentVariables.get? key
  resources : c.resources = c'.resources

-- equal digests bind the confinement, and so does a grant issued for c and verified against c'
structure DigestBinds (fs : Filesystem) (h : CapabilityHashing) (c c' : SandboxCapabilities u) :
    Prop where
  digest : c.computeDigest h = c'.computeDigest h → c.SameConfinement fs c'
  grant : ∀ (g : RuntimeExecutionGrant) toolId, g.capabilityDigest = some (c.computeDigest h) →
    verifyCapabilityBinding h g c'.toExecutionCapabilities toolId = .ok () → c.SameConfinement fs c'

structure Accepted (fs : Filesystem) (i : CapabilitiesInput u) (c : SandboxCapabilities u) :
    Prop where
  network : ∃ n, i.network.construct = some n ∧ n.toNetworkCapability = c.network ∧
    n.destinations = c.destinations
  resources : i.resources.construct = some c.resources

theorem accepted_of_construct (hc : i.construct fs upper = some c) : Accepted fs i c := by
  simp only [CapabilitiesInput.construct] at hc
  split at hc
  · cases hc
  · split at hc
    · rename_i filesystem network resources hf hn hr
      cases hc
      exact ⟨⟨network, hn, rfl, rfl⟩, hr⟩
    · cases hc

def networkGuard (c : SandboxCapabilities u) : NetworkSandboxGuard u :=
  { mode := c.network.mode
    destinations := c.destinations
    allowUnixSockets := c.network.allowUnixSockets
    allowBind := c.network.allowBind
    active := true }

theorem networkDecision_eq (hc : Accepted fs i c) (r : Resolver u) (hostOrIp : String)
    (port : Int) :
    c.networkDecision r hostOrIp port =
      some (NetworkSandboxGuard.checkDestination r c.networkGuard hostOrIp port) := by
  obtain ⟨n, hn, hnetwork, hds⟩ := hc.network
  have hdests : (if c.dumpNetwork.destinations ≠ [] then
      c.dumpNetwork.destinations.mapM (fun d => NetworkDestination.construct u d.1 d.2)
      else c.dumpNetwork.allowedDestinations.mapM (NetworkInput.splitDestination u)) =
        some c.destinations := by
    split
    · exact mapM_construct c.destinations
    · rename_i hempty
      have hnone : c.destinations = [] := by simpa [dumpNetwork] using hempty
      have hallowed : c.network.allowedDestinations = [] := by
        rw [← hnetwork]
        exact NetworkInput.allowed_of_no_destinations hn (hds.trans hnone)
      simp only [dumpNetwork, hallowed, hnone]
      rfl
  simp only [networkDecision, NetworkSandboxGuard.fromDict, hdests, Option.map_some]
  rfl

theorem resources_eq (hc : Accepted fs i c) (hc' : Accepted fs i' c')
    (hsame : c.toExecutionCapabilities.SameDigested c'.toExecutionCapabilities) :
    c.resources = c'.resources := by
  have hr := hc.resources
  have hr' := hc'.resources
  have hcontrols := hsame.controls
  simp only [ResourceLimits.construct] at hr hr'
  split at hr
  · split at hr'
    · have hsorted := Option.some.inj hr
      have hsorted' := Option.some.inj hr'
      rw [← hsorted, ← hsorted'] at hcontrols
      have heq := sortedTexts_eq hcontrols
      have hmemory := hsame.memory
      have hcpu := hsame.cpu
      have houtput := hsame.output
      have htimeout := hsame.timeout
      rw [← hsorted, ← hsorted'] at hmemory hcpu houtput htimeout
      rw [← hsorted, ← hsorted']
      simp only at hmemory hcpu houtput htimeout
      simp only [hmemory, hcpu, houtput, htimeout, heq]
    · cases hr'
  · cases hr

theorem fileDecision_eq (hsame : c.toExecutionCapabilities.SameDigested c'.toExecutionCapabilities)
    (scratchDir platformRoot : Option String) (runtimeDirs : List PosixPath) (event : FileEvent) :
    c.fileDecision fs scratchDir platformRoot runtimeDirs event =
      c'.fileDecision fs scratchDir platformRoot runtimeDirs event := by
  have hfiles : c'.filesystem =
      { c.filesystem with allowedSubpaths := c'.filesystem.allowedSubpaths } := by
    simp only [hsame.workspaceRoot, hsame.readOnly, hsame.tempWrites]
  rw [fileDecision, fileDecision, hfiles]
  simp only [FilesystemSandboxGuard.fromDict]
  split
  · simp only [Option.map_some]
    exact congrArg some
      (FilesystemSandboxGuard.auditHook_withSubpaths hsame.subpaths u fs event).symm
  · rfl

theorem sameConfinement_iff (hc : Accepted fs i c) (hc' : Accepted fs i' c')
    (hsame : c.toExecutionCapabilities.SameDigested c'.toExecutionCapabilities) :
    c.SameConfinement fs c' ↔
      c.network.mode = .disabled ∨ SameEndpoints c.destinations c'.destinations := by
  have henv (key : String) :
      c.environmentVariables.get? key = c'.environmentVariables.get? key := by
    apply Option.ext
    intro value
    rw [← Dict.mem_entries_iff, ← Dict.mem_entries_iff]
    exact hsame.environment.mem_iff
  constructor
  · intro hconf
    cases hmode : c.network.mode with
    | disabled => exact .inl rfl
    | allowlist =>
      have hdecisions (r : Resolver u) (hostOrIp : String) (port : Int) :
          NetworkSandboxGuard.checkDestination r c.networkGuard hostOrIp port =
            NetworkSandboxGuard.checkDestination r c'.networkGuard hostOrIp port := by
        have hdecision := hconf.network r hostOrIp port
        rw [networkDecision_eq hc, networkDecision_eq hc'] at hdecision
        exact Option.some.inj hdecision
      exact .inr (NetworkSandboxGuard.sameEndpoints_of_same_decisions rfl hmode rfl
        (hsame.mode.symm.trans hmode) hdecisions)
  · intro hcond
    refine ⟨fileDecision_eq hsame, ?_, henv, resources_eq hc hc' hsame⟩
    intro r hostOrIp port
    rw [networkDecision_eq hc, networkDecision_eq hc']
    rcases hcond with hdisabled | hends
    · rw [NetworkSandboxGuard.checkDestination_disabled rfl hdisabled,
        NetworkSandboxGuard.checkDestination_disabled rfl (hsame.mode.symm.trans hdisabled)]
    · have hactive : c.networkGuard.active = c'.networkGuard.active := rfl
      rw [NetworkSandboxGuard.checkDestination_of_sameEndpoints hactive hsame.mode hends]

theorem sameDigested (hsha : Function.Injective h.sha256) (hfloat : Function.Injective h.reprFloat)
    (heq : c.computeDigest h = c'.computeDigest h) :
    c.toExecutionCapabilities.SameDigested c'.toExecutionCapabilities :=
  ExecutionCapabilities.sameDigested_of_canonical hfloat
    (dumps_injective .compact (c.recoverable_canonical h.reprFloat).sorted.loadable
      (c'.recoverable_canonical h.reprFloat).sorted.loadable (hsha heq))

theorem sameEndpoints_of_reconciled (hc : Accepted fs i c) (hc' : Accepted fs i' c')
    (hrec : i.network.Reconciled) (hrec' : i'.network.Reconciled)
    (hsame : c.toExecutionCapabilities.SameDigested c'.toExecutionCapabilities) :
    SameEndpoints c.destinations c'.destinations := by
  obtain ⟨n, hn, hnetwork, hds⟩ := hc.network
  obtain ⟨n', hn', hnetwork', hds'⟩ := hc'.network
  have hsynced := NetworkInput.synced_of_reconciled hn hrec
  have hsynced' := NetworkInput.synced_of_reconciled hn' hrec'
  have hallowed := hsame.allowed
  rw [← hnetwork, ← hnetwork'] at hallowed
  rw [← hds, ← hds']
  exact sameEndpoints_of_synced hsynced hsynced' hallowed

theorem digestBinds_of_condition (hsha : Function.Injective h.sha256)
    (hfloat : Function.Injective h.reprFloat) (hc : Accepted fs i c) (hc' : Accepted fs i' c')
    (hcond : c.computeDigest h = c'.computeDigest h →
      c.network.mode = .disabled ∨ SameEndpoints c.destinations c'.destinations) :
    DigestBinds fs h c c' := by
  have hbinds (heq : c.computeDigest h = c'.computeDigest h) : c.SameConfinement fs c' :=
    (sameConfinement_iff hc hc' (sameDigested hsha hfloat heq)).mpr (hcond heq)
  refine ⟨hbinds, fun g toolId hissued hverified => hbinds ?_⟩
  have hdigest := (DefaultToolExecutor.verifyCapabilityBinding_ok_iff.mp hverified).2
  exact Option.some.inj (hissued.symm.trans hdigest)

theorem digest_binds_confinement_iff (hsha : Function.Injective h.sha256)
    (hfloat : Function.Injective h.reprFloat) (hc : i.construct fs upper = some c)
    (hc' : i'.construct fs upper = some c') :
    (DigestBinds fs h c c' ↔ (c.computeDigest h = c'.computeDigest h →
      c.network.mode = .disabled ∨ SameEndpoints c.destinations c'.destinations)) ∧
    (i.network.Reconciled → i'.network.Reconciled → DigestBinds fs h c c') := by
  have haccepted := accepted_of_construct hc
  have haccepted' := accepted_of_construct hc'
  refine ⟨⟨fun hbinds heq => ?_, digestBinds_of_condition hsha hfloat haccepted haccepted'⟩,
    fun hrec hrec' => ?_⟩
  · exact (sameConfinement_iff haccepted haccepted' (sameDigested hsha hfloat heq)).mp
      (hbinds.digest heq)
  · apply digestBinds_of_condition hsha hfloat haccepted haccepted'
    intro heq
    exact .inr (sameEndpoints_of_reconciled haccepted haccepted' hrec hrec'
      (sameDigested hsha hfloat heq))

def sampleFiles : Filesystem := ⟨some, fun _ => ""⟩

def sampleInput (destinations : List (DestinationInput .ascii))
    (allowed : Option (List (AllowedInput .ascii))) : CapabilitiesInput .ascii :=
  { capabilityProfileId := "profile-web_fetch", filesystem := { workspaceRoot := "/srv/files" },
    network := { mode := .allowlist, destinations, allowedDestinations := allowed } }

theorem sampleHashing_injective :
    Function.Injective DefaultToolExecutor.sampleHashing.sha256 ∧
      Function.Injective DefaultToolExecutor.sampleHashing.reprFloat := by
  constructor
  · intro j k hjk
    have hlist := congrArg String.toList hjk
    simp only [DefaultToolExecutor.sampleHashing, String.toList_append,
      List.append_cancel_left_eq] at hlist
    exact String.toList_inj.mp hlist
  · exact FloatText.ofMicroseconds_injective

def sampleEffective (allowed : List String) : ExecutionCapabilities :=
  { capabilityProfileId := "profile-web_fetch", filesystem := { workspaceRoot := "/srv/files" },
    network := { mode := .allowlist, allowedDestinations := allowed } }

def sampleNamed : CapabilitiesInput .ascii := sampleInput [] (some [.text "API.example.com:443"])

def sampleStructured : CapabilitiesInput .ascii := sampleInput [.fields "api.example.com" 443] none

theorem digest_binds_string_and_object :
    ∃ c c', sampleNamed.construct sampleFiles id = some c ∧
      sampleStructured.construct sampleFiles id = some c' ∧
      c.computeDigest DefaultToolExecutor.sampleHashing =
        c'.computeDigest DefaultToolExecutor.sampleHashing ∧
      c.SameConfinement sampleFiles c' := by
  have hnamed : (sampleNamed.construct sampleFiles id).map (·.toExecutionCapabilities) =
      some (sampleEffective ["api.example.com:443"]) := by decide +kernel
  have hstructured : (sampleStructured.construct sampleFiles id).map (·.toExecutionCapabilities) =
      some (sampleEffective ["api.example.com:443"]) := by decide +kernel
  obtain ⟨c, hc, heq⟩ := Option.map_eq_some_iff.mp hnamed
  obtain ⟨c', hc', heq'⟩ := Option.map_eq_some_iff.mp hstructured
  have hdigest : c.computeDigest DefaultToolExecutor.sampleHashing =
      c'.computeDigest DefaultToolExecutor.sampleHashing := by
    rw [heq, heq']
  have hbinds := (digest_binds_confinement_iff sampleHashing_injective.1 sampleHashing_injective.2
    hc hc').2 (.inl rfl) (.inr (fun items hitems => by cases hitems))
  exact ⟨c, c', hc, hc', hdigest, hbinds.digest hdigest⟩

def sampleCrossed : CapabilitiesInput .ascii :=
  sampleInput [.text "api.example.com:443"] (some [.text "db.example.org:5432"])

def sampleSwapped : CapabilitiesInput .ascii :=
  sampleInput [.text "db.example.org:5432"] (some [.text "api.example.com:443"])

def decisionFor (i : CapabilitiesInput .ascii) : Option (Option (Except String Unit)) :=
  (i.construct sampleFiles id).map
    (·.networkDecision NetworkSandboxGuard.sampleResolver "api.example.com" 443)

theorem digest_shared_across_confinements :
    ∃ c c', sampleCrossed.construct sampleFiles id = some c ∧
      sampleSwapped.construct sampleFiles id = some c' ∧
      c.computeDigest DefaultToolExecutor.sampleHashing =
        c'.computeDigest DefaultToolExecutor.sampleHashing ∧
      c.networkDecision NetworkSandboxGuard.sampleResolver "api.example.com" 443 = some (.ok ()) ∧
      c'.networkDecision NetworkSandboxGuard.sampleResolver "api.example.com" 443 =
        some (.error (NetworkSandboxGuard.redacted
          "Network egress port is forbidden by allowlist")) ∧
      ¬ DigestBinds sampleFiles DefaultToolExecutor.sampleHashing c c' := by
  have hcrossed : (sampleCrossed.construct sampleFiles id).map (·.toExecutionCapabilities) =
      some (sampleEffective ["api.example.com:443", "db.example.org:5432"]) := by decide +kernel
  have hswapped : (sampleSwapped.construct sampleFiles id).map (·.toExecutionCapabilities) =
      some (sampleEffective ["api.example.com:443", "db.example.org:5432"]) := by decide +kernel
  have hopen : decisionFor sampleCrossed = some (some (.ok ())) := by decide +kernel
  have hshut : decisionFor sampleSwapped = some (some (.error (NetworkSandboxGuard.redacted
      "Network egress port is forbidden by allowlist"))) := by decide +kernel
  obtain ⟨c, hc, heq⟩ := Option.map_eq_some_iff.mp hcrossed
  obtain ⟨c', hc', heq'⟩ := Option.map_eq_some_iff.mp hswapped
  have hdigest : c.computeDigest DefaultToolExecutor.sampleHashing =
      c'.computeDigest DefaultToolExecutor.sampleHashing := by
    rw [heq, heq']
  rw [decisionFor, hc] at hopen
  rw [decisionFor, hc'] at hshut
  have hok := Option.some.inj hopen
  have hno := Option.some.inj hshut
  refine ⟨c, c', hc, hc', hdigest, hok, hno, fun hbinds => ?_⟩
  have hsame :=
    (hbinds.digest hdigest).network NetworkSandboxGuard.sampleResolver "api.example.com" 443
  have himpossible := hok.symm.trans (hsame.trans hno)
  cases himpossible

end SandboxCapabilities

end AgentSecurityPlatform
