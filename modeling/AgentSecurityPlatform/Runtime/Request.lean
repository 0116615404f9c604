import AgentSecurityPlatform.Authority.ExecutionAuthority
import AgentSecurityPlatform.Authorization.Service
import AgentSecurityPlatform.Detection.ExcessiveDenials
import AgentSecurityPlatform.Session.Service

namespace AgentSecurityPlatform

open PythonJson

structure FilesystemCapability where
  workspaceRoot : String
  readOnly : Bool := true
  allowedSubpaths : List String := []
  allowTempWrites : Bool := false
  deriving DecidableEq, Repr

inductive NetworkEgressMode where
  | disabled
  | allowlist
  deriving DecidableEq, Repr

def NetworkEgressMode.value : NetworkEgressMode → String
  | .disabled => "disabled"
  | .allowlist => "allowlist"

structure NetworkCapability where
  mode : NetworkEgressMode := .disabled
  allowedDestinations : List String := []
  allowUnixSockets : Bool := false
  allowBind : Bool := false
  deriving DecidableEq, Repr

structure ResourceLimits where
  maxMemoryBytes : Nat := 256 * 1024 * 1024
  maxCpuSeconds : Instant := 5 * 1000000
  maxOutputBytes : Nat := 1024 * 1024
  wallClockTimeoutSeconds : Instant := 10 * 1000000
  requiredControls : List String := []
  deriving DecidableEq, Repr

structure ExecutionCapabilities where
  capabilityProfileId : String
  filesystem : FilesystemCapability
  environmentVariables : Dict String String := .empty
  network : NetworkCapability := {}
  resources : ResourceLimits := {}
  deriving DecidableEq

structure CapabilityHashing where
  reprFloat : Instant → FloatText
  sha256 : String → String

namespace ExecutionCapabilities

def sortedSet (xs : List String) : Value :=
  .array ((xs.eraseDups.insertionSort (· ≤ ·)).map (fun x => .str (.ofString x)))

def sortedEnvironment (entries : List (String × String)) : Value :=
  .array ((entries.insertionSort (fun p q => p.1 ≤ q.1)).map ExecutionBinding.pairJson)

def canonical (reprFloat : Instant → FloatText) (c : ExecutionCapabilities) : Value :=
  keyed
    [("capability_profile_id", .str (.ofString c.capabilityProfileId)),
     ("filesystem", keyed
       [("workspace_root", .str (.ofString c.filesystem.workspaceRoot)),
        ("read_only", .bool c.filesystem.readOnly),
        ("allowed_subpaths", sortedSet c.filesystem.allowedSubpaths),
        ("allow_temp_writes", .bool c.filesystem.allowTempWrites)]),
     ("environment_variables", sortedEnvironment c.environmentVariables.entries),
     ("network", keyed
       [("allow_bind", .bool c.network.allowBind),
        ("allow_unix_sockets", .bool c.network.allowUnixSockets),
        ("allowed_destinations", sortedSet c.network.allowedDestinations),
        ("mode", .str (.ofString c.network.mode.value))]),
     ("resources", keyed
       [("max_memory_bytes", .int c.resources.maxMemoryBytes),
        ("max_cpu_seconds", .float (reprFloat c.resources.maxCpuSeconds)),
        ("max_output_bytes", .int c.resources.maxOutputBytes),
        ("wall_clock_timeout_seconds", .float (reprFloat c.resources.wallClockTimeoutSeconds)),
        ("required_controls", sortedSet c.resources.requiredControls)])]

def computeDigest (h : CapabilityHashing) (c : ExecutionCapabilities) : String :=
  h.sha256 (dumps .compact (sorted (c.canonical h.reprFloat)))

end ExecutionCapabilities

structure Deployment where
  registry : ToolRegistry
  tools : ToolService
  capabilities : Dict String ExecutionCapabilities
  capabilityHashing : CapabilityHashing
  workspaces : String → Option (String → Option String)
  rules : List ContentRule
  windowSeconds : Instant
  window_pos : 0 < windowSeconds
  retention : Option DetectionRetentionPolicy
  hashing : Hashing
  signing : Signing

structure ExecuteRequest where
  sessionId : String
  agentId : String
  toolId : String
  resource : Option String := none
  userPrompt : String := ""
  modelOutput : String := ""
  toolOutput : String := ""
  parameters : Parameters := .empty
  deriving DecidableEq

structure Prepared where
  request : ExecuteRequest
  resource : Option String
  toolVersion : Option String
  binding : Option ExecutionBinding
  operationIsMalformed : Bool
  deriving DecidableEq

def profileId (toolId : String) : String := "profile-" ++ toolId

namespace Deployment

def resolvedVersion (d : Deployment) (toolId : String) : Option String :=
  match d.registry.resolve toolId with
  | none => none
  | some descriptor =>
    if d.tools.versionIsEnabled toolId descriptor.version then some descriptor.version else none

def isFilesystemTool (d : Deployment) (toolId : String) : Bool :=
  (d.registry.resolve toolId).any (fun t => t.category = "filesystem") ||
    toolId ∈ ["file_read", "directory_list"]

def canonicalize (resolve : String → Option String) : ParameterValue → Option String
  | .text path => if path = "" then none else resolve path
  | .null => none
  | .other _ => none

def canonicalParameter (resolve : String → Option String) (parameters : Parameters) :
    Option (Option String) :=
  match parameters.get? (.text resourceParameter) with
  | none => some none
  | some .null => some none
  | some declared => (canonicalize resolve declared).map some

def canonicalResource (resolve : String → Option String) : Option String → Option (Option String)
  | none => some none
  | some resource => (canonicalize resolve (.text resource)).map some

def canonicalTarget (parameter resource : Option String) : Option String :=
  match parameter with
  | some p => if p = "" then resource else some p
  | none => resource

def retarget (resource : Option String) (parameters : Parameters) :
    Option String → Option String × Parameters
  | none => (resource, parameters)
  | some target =>
    (some target,
      if parameters.contains (.text resourceParameter) then
        parameters.set (.text resourceParameter) (.text target)
      else parameters)

def filesystemIdentity (d : Deployment) (req : ExecuteRequest) :
    Option (Option String × Parameters) := do
  let capabilities ← d.capabilities.get? (profileId req.toolId)
  let resolve ← d.workspaces capabilities.filesystem.workspaceRoot
  let parameter ← canonicalParameter resolve req.parameters
  let resource ← canonicalResource resolve req.resource
  if parameter.isSome ∧ resource.isSome ∧ parameter ≠ resource then none
  else some (retarget req.resource req.parameters (canonicalTarget parameter resource))

def needsFilesystemIdentity (d : Deployment) (req : ExecuteRequest) : Bool :=
  d.isFilesystemTool req.toolId &&
    (req.resource.isSome || req.parameters.contains (.text resourceParameter)) &&
    ((d.resolvedVersion req.toolId).isSome || d.capabilities.contains (profileId req.toolId))

def bindOperation (req : ExecuteRequest) (toolVersion resource : Option String)
    (parameters : Parameters) : Prepared :=
  match toolVersion with
  | none => ⟨req, resource, none, none, false⟩
  | some version =>
    match ExecutionBinding.fromOperation req.toolId version parameters resource with
    | some binding => ⟨req, binding.resource, some version, some binding, false⟩
    | none => ⟨req, resource, some version, none, true⟩

def prepare (d : Deployment) (req : ExecuteRequest) : Prepared :=
  let toolVersion := d.resolvedVersion req.toolId
  if d.needsFilesystemIdentity req then
    match d.filesystemIdentity req with
    | none => ⟨req, req.resource, toolVersion, none, true⟩
    | some (resource, parameters) => bindOperation req toolVersion resource parameters
  else bindOperation req toolVersion req.resource req.parameters

def capabilityBinding (d : Deployment) (toolId : String) : Option (String × String) :=
  (d.capabilities.get? (profileId toolId)).map
    (fun c => (c.capabilityProfileId, c.computeDigest d.capabilityHashing))

theorem bindOperation_spec (req : ExecuteRequest) (toolVersion resource : Option String)
    (parameters : Parameters) :
    (bindOperation req toolVersion resource parameters).request = req ∧
    (bindOperation req toolVersion resource parameters).toolVersion = toolVersion ∧
    ∀ b, (bindOperation req toolVersion resource parameters).binding = some b →
      b.toolId = req.toolId ∧ toolVersion = some b.toolVersion := by
  cases toolVersion with
  | none => exact ⟨rfl, rfl, by simp [bindOperation]⟩
  | some version =>
    simp only [bindOperation]
    cases hb : ExecutionBinding.fromOperation req.toolId version parameters resource with
    | none => exact ⟨rfl, rfl, by simp⟩
    | some binding =>
      refine ⟨rfl, rfl, ?_⟩
      intro b h
      cases h
      obtain ⟨h1, h2⟩ := ExecutionBinding.fromOperation_identity hb
      exact ⟨h1, by rw [h2]⟩

theorem prepare_spec (d : Deployment) (req : ExecuteRequest) :
    (d.prepare req).request = req ∧ (d.prepare req).toolVersion = d.resolvedVersion req.toolId ∧
    ∀ b, (d.prepare req).binding = some b →
      b.toolId = req.toolId ∧ d.resolvedVersion req.toolId = some b.toolVersion := by
  unfold prepare
  simp only
  split
  · split
    · exact ⟨rfl, rfl, by simp⟩
    · exact bindOperation_spec req _ _ _
  · exact bindOperation_spec req _ _ _

theorem resolvedVersion_some {d : Deployment} {toolId version : String}
    (h : d.resolvedVersion toolId = some version) :
    ∃ descriptor, d.registry.resolve toolId = some descriptor ∧ descriptor.version = version ∧
      d.tools.versionIsEnabled toolId version = true := by
  unfold resolvedVersion at h
  split at h
  · cases h
  · rename_i descriptor hr
    split at h
    · rename_i he
      cases h
      exact ⟨descriptor, hr, rfl, he⟩
    · cases h

end Deployment

end AgentSecurityPlatform
