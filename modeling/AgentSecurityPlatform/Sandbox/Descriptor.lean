import AgentSecurityPlatform.Executor.ToolExecutor
import AgentSecurityPlatform.Library.PythonJsonSorting
import AgentSecurityPlatform.Sandbox.Capability

namespace AgentSecurityPlatform

open PythonJson

abbrev Mapping := Dict Str Value

def Mapping.field (m : Mapping) (name : String) : Option Value := m.get? (.ofString name)

structure DescriptorFields where
  toolId : Str
  toolVersion : Option Str := none
  implementationId : Str
  parameters : Mapping := .empty
  grantId : Option Str := none
  sessionId : Option Str := none
  agentId : Option Str := none
  requestId : Option Str := none
  filesystem : Option Mapping := none
  scratchDir : Option Str := none
  network : Option Mapping := none

structure ToolExecutionDescriptor extends DescriptorFields where
  toolId_ne : toolId ≠ []
  implementationId_ne : implementationId ≠ []

namespace ToolExecutionDescriptor

def construct (d : DescriptorFields) : Option ToolExecutionDescriptor :=
  if h : d.toolId ≠ [] ∧ d.implementationId ≠ [] then some ⟨d, h.1, h.2⟩ else none

def optional {α : Type} (f : α → Value) : Option α → Value
  | none => .null
  | some a => f a

def object (m : Mapping) : Value := .object m.entries

def dataMembers (d : DescriptorFields) : List (Str × Value) :=
  [(.ofString "tool_id", .str d.toolId),
    (.ofString "tool_version", optional .str d.toolVersion),
    (.ofString "implementation_id", .str d.implementationId),
    (.ofString "parameters", object d.parameters),
    (.ofString "grant_id", optional .str d.grantId),
    (.ofString "session_id", optional .str d.sessionId),
    (.ofString "agent_id", optional .str d.agentId),
    (.ofString "request_id", optional .str d.requestId),
    (.ofString "filesystem", optional object d.filesystem),
    (.ofString "scratch_dir", optional .str d.scratchDir),
    (.ofString "network", optional object d.network)]

theorem dataMembers_keys (d : DescriptorFields) : ((dataMembers d).map Prod.fst).Nodup := by
  have hkeys : (dataMembers d).map Prod.fst = (dataMembers ⟨[], none, [], .empty, none, none, none,
    none, none, none, none⟩).map Prod.fst := rfl
  rw [hkeys]
  decide

def data (d : DescriptorFields) : Mapping := ⟨dataMembers d, dataMembers_keys d⟩

def toJson (d : ToolExecutionDescriptor) : String :=
  dumps .compact (sorted (object (data d.toDescriptorFields)))

def requiredText : Option Value → Option Str
  | some (.str s) => some s
  | _ => none

def optionalText : Option Value → Option (Option Str)
  | none => some none
  | some .null => some none
  | some (.str s) => some (some s)
  | _ => none

def parametersOf : Option Value → Option Mapping
  | none => some .empty
  | some (.object ms) => some (ofMembers ms)
  | _ => none

def optionalMapping : Option Value → Option (Option Mapping)
  | none => some none
  | some .null => some none
  | some (.object ms) => some (some (ofMembers ms))
  | _ => none

def fields (raw : Mapping) : Option DescriptorFields := do
  let toolId ← requiredText (raw.field "tool_id")
  let toolVersion ← optionalText (raw.field "tool_version")
  let implementationId ← requiredText (raw.field "implementation_id")
  let parameters ← parametersOf (raw.field "parameters")
  let grantId ← optionalText (raw.field "grant_id")
  let sessionId ← optionalText (raw.field "session_id")
  let agentId ← optionalText (raw.field "agent_id")
  let requestId ← optionalText (raw.field "request_id")
  let filesystem ← optionalMapping (raw.field "filesystem")
  let scratchDir ← optionalText (raw.field "scratch_dir")
  let network ← optionalMapping (raw.field "network")
  return { toolId, toolVersion, implementationId, parameters, grantId, sessionId, agentId,
           requestId, filesystem, scratchDir, network }

def fromRaw : Option Value → Option ToolExecutionDescriptor
  | some (.object ms) => (fields (ofMembers ms)).bind construct
  | _ => none

def fromJson (readFloat : List Char → Value) (json : String) : Option ToolExecutionDescriptor :=
  fromRaw (loads readFloat json)

end ToolExecutionDescriptor

-- what pydantic makes of a port that is no JSON integer
structure PortReading where
  read : Value → Option Int
  read_int : ∀ n, read (.int n) = some n

-- bool(value)
def truthy : Value → Bool
  | .null => false
  | .bool b => b
  | .int n => n ≠ 0
  | .float t => (t.integer ++ t.fraction).any (fun c => c.isDigit && c ≠ '0')
  | .nan => true
  | .infinity _ => true
  | .str s => s ≠ []
  | .array xs => !xs.isEmpty
  | .object ms => !ms.isEmpty

-- the guards would store a setting of another type as it is; no descriptor holds one
def setting (default : Bool) : Option Value → Option Bool
  | none => some default
  | some (.bool b) => some b
  | _ => none

def textOf : Value → Option String
  | .str s => s.encodeUtf8
  | _ => none

def subpathsOf : Option Value → Option (List String)
  | none => some []
  | some (.array xs) => xs.mapM textOf
  | _ => none

namespace FilesystemSandboxGuard

def fromMapping (fs : Filesystem) (data : Mapping) (scratchDir platformRoot : Option String)
    (runtimeDirs : List PosixPath) : Option FilesystemSandboxGuard := do
  let workspaceRoot ← (data.field "workspace_root").bind textOf
  let allowedSubpaths ← subpathsOf (data.field "allowed_subpaths")
  let readOnly ← setting true (data.field "read_only")
  let allowTempWrites ← setting false (data.field "allow_temp_writes")
  fromDict fs { workspaceRoot, readOnly, allowedSubpaths, allowTempWrites } scratchDir platformRoot
    runtimeDirs

end FilesystemSandboxGuard

namespace NetworkSandboxGuard

variable (u : UnicodeData) (ports : PortReading)

def modeOf : Option Value → Option NetworkEgressMode
  | none => some .disabled
  | some (.str s) =>
    if s = .ofString NetworkEgressMode.disabled.value then some .disabled
    else if s = .ofString NetworkEgressMode.allowlist.value then some .allowlist
    else none
  | _ => none

-- the arguments of NetworkDestination(**d) for an object; anything else in the list is passed over
def destinationOf : Value → Option (Option (String × Int))
  | .object ms =>
    let d : Mapping := ofMembers ms
    if d.entries.all (fun e => e.1 = .ofString "host" ∨ e.1 = .ofString "port") then
      match d.field "host", d.field "port" with
      | some host, some port =>
        match textOf host, ports.read port with
        | some host, some port => some (some (host, port))
        | _, _ => none
      | _, _ => none
    else none
  | _ => some none

def structuredDestinations : Value → Option (List (String × Int))
  | .array xs => (xs.mapM (destinationOf ports)).map List.reduceOption
  | .str _ => some []
  | .object _ => some []
  | _ => none

def textDestination : Value → Option (Option String)
  | .str s => s.encodeUtf8.map some
  | _ => some none

def textDestinations : Option Value → Option (List String)
  | none => some []
  | some (.array xs) => (xs.mapM textDestination).map List.reduceOption
  | some (.object ms) => (ms.mapM (fun m => textDestination (.str m.1))).map List.reduceOption
  | some (.str s) => if s = [] then some [] else none
  | some _ => none

-- allowed_destinations is looked at only where destinations is empty or missing
def destinationsOf (data : Mapping) : Option (List (String × Int) × List String) :=
  match (data.field "destinations").filter truthy with
  | some raw => (structuredDestinations ports raw).map (fun ds => (ds, []))
  | none => (textDestinations (data.field "allowed_destinations")).map (fun texts => ([], texts))

def fromMapping (data : Mapping) : Option (NetworkSandboxGuard u) := do
  let mode ← modeOf (data.field "mode")
  let (destinations, allowedDestinations) ← destinationsOf ports data
  let allowUnixSockets ← setting false (data.field "allow_unix_sockets")
  let allowBind ← setting false (data.field "allow_bind")
  fromDict u { mode, destinations, allowedDestinations, allowUnixSockets, allowBind }

end NetworkSandboxGuard

def textArray (texts : List String) : Value := .array (texts.map fun text => .str (.ofString text))

namespace FilesystemCapability

def dumpMembers (c : FilesystemCapability) : List (Str × Value) :=
  [(.ofString "workspace_root", .str (.ofString c.workspaceRoot)),
    (.ofString "read_only", .bool c.readOnly),
    (.ofString "allowed_subpaths", textArray c.allowedSubpaths),
    (.ofString "allow_temp_writes", .bool c.allowTempWrites)]

theorem dumpMembers_keys (c : FilesystemCapability) : (c.dumpMembers.map Prod.fst).Nodup := by
  have hkeys : c.dumpMembers.map Prod.fst = (dumpMembers ⟨"", true, [], true⟩).map Prod.fst := rfl
  rw [hkeys]
  decide

def modelDump (c : FilesystemCapability) : Mapping := ⟨c.dumpMembers, c.dumpMembers_keys⟩

end FilesystemCapability

namespace NetworkDestination

variable {u : UnicodeData}

def modelDump (d : NetworkDestination u) : Value :=
  .object [(.ofString "host", .str (.ofString d.host)), (.ofString "port", .int d.port)]

end NetworkDestination

namespace SandboxCapabilities

variable {u : UnicodeData}

def networkMembers (network : NetworkCapability) (destinations : List (NetworkDestination u)) :
    List (Str × Value) :=
  [(.ofString "mode", .str (.ofString network.mode.value)),
    (.ofString "destinations", .array (destinations.map (·.modelDump))),
    (.ofString "allowed_destinations", textArray network.allowedDestinations),
    (.ofString "allow_unix_sockets", .bool network.allowUnixSockets),
    (.ofString "allow_bind", .bool network.allowBind)]

theorem networkMembers_keys (network : NetworkCapability)
    (destinations : List (NetworkDestination u)) :
    ((networkMembers network destinations).map Prod.fst).Nodup := by
  have hkeys : (networkMembers network destinations).map Prod.fst =
      (networkMembers (u := .ascii) {} []).map Prod.fst := rfl
  rw [hkeys]
  decide

def networkDump (c : SandboxCapabilities u) : Mapping :=
  ⟨networkMembers c.network c.destinations, networkMembers_keys c.network c.destinations⟩

end SandboxCapabilities

-- the descriptor _execute_process builds; scratch is the directory it made, if any
def ProcessToolExecutionSandbox.descriptor {u : UnicodeData} (tool : BaseTool)
    (parameters : Mapping) (capabilities : SandboxCapabilities u) (provenance : ExecutionProvenance)
    (implementationId : String) (toolVersion scratch : Option String) :
    Option ToolExecutionDescriptor :=
  ToolExecutionDescriptor.construct
    { toolId := .ofString tool.toolId
      toolVersion := toolVersion.map Str.ofString
      implementationId := .ofString implementationId
      parameters
      grantId := some (.ofString provenance.grantId)
      sessionId := some (.ofString provenance.sessionId)
      agentId := some (.ofString provenance.agentId)
      requestId := some (.ofString provenance.requestId)
      filesystem := some capabilities.filesystem.modelDump
      scratchDir := scratch.map Str.ofString
      network := some capabilities.networkDump }

namespace SandboxRunner

def scratchDir (d : ToolExecutionDescriptor) : Option (Option String) :=
  match d.scratchDir with
  | none => some none
  | some s => s.encodeUtf8.map some

def filesystemGuard (fs : Filesystem) (runtimeDirs : List PosixPath) (d : ToolExecutionDescriptor) :
    Option (Option FilesystemSandboxGuard) :=
  match d.filesystem with
  | none => some none
  | some data => do
    let scratch ← scratchDir d
    let g ← FilesystemSandboxGuard.fromMapping fs data scratch none runtimeDirs
    return some g

def networkGuard (u : UnicodeData) (ports : PortReading) (d : ToolExecutionDescriptor) :
    Option (Option (NetworkSandboxGuard u)) :=
  match d.network with
  | none => some none
  | some data => (NetworkSandboxGuard.fromMapping u ports data).map some

end SandboxRunner

end AgentSecurityPlatform
