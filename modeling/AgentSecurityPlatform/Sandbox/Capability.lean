import AgentSecurityPlatform.Sandbox.Filesystem
import AgentSecurityPlatform.Sandbox.Network

namespace AgentSecurityPlatform

def sortedTexts (xs : List String) : List String := xs.eraseDups.insertionSort (· ≤ ·)

def readInt (u : UnicodeData) (cs : List Char) : Option Int :=
  match Text.stripChars Text.isSpace cs with
  | '-' :: digits => (readGrouped u.decimal 10 false 0 digits).map (fun n => -Int.ofNat n)
  | '+' :: digits => (readGrouped u.decimal 10 false 0 digits).map Int.ofNat
  | digits => (readGrouped u.decimal 10 false 0 digits).map Int.ofNat

structure FilesystemInput where
  workspaceRoot : String
  readOnly : Bool := true
  allowedSubpaths : List String := []
  allowTempWrites : Bool := false

namespace FilesystemInput

def normalizeSubpath (item : String) : Option String :=
  if '\x00' ∈ item.toList then none
  else if item.toList.head? = some '/' then none
  else if ".." ∈ (PosixPath.parse item).parts then none
  else some (String.ofList (Text.stripChars (· = '/') item.toList))

def construct (fs : Filesystem) (i : FilesystemInput) : Option FilesystemCapability :=
  if i.workspaceRoot = "" ∨ '\x00' ∈ i.workspaceRoot.toList ∨
      (PosixPath.parse i.workspaceRoot).isAbsolute = false then none
  else
    match fs.resolve (.parse i.workspaceRoot), i.allowedSubpaths.mapM normalizeSubpath with
    | some root, some subpaths =>
      some { workspaceRoot := root.text, readOnly := i.readOnly, allowedSubpaths := subpaths,
             allowTempWrites := i.allowTempWrites }
    | _, _ => none

end FilesystemInput

inductive DestinationInput (u : UnicodeData) where
  | object (destination : NetworkDestination u)
  | fields (host : String) (port : Int)
  | text (item : String)

inductive AllowedInput (u : UnicodeData) where
  | object (destination : NetworkDestination u)
  | text (item : String)

structure NetworkInput (u : UnicodeData) where
  mode : NetworkEgressMode := .disabled
  destinations : List (DestinationInput u) := []
  allowedDestinations : Option (List (AllowedInput u)) := none
  allowUnixSockets : Bool := false
  allowBind : Bool := false

structure CapabilityNetwork (u : UnicodeData) extends NetworkCapability where
  destinations : List (NetworkDestination u)

namespace NetworkInput

variable {u : UnicodeData}

def splitDestination (u : UnicodeData) (item : String) : Option (NetworkDestination u) :=
  match item.toList.splitOn ':' with
  | [host, port] => (readInt u port).bind (NetworkDestination.construct u (String.ofList host))
  | _ => none

def normalizeDestination : DestinationInput u → Option (NetworkDestination u)
  | .object destination => some destination
  | .fields host port => NetworkDestination.construct u host port
  | .text item => splitDestination u (Text.strip item)

def normalizeAllowed : AllowedInput u → Option String
  | .object destination => some destination.toText
  | .text item =>
    let cleaned := u.normal item
    if cleaned = "" ∨ '\x00' ∈ cleaned.toList ∨ ' ' ∈ cleaned.toList then none
    else
      match cleaned.toList.splitOn ':' with
      | [host, port] =>
        if host = [] then none
        else
          match readInt u port with
          | some n =>
            if 1 ≤ n ∧ n ≤ 65535 then some (String.ofList host ++ ":" ++ toString n.toNat) else none
          | none => none
      | _ => none

-- runs only where allowed_destinations is given
def syncAndValidate (mode : NetworkEgressMode) (destinations : List (NetworkDestination u))
    (allowed : List String) : Option (List String) :=
  let allDests := allowed ++ destinations.map (·.toText)
  if mode = .disabled ∧ allDests ≠ [] then none
  else if mode = .allowlist ∧ allDests = [] then none
  else some (sortedTexts allDests)

def validateAllowed (mode : NetworkEgressMode) (destinations : List (NetworkDestination u)) :
    Option (List (AllowedInput u)) → Option (List String)
  | none => some []
  | some items => (items.mapM normalizeAllowed).bind (syncAndValidate mode destinations)

def postInit (destinations : List (NetworkDestination u)) (allowed : List String) :
    Option (List (NetworkDestination u) × List String) :=
  if allowed ≠ [] ∧ destinations = [] then
    (allowed.mapM (splitDestination u)).map (fun objs => (objs, allowed))
  else if destinations ≠ [] ∧ allowed = [] then some (destinations, destinations.map (·.toText))
  else some (destinations, allowed)

def construct (i : NetworkInput u) : Option (CapabilityNetwork u) :=
  match i.destinations.mapM normalizeDestination with
  | none => none
  | some given =>
    match validateAllowed i.mode given i.allowedDestinations with
    | none => none
    | some allowed =>
      (postInit given allowed).map (fun synced =>
        { mode := i.mode, allowedDestinations := synced.2, allowUnixSockets := i.allowUnixSockets,
          allowBind := i.allowBind, destinations := synced.1 })

end NetworkInput

def knownControls : List String := ["memory", "cpu"]

def ResourceLimits.construct (r : ResourceLimits) : Option ResourceLimits :=
  if 0 < r.maxMemoryBytes ∧ r.maxMemoryBytes ≤ 4 * 1024 * 1024 * 1024 ∧ 0 < r.maxCpuSeconds ∧
      r.maxCpuSeconds ≤ 300 * 1000000 ∧ r.maxOutputBytes ≤ 100 * 1024 * 1024 ∧
      0 < r.wallClockTimeoutSeconds ∧ r.wallClockTimeoutSeconds ≤ 600 * 1000000 ∧
      r.requiredControls.all (· ∈ knownControls) = true then
    some { r with requiredControls := sortedTexts r.requiredControls }
  else none

def blockedEnvironmentKeys : List String :=
  ["POSTGRES_URL", "POSTGRES_PASSWORD", "POSTGRES_USER", "POSTGRES_DB", "DATABASE_URL",
    "JWT_SECRET_KEY", "SECRET_KEY", "API_KEY", "AWS_SECRET_ACCESS_KEY", "AWS_SESSION_TOKEN",
    "AZURE_CLIENT_SECRET", "GOOGLE_APPLICATION_CREDENTIALS", "GEMINI_API_KEY",
    "ANTHROPIC_API_KEY", "OPENAI_API_KEY"]

def environmentAccepted (upper : String → String) (env : Dict String String) : Bool :=
  env.entries.all (fun e =>
    let keyUpper := Text.strip (upper e.1)
    !(keyUpper ∈ blockedEnvironmentKeys ||
      ["SECRET", "PASSWORD", "POSTGRES_URL"].any (Text.occursIn · keyUpper)) &&
    !('\x00' ∈ e.1.toList || '\x00' ∈ e.2.toList))

structure CapabilitiesInput (u : UnicodeData) where
  capabilityProfileId : String
  filesystem : FilesystemInput
  environmentVariables : Dict String String := .empty
  network : NetworkInput u := {}
  resources : ResourceLimits := {}

structure SandboxCapabilities (u : UnicodeData) extends ExecutionCapabilities where
  destinations : List (NetworkDestination u)

def CapabilitiesInput.construct {u : UnicodeData} (fs : Filesystem) (upper : String → String)
    (i : CapabilitiesInput u) : Option (SandboxCapabilities u) :=
  if i.capabilityProfileId = "" ∨ environmentAccepted upper i.environmentVariables = false then none
  else
    match i.filesystem.construct fs, i.network.construct, i.resources.construct with
    | some filesystem, some network, some resources =>
      some { capabilityProfileId := i.capabilityProfileId, filesystem,
             environmentVariables := i.environmentVariables,
             network := network.toNetworkCapability, resources,
             destinations := network.destinations }
    | _, _, _ => none

structure NetworkDump where
  mode : NetworkEgressMode
  destinations : List (String × Int)
  allowedDestinations : List String
  allowUnixSockets : Bool
  allowBind : Bool

def SandboxCapabilities.dumpNetwork {u : UnicodeData} (c : SandboxCapabilities u) : NetworkDump :=
  { mode := c.network.mode, destinations := c.destinations.map (fun d => (d.host, (d.port : Int))),
    allowedDestinations := c.network.allowedDestinations,
    allowUnixSockets := c.network.allowUnixSockets, allowBind := c.network.allowBind }

def NetworkSandboxGuard.fromDict (u : UnicodeData) (data : NetworkDump) :
    Option (NetworkSandboxGuard u) :=
  let dests :=
    if data.destinations ≠ [] then
      data.destinations.mapM (fun d => NetworkDestination.construct u d.1 d.2)
    else data.allowedDestinations.mapM (NetworkInput.splitDestination u)
  dests.map (fun destinations =>
    { mode := data.mode, destinations, allowUnixSockets := data.allowUnixSockets,
      allowBind := data.allowBind })

def resolveOptional (fs : Filesystem) : Option String → Option (Option PosixPath)
  | none => some none
  | some path => if path = "" then some none else (fs.resolve (.parse path)).map some

def FilesystemSandboxGuard.fromDict (fs : Filesystem) (data : FilesystemCapability)
    (scratchDir platformRoot : Option String) (runtimeDirs : List PosixPath) :
    Option FilesystemSandboxGuard :=
  match fs.resolve (.parse data.workspaceRoot), resolveOptional fs scratchDir,
    resolveOptional fs platformRoot with
  | some root, some scratch, some platform =>
    some { workspaceRoot := root, allowedSubpaths := data.allowedSubpaths,
           readOnly := data.readOnly, allowTempWrites := data.allowTempWrites,
           scratchDir := scratch, platformRoot := platform, runtimeDirs }
  | _, _, _ => none

end AgentSecurityPlatform
