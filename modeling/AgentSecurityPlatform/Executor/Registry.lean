import AgentSecurityPlatform.Authorization.Policy
import AgentSecurityPlatform.Library.Text

namespace AgentSecurityPlatform

structure BaseTool where
  toolId : String
  version : String
  deriving DecidableEq, Repr

structure ExecutionEvidenceIntegrityError where
  toolId : String
  receiptId : String
  deriving DecidableEq, Repr

-- an exception seen through the isinstance tests the executor applies to it
structure RaisedException where
  typeName : String
  message : String := ""
  isTimeout : Bool := false
  isResourceExhausted : Bool := false
  isIsolation : Bool := false
  isInterrupted : Bool := false
  isToolError : Bool := false
  evidenceFailure : Option ExecutionEvidenceIntegrityError := none
  deriving DecidableEq, Repr

structure ExecutableDescriptor extends ToolDescriptor where
  instanceTool : Option BaseTool := none
  factory : Option (Except RaisedException BaseTool) := none
  implementationId : Option String := none
  enabled : Bool := true

inductive RegistryError where
  | duplicateRegistration (toolId version : String)
  | notRegistered (toolId : String)
  | versionMismatch (toolId version : String) (registered : List String)
  deriving DecidableEq, Repr

structure ExecutableRegistry where
  descriptors : Dict String (Dict String ExecutableDescriptor)
  keyed : ∀ toolId versions version descriptor, descriptors.get? toolId = some versions →
    versions.get? version = some descriptor → descriptor.version = version

namespace ExecutableRegistry

def empty : ExecutableRegistry := ⟨.empty, by simp⟩

def versionsOf (r : ExecutableRegistry) (toolId : String) : Dict String ExecutableDescriptor :=
  r.descriptors.getD toolId .empty

theorem keyed_versionsOf (r : ExecutableRegistry) {toolId version : String}
    {descriptor : ExecutableDescriptor} (h : (r.versionsOf toolId).get? version = some descriptor) :
    descriptor.version = version := by
  unfold versionsOf Dict.getD at h
  cases hv : r.descriptors.get? toolId with
  | none =>
    rw [hv] at h
    cases h
  | some versions =>
    rw [hv] at h
    exact r.keyed toolId versions version descriptor hv h

def store (r : ExecutableRegistry) (toolId : String) (descriptor : ExecutableDescriptor) :
    Except RegistryError ExecutableRegistry :=
  if (r.versionsOf toolId).contains descriptor.version then
    .error (.duplicateRegistration toolId descriptor.version)
  else
    .ok
      { descriptors := r.descriptors.set toolId
          ((r.versionsOf toolId).set descriptor.version descriptor)
        keyed := by
          intro key versions version found hk hv
          rw [Dict.get?_set] at hk
          split at hk
          · cases hk
            rw [Dict.get?_set] at hv
            split at hv
            · rename_i he
              cases hv
              exact he
            · exact r.keyed_versionsOf hv
          · exact r.keyed key versions version found hk hv }

def register (r : ExecutableRegistry) (tool : BaseTool) (category : String)
    (implementationId : Option String) : Except RegistryError ExecutableRegistry :=
  r.store tool.toolId
    { toolId := tool.toolId
      version := tool.version
      category
      instanceTool := some tool
      implementationId }

-- the descriptor takes its identity from the metadata, the registration from toolId
def registerFactory (r : ExecutableRegistry) (toolId : String)
    (factory : Except RaisedException BaseTool) (metadata : ToolDescriptor) :
    Except RegistryError ExecutableRegistry :=
  r.store toolId { metadata with factory := some factory }

def matchVersion (actual requested : String) : Bool := Text.strip actual = Text.strip requested

def resolveVersion (r : ExecutableRegistry) (toolId version : String) :
    Except RegistryError ExecutableDescriptor :=
  match (r.versionsOf toolId).entries with
  | [] => .error (.notRegistered toolId)
  | entries =>
    match entries.find? (fun e => matchVersion e.1 version) with
    | some e => .ok e.2
    | none => .error (.versionMismatch toolId version (entries.map Prod.fst))

def passive (r : ExecutableRegistry) : ToolRegistry :=
  ⟨r.descriptors.mapValues (·.mapValues (·.toToolDescriptor))⟩

theorem resolve_passive {r : ExecutableRegistry} {toolId : String} {descriptor : ToolDescriptor}
    (h : r.passive.resolve toolId = some descriptor) :
    ∃ registered, (r.versionsOf toolId).entries = [(descriptor.version, registered)] ∧
      registered.toToolDescriptor = descriptor := by
  simp only [ToolRegistry.resolve, passive, Dict.get?_mapValues] at h
  cases hv : r.descriptors.get? toolId with
  | none => simp [hv] at h
  | some versions =>
    simp only [hv, Option.map_some, Dict.values, Dict.mapValues, List.map_map] at h
    have hversions : r.versionsOf toolId = versions := by simp [versionsOf, Dict.getD, hv]
    rw [hversions]
    rcases he : versions.entries with _ | ⟨⟨version, registered⟩, _ | ⟨second, rest⟩⟩
    · simp [he] at h
    · simp only [he, List.map_cons, List.map_nil, Function.comp_apply, Option.some.injEq] at h
      have hk : descriptor.version = version := by
        rw [← h]
        exact r.keyed toolId versions version registered hv
          ((versions.mem_entries_iff version registered).mp (by simp [he]))
      exact ⟨registered, by rw [hk], h⟩
    · simp [he] at h

theorem resolveVersion_single {r : ExecutableRegistry} {toolId version : String}
    {descriptor : ExecutableDescriptor}
    (h : (r.versionsOf toolId).entries = [(version, descriptor)]) :
    r.resolveVersion toolId version = .ok descriptor := by
  simp [resolveVersion, h, matchVersion]

theorem resolveVersion_of_resolve {r : ExecutableRegistry} {toolId : String}
    {descriptor : ToolDescriptor} (h : r.passive.resolve toolId = some descriptor) :
    ∃ registered, r.resolveVersion toolId descriptor.version = .ok registered ∧
      registered.toToolDescriptor = descriptor := by
  obtain ⟨registered, he, hd⟩ := resolve_passive h
  exact ⟨registered, resolveVersion_single he, hd⟩

end ExecutableRegistry

end AgentSecurityPlatform
