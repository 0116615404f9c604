import AgentSecurityPlatform.Sandbox.Descriptor
import AgentSecurityPlatform.Sandbox.DigestBinding

namespace AgentSecurityPlatform

open PythonJson

namespace Mapping

def sortedKeys (m : Mapping) : Mapping := sortedDict m

theorem field_sortedKeys (m : Mapping) (name : String) :
    m.sortedKeys.field name = (m.field name).map sorted := get?_sortedDict m (.ofString name)

theorem ofMembers_sortedObject (m : Mapping) : ofMembers (sortedObject m.entries) = m.sortedKeys :=
  ofMembers_entries (sortedDict m)

end Mapping

namespace ToolExecutionDescriptor

variable {readFloat : List Char → Value}

-- the descriptor with the members of its mappings in the order of their keys
def sortedFields (d : DescriptorFields) : DescriptorFields :=
  { d with
    parameters := d.parameters.sortedKeys
    filesystem := d.filesystem.map Mapping.sortedKeys
    network := d.network.map Mapping.sortedKeys }

theorem sorted_mapping (m : Mapping) : sorted (object m) = .object (sortedObject m.entries) :=
  sorted_object m.entries

theorem requiredText_sorted (s : Str) : requiredText (some (sorted (.str s))) = some s := by
  simp only [sorted, requiredText]

theorem optionalText_sorted (s : Option Str) :
    optionalText (some (sorted (optional .str s))) = some s := by
  cases s <;> simp only [optional, sorted, optionalText]

theorem parametersOf_sorted (m : Mapping) :
    parametersOf (some (sorted (object m))) = some m.sortedKeys := by
  rw [sorted_mapping, parametersOf, Mapping.ofMembers_sortedObject]

theorem optionalMapping_sorted (m : Option Mapping) :
    optionalMapping (some (sorted (optional object m))) = some (m.map Mapping.sortedKeys) := by
  cases m with
  | none => simp only [optional, sorted, optionalMapping, Option.map_none]
  | some m =>
    rw [optional, sorted_mapping, optionalMapping, Mapping.ofMembers_sortedObject, Option.map_some]

theorem fields_sorted (d : DescriptorFields) :
    fields (data d).sortedKeys = some (sortedFields d) := by
  have hfield (name : String) := Mapping.field_sortedKeys (data d) name
  have h1 : (data d).field "tool_id" = some (.str d.toolId) := rfl
  have h2 : (data d).field "tool_version" = some (optional .str d.toolVersion) := rfl
  have h3 : (data d).field "implementation_id" = some (.str d.implementationId) := rfl
  have h4 : (data d).field "parameters" = some (object d.parameters) := rfl
  have h5 : (data d).field "grant_id" = some (optional .str d.grantId) := rfl
  have h6 : (data d).field "session_id" = some (optional .str d.sessionId) := rfl
  have h7 : (data d).field "agent_id" = some (optional .str d.agentId) := rfl
  have h8 : (data d).field "request_id" = some (optional .str d.requestId) := rfl
  have h9 : (data d).field "filesystem" = some (optional object d.filesystem) := rfl
  have h10 : (data d).field "scratch_dir" = some (optional .str d.scratchDir) := rfl
  have h11 : (data d).field "network" = some (optional object d.network) := rfl
  simp only [fields, hfield, h1, h2, h3, h4, h5, h6, h7, h8, h9, h10, h11, Option.map_some,
    requiredText_sorted, optionalText_sorted, parametersOf_sorted, optionalMapping_sorted]
  rfl

-- what json.dumps writes of the descriptor and json.loads reads back unchanged
structure Loads (readFloat : List Char → Value) (d : DescriptorFields) : Prop where
  texts : ∀ s ∈ [some d.toolId, d.toolVersion, some d.implementationId, d.grantId, d.sessionId,
    d.agentId, d.requestId, d.scratchDir], ∀ t ∈ s, joinPairs t = t
  parameters : Loadable readFloat (object d.parameters)
  filesystem : ∀ m ∈ d.filesystem, Loadable readFloat (object m)
  network : ∀ m ∈ d.network, Loadable readFloat (object m)

theorem loadable_optional {α : Type} {f : α → Value} {o : Option α}
    (h : ∀ a ∈ o, Loadable readFloat (f a)) : Loadable readFloat (optional f o) := by
  cases o with
  | none => trivial
  | some a => exact h a rfl

theorem Loads.loadable {d : DescriptorFields} (h : Loads readFloat d) :
    Loadable readFloat (object (data d)) := by
  have htext {s : Str} (hs : joinPairs s = s) : Loadable readFloat (.str s) := hs
  obtain ⟨htexts, hparameters, hfilesystem, hnetwork⟩ := h
  simp only [List.forall_mem_cons, List.not_mem_nil, false_implies, implies_true,
    and_true] at htexts
  obtain ⟨htool, hversion, himplementation, hgrant, hsession, hagent, hrequest, hscratch⟩ := htexts
  refine ⟨dataMembers_keys d, loadableMembers_iff.mpr ?_⟩
  simp only [data, dataMembers, List.forall_mem_cons, joinPairs_ofString, true_and,
    List.not_mem_nil, false_implies, implies_true, and_true]
  exact ⟨htext (htool _ rfl), loadable_optional fun s hs => htext (hversion s hs),
    htext (himplementation _ rfl), hparameters, loadable_optional fun s hs => htext (hgrant s hs),
    loadable_optional fun s hs => htext (hsession s hs),
    loadable_optional fun s hs => htext (hagent s hs),
    loadable_optional fun s hs => htext (hrequest s hs), loadable_optional hfilesystem,
    loadable_optional fun s hs => htext (hscratch s hs), loadable_optional hnetwork⟩

theorem fromJson_toJson {d : ToolExecutionDescriptor} (h : Loads readFloat d.toDescriptorFields) :
    fromJson readFloat (toJson d) =
      some ⟨sortedFields d.toDescriptorFields, d.toolId_ne, d.implementationId_ne⟩ := by
  have hloads : loads readFloat (toJson d) =
      some (.object (sortedObject (data d.toDescriptorFields).entries)) := by
    rw [← sorted_object]
    exact loads_dumps .compact (loadable_sorted _ h.loadable)
  have hnonempty : (sortedFields d.toDescriptorFields).toolId ≠ [] ∧
      (sortedFields d.toDescriptorFields).implementationId ≠ [] :=
    ⟨d.toolId_ne, d.implementationId_ne⟩
  simp only [fromJson, fromRaw, hloads, Mapping.ofMembers_sortedObject, fields_sorted,
    Option.bind_some, construct, dif_pos hnonempty]

end ToolExecutionDescriptor

section Guards

variable {readFloat : List Char → Value} {u : UnicodeData}

theorem sorted_textArray (texts : List String) : sorted (textArray texts) = textArray texts := by
  rw [textArray, sorted, sortedItems_eq_map, List.map_map]
  apply congrArg Value.array
  apply List.map_congr_left
  intro text _
  simp only [Function.comp_apply, sorted]

theorem subpathsOf_textArray (texts : List String) :
    subpathsOf (some (textArray texts)) = some texts := by
  simp only [subpathsOf, textArray]
  induction texts with
  | nil => rfl
  | cons text texts ih => simp [textOf, Str.encodeUtf8_ofString, ih]

theorem setting_sorted (default b : Bool) : setting default (some (sorted (.bool b))) = some b := by
  simp only [sorted, setting]

theorem FilesystemSandboxGuard.fromMapping_dump (fs : Filesystem) (c : FilesystemCapability)
    (scratchDir platformRoot : Option String) (runtimeDirs : List PosixPath) :
    fromMapping fs c.modelDump.sortedKeys scratchDir platformRoot runtimeDirs =
      fromDict fs c scratchDir platformRoot runtimeDirs := by
  have hfield (name : String) := Mapping.field_sortedKeys c.modelDump name
  have h1 : c.modelDump.field "workspace_root" = some (.str (.ofString c.workspaceRoot)) := rfl
  have h2 : c.modelDump.field "read_only" = some (.bool c.readOnly) := rfl
  have h3 : c.modelDump.field "allowed_subpaths" = some (textArray c.allowedSubpaths) := rfl
  have h4 : c.modelDump.field "allow_temp_writes" = some (.bool c.allowTempWrites) := rfl
  have hroot : textOf (sorted (.str (.ofString c.workspaceRoot))) = some c.workspaceRoot := by
    simp only [sorted, textOf, Str.encodeUtf8_ofString]
  simp only [fromMapping, hfield, h1, h2, h3, h4, Option.map_some, sorted_textArray,
    subpathsOf_textArray, setting_sorted, hroot, Option.bind_some]
  rfl

namespace NetworkSandboxGuard

variable (ports : PortReading)

theorem modeOf_sorted (mode : NetworkEgressMode) :
    modeOf (some (sorted (.str (.ofString mode.value)))) = some mode := by
  cases mode <;> rfl

theorem destinationOf_dump (d : NetworkDestination u) :
    destinationOf ports (sorted d.modelDump) = some (some (d.host, (d.port : Int))) := by
  have hkeys : ([((.ofString "host" : Str), Value.str (.ofString d.host)),
      (.ofString "port", .int d.port)].map Prod.fst).Nodup := by
    have hnames : [((.ofString "host" : Str), Value.str (.ofString d.host)),
        (.ofString "port", .int d.port)].map Prod.fst = [.ofString "host", .ofString "port"] := rfl
    rw [hnames]
    decide
  obtain ⟨dump, hdump⟩ : ∃ dump : Mapping, dump.entries =
      [(.ofString "host", .str (.ofString d.host)), (.ofString "port", .int d.port)] :=
    ⟨⟨_, hkeys⟩, rfl⟩
  have hhost : dump.field "host" = some (.str (.ofString d.host)) := by
    rw [Mapping.field, Dict.get?, hdump]
    rfl
  have hport : dump.field "port" = some (.int d.port) := by
    rw [Mapping.field, Dict.get?, hdump]
    rfl
  have hnames : (dump.sortedKeys.entries.all fun e =>
      decide (e.1 = .ofString "host" ∨ e.1 = .ofString "port")) = true := by
    rw [List.all_eq_true]
    intro e he
    have hmem := (sortedObject_perm dump.entries).subset he
    rw [sortedMembers_eq_map, hdump] at hmem
    simp only [List.map_cons, List.map_nil, List.mem_cons, List.not_mem_nil, or_false] at hmem
    rcases hmem with rfl | rfl <;> simp
  have hsorted : sorted d.modelDump = .object (sortedObject dump.entries) := by
    rw [NetworkDestination.modelDump, sorted_object, hdump]
  rw [hsorted]
  simp only [destinationOf, Mapping.ofMembers_sortedObject, hnames, ↓reduceIte,
    Mapping.field_sortedKeys, hhost, hport, Option.map_some, sorted, textOf,
    Str.encodeUtf8_ofString, ports.read_int]

theorem structuredDestinations_dump (ds : List (NetworkDestination u)) :
    structuredDestinations ports (sorted (.array (ds.map (·.modelDump)))) =
      some (ds.map (fun d => (d.host, (d.port : Int)))) := by
  have hitems : (sortedItems (ds.map (·.modelDump))).mapM (destinationOf ports) =
      some (ds.map (fun d => some (d.host, (d.port : Int)))) := by
    rw [sortedItems_eq_map]
    induction ds with
    | nil => rfl
    | cons d ds ih =>
      simp only [List.map_cons, List.mapM_cons, destinationOf_dump, ih]
      rfl
  rw [sorted, structuredDestinations, hitems, Option.map_some, List.reduceOption,
    List.filterMap_map]
  simp

theorem fromMapping_dump {c : SandboxCapabilities u}
    (hempty : c.destinations = [] → c.network.allowedDestinations = []) :
    fromMapping u ports c.networkDump.sortedKeys =
      some { mode := c.network.mode, destinations := c.destinations,
             allowUnixSockets := c.network.allowUnixSockets,
             allowBind := c.network.allowBind } := by
  have hfield (name : String) := Mapping.field_sortedKeys c.networkDump name
  have h1 : c.networkDump.field "mode" = some (.str (.ofString c.network.mode.value)) := rfl
  have h2 : c.networkDump.field "destinations" =
      some (.array (c.destinations.map (·.modelDump))) := rfl
  have h3 : c.networkDump.field "allowed_destinations" =
      some (textArray c.network.allowedDestinations) := rfl
  have h4 : c.networkDump.field "allow_unix_sockets" = some (.bool c.network.allowUnixSockets) :=
    rfl
  have h5 : c.networkDump.field "allow_bind" = some (.bool c.network.allowBind) := rfl
  have hdestinations : destinationsOf ports c.networkDump.sortedKeys =
      some (c.dumpNetwork.destinations, []) := by
    simp only [destinationsOf, hfield, h2, h3, Option.map_some, sorted_textArray,
      SandboxCapabilities.dumpNetwork]
    cases hds : c.destinations with
    | nil =>
      rw [hempty hds]
      rfl
    | cons d ds =>
      have htruthy : truthy (sorted (.array ((d :: ds).map (·.modelDump)))) = true := by
        simp [sorted, sortedItems, truthy]
      rw [Option.filter_some, if_pos htruthy]
      exact congrArg (Option.map _) (structuredDestinations_dump ports (d :: ds))
  have hguard : fromDict u ⟨c.network.mode, c.dumpNetwork.destinations, [],
      c.network.allowUnixSockets, c.network.allowBind⟩ = some
        { mode := c.network.mode, destinations := c.destinations,
          allowUnixSockets := c.network.allowUnixSockets, allowBind := c.network.allowBind } := by
    have hdests : (if c.dumpNetwork.destinations ≠ [] then
        c.dumpNetwork.destinations.mapM (fun d => NetworkDestination.construct u d.1 d.2)
        else [].mapM (NetworkInput.splitDestination u)) = some c.destinations := by
      split
      · exact mapM_construct c.destinations
      · rename_i hnone
        have hds : c.destinations = [] := by simpa [SandboxCapabilities.dumpNetwork] using hnone
        rw [hds]
        rfl
    simp only [fromDict, hdests, Option.map_some]
  simp only [fromMapping, hdestinations, hfield, h1, h4, h5, Option.map_some, modeOf_sorted,
    setting_sorted]
  exact hguard

end NetworkSandboxGuard

end Guards

section Crossing

variable {readFloat : List Char → Value} {u : UnicodeData} {fs : Filesystem}

def textParameters (parameters : Dict Str Str) : Mapping := parameters.mapValues .str

theorem loadable_textParameters {parameters : Dict Str Str}
    (h : ∀ e ∈ parameters.entries, Unpaired e.1 ∧ Unpaired e.2) :
    Loadable readFloat (ToolExecutionDescriptor.object (textParameters parameters)) := by
  refine ⟨(textParameters parameters).nodup, loadableMembers_iff.mpr ?_⟩
  intro m hm
  obtain ⟨e, he, rfl⟩ := List.mem_map.mp hm
  exact ⟨joinPairs_of_unpaired (h e he).1, joinPairs_of_unpaired (h e he).2⟩

theorem loadable_textArray (texts : List String) : Loadable readFloat (textArray texts) := by
  simp only [textArray, Loadable]
  induction texts with
  | nil => trivial
  | cons text texts ih => exact ⟨joinPairs_ofString text, ih⟩

theorem loadable_filesystem (c : FilesystemCapability) :
    Loadable readFloat (ToolExecutionDescriptor.object c.modelDump) := by
  refine ⟨c.dumpMembers_keys, loadableMembers_iff.mpr ?_⟩
  simp only [FilesystemCapability.modelDump, FilesystemCapability.dumpMembers,
    List.forall_mem_cons, joinPairs_ofString, true_and, List.not_mem_nil, false_implies,
    implies_true, and_true]
  exact ⟨joinPairs_ofString _, trivial, loadable_textArray _, trivial⟩

theorem loadable_destination (d : NetworkDestination u) : Loadable readFloat d.modelDump := by
  refine ⟨?_, joinPairs_ofString _, joinPairs_ofString _, joinPairs_ofString _, trivial, trivial⟩
  have hnames : [((.ofString "host" : Str), Value.str (.ofString d.host)),
      (.ofString "port", .int d.port)].map Prod.fst = [.ofString "host", .ofString "port"] := rfl
  rw [hnames]
  decide

theorem loadable_network (c : SandboxCapabilities u) :
    Loadable readFloat (ToolExecutionDescriptor.object c.networkDump) := by
  have hitems : LoadableItems readFloat (c.destinations.map (·.modelDump)) := by
    induction c.destinations with
    | nil => trivial
    | cons d ds ih => exact ⟨loadable_destination d, ih⟩
  refine ⟨c.networkDump.nodup, loadableMembers_iff.mpr ?_⟩
  simp only [SandboxCapabilities.networkDump, SandboxCapabilities.networkMembers,
    List.forall_mem_cons, joinPairs_ofString, true_and, List.not_mem_nil, false_implies,
    implies_true, and_true]
  exact ⟨joinPairs_ofString _, hitems, loadable_textArray _, trivial, trivial⟩

def samplePorts : PortReading where
  read := fun
    | .int n => some n
    | _ => none
  read_int := fun _ => rfl

def sampleProvenance : ExecutionProvenance :=
  { grantId := "grant-1"
    agentId := "agent-1"
    sessionId := "session-1"
    requestId := "request-1"
    toolId := "web_fetch"
    toolVersion := "1.0.0"
    implementationId := "web_fetch_v1" }

def sampleParameters (text : Str) : Dict Str Str := ⟨[(.ofString "query", text)], by simp⟩

end Crossing

end AgentSecurityPlatform
