import AgentSecurityPlatform.Executor.Registry
import AgentSecurityPlatform.Library.Families
import AgentSecurityPlatform.Library.Refinement

namespace AgentSecurityPlatform

-- a tool with the metadata that registration reads
structure RegisteredTool where
  tool : BaseTool
  name : String
  category : String

def RegisteredTool.descriptor (t : RegisteredTool) : ToolDescriptor :=
  { toolId := t.tool.toolId
    version := t.tool.version
    category := t.category }

inductive RegistryFailure where
  | registry (e : RegistryError)
  | invalidMetadata (message : String)
  | blankToolId
  | factory (e : RaisedException)
  | ambiguous (toolId : String) (versions : List String)
  | versionNotRegistered (toolId version : String)

inductive RegistryOp where
  | register (t : RegisteredTool) (implementationId : Option String)
  | registerFactory (toolId : String) (factory : Except RaisedException RegisteredTool)
      (metadata : Option ToolDescriptor)
  | resolve (toolId : String) (version : Option String)
  | unregister (toolId : String) (version : Option String)
  | clear
  | exists (toolId : String)
  | listToolIds

inductive RegistryAnswer where
  | done
  | resolved (descriptor : ExecutableDescriptor)
  | present (found : Bool)
  | toolIds (ids : Finset String)

abbrev RegistryReply := Except RegistryFailure RegistryAnswer

def validateToolMetadata (t : RegisteredTool) : Except RegistryFailure Unit :=
  if Text.strip t.tool.toolId = "" then
    .error (.invalidMetadata "Tool metadata identity must have a non-empty tool_id")
  else if Text.strip t.name = "" then
    .error (.invalidMetadata "Tool metadata identity must have a non-empty name")
  else .ok ()

namespace ExecutableRegistry

-- a registration that raises leaves the registry as it was
def kept (r : ExecutableRegistry) (result : Except RegistryError ExecutableRegistry) :
    ExecutableRegistry × RegistryReply :=
  match result with
  | .error e => (r, .error (.registry e))
  | .ok r' => (r', .ok .done)

def registerTool (r : ExecutableRegistry) (t : RegisteredTool) (implementationId : Option String) :
    ExecutableRegistry × RegistryReply :=
  match validateToolMetadata t with
  | .error e => (r, .error e)
  | .ok () => r.kept (r.register t.tool t.category implementationId)

def registerToolFactory (r : ExecutableRegistry) (toolId : String)
    (factory : Except RaisedException RegisteredTool) (metadata : Option ToolDescriptor) :
    ExecutableRegistry × RegistryReply :=
  if Text.strip toolId = "" then (r, .error .blankToolId)
  else
    match metadata with
    | some metadata => r.kept (r.registerFactory toolId (factory.map (·.tool)) metadata)
    | none =>
      match factory with
      | .error e => (r, .error (.factory e))
      | .ok sample =>
        match validateToolMetadata sample with
        | .error e => (r, .error e)
        | .ok () => r.kept (r.registerFactory toolId (.ok sample.tool) sample.descriptor)

def resolve (r : ExecutableRegistry) (toolId : String) :
    Option String → Except RegistryFailure ExecutableDescriptor
  | some version => (r.resolveVersion toolId version).mapError .registry
  | none =>
    match (r.versionsOf toolId).entries with
    | [] => .error (.registry (.notRegistered toolId))
    | [e] => .ok e.2
    | entries => .error (.ambiguous toolId ((entries.map Prod.fst).insertionSort (· ≤ ·)))

theorem keyed_erase (r : ExecutableRegistry) (key : String) : ∀ toolId versions version descriptor,
    (r.descriptors.erase key).get? toolId = some versions →
      versions.get? version = some descriptor →
      descriptor.version = version := by
  intro toolId versions version descriptor hversions
  rw [Dict.get?_erase] at hversions
  split at hversions
  · cases hversions
  · exact r.keyed toolId versions version descriptor hversions

def eraseTool (r : ExecutableRegistry) (toolId : String) : ExecutableRegistry :=
  ⟨r.descriptors.erase toolId, r.keyed_erase toolId⟩

theorem keyed_eraseVersion (r : ExecutableRegistry) (key dropped : String) :
    ∀ toolId versions version descriptor,
      (r.descriptors.set key ((r.versionsOf key).erase dropped)).get? toolId = some versions →
        versions.get? version = some descriptor → descriptor.version = version := by
  intro toolId versions version descriptor hversions hdescriptor
  rw [Dict.get?_set] at hversions
  split at hversions
  · cases hversions
    rw [Dict.get?_erase] at hdescriptor
    split at hdescriptor
    · cases hdescriptor
    · exact r.keyed_versionsOf hdescriptor
  · exact r.keyed toolId versions version descriptor hversions hdescriptor

-- a tool whose last version goes, goes with it
def eraseVersion (r : ExecutableRegistry) (toolId version : String) : ExecutableRegistry :=
  if ((r.versionsOf toolId).erase version).entries = [] then r.eraseTool toolId
  else
    ⟨r.descriptors.set toolId ((r.versionsOf toolId).erase version),
      r.keyed_eraseVersion toolId version⟩

def unregister (r : ExecutableRegistry) (toolId : String) (version : Option String) :
    ExecutableRegistry × RegistryReply :=
  if (r.versionsOf toolId).entries = [] then (r, .error (.registry (.notRegistered toolId)))
  else
    match version with
    | none => (r.eraseTool toolId, .ok .done)
    | some version =>
      if (r.versionsOf toolId).contains version then (r.eraseVersion toolId version, .ok .done)
      else (r, .error (.versionNotRegistered toolId version))

def toolIds (r : ExecutableRegistry) : Finset String :=
  (r.descriptors.entries.map Prod.fst).toFinset

def step (r : ExecutableRegistry) : RegistryOp → ExecutableRegistry × RegistryReply
  | .register t implementationId => r.registerTool t implementationId
  | .registerFactory toolId factory metadata => r.registerToolFactory toolId factory metadata
  | .resolve toolId version => (r, (r.resolve toolId version).map .resolved)
  | .unregister toolId version => r.unregister toolId version
  | .clear => (.empty, .ok .done)
  | .exists toolId => (r, .ok (.present ((r.versionsOf toolId).entries ≠ [])))
  | .listToolIds => (r, .ok (.toolIds r.toolIds))

def registrations (r : ExecutableRegistry) : List (String × ExecutableDescriptor) :=
  r.descriptors.entries.flatMap (fun e => e.2.values.map (fun descriptor => (e.1, descriptor)))

end ExecutableRegistry

-- what a registration puts into the registry, when it raises nothing on the way
def RegistryOp.registers :
    RegistryOp → Option (Except RegistryFailure (String × ExecutableDescriptor))
  | .register t implementationId =>
    some ((validateToolMetadata t).map (fun _ =>
      (t.tool.toolId, { t.descriptor with instanceTool := some t.tool, implementationId })))
  | .registerFactory toolId factory metadata =>
    some (if Text.strip toolId = "" then .error .blankToolId
      else
        match metadata, factory with
        | some metadata, factory =>
          .ok (toolId, { metadata with factory := some (factory.map (·.tool)) })
        | none, .error e => .error (.factory e)
        | none, .ok sample =>
          (validateToolMetadata sample).map (fun _ =>
            (toolId, { sample.descriptor with factory := some (.ok sample.tool) })))
  | _ => none

-- the registrations in force, oldest first
abbrev Catalogue := List (String × ExecutableDescriptor)

namespace Catalogue

def family (c : Catalogue) (toolId : String) : List ExecutableDescriptor :=
  (c.filter (fun x => x.1 = toolId)).map Prod.snd

def versions (c : Catalogue) (toolId : String) : List String := (c.family toolId).map (·.version)

def enter (c : Catalogue) : Except RegistryFailure (String × ExecutableDescriptor) →
    Catalogue × RegistryReply
  | .error e => (c, .error e)
  | .ok (toolId, descriptor) =>
    if descriptor.version ∈ c.versions toolId then
      (c, .error (.registry (.duplicateRegistration toolId descriptor.version)))
    else (c ++ [(toolId, descriptor)], .ok .done)

def resolve (c : Catalogue) (toolId : String) (version : Option String) :
    Except RegistryFailure ExecutableDescriptor :=
  match c.family toolId, version with
  | [], _ => .error (.registry (.notRegistered toolId))
  | found, some version =>
    match found.find? (fun d => ExecutableRegistry.matchVersion d.version version) with
    | some descriptor => .ok descriptor
    | none => .error (.registry (.versionMismatch toolId version (found.map (·.version))))
  | [descriptor], none => .ok descriptor
  | found, none => .error (.ambiguous toolId ((found.map (·.version)).insertionSort (· ≤ ·)))

def unregister (c : Catalogue) (toolId : String) (version : Option String) :
    Catalogue × RegistryReply :=
  if c.family toolId = [] then (c, .error (.registry (.notRegistered toolId)))
  else
    match version with
    | none => (c.filter (fun x => x.1 ≠ toolId), .ok .done)
    | some version =>
      if version ∈ c.versions toolId then
        (c.filter (fun x => ¬ (x.1 = toolId ∧ x.2.version = version)), .ok .done)
      else (c, .error (.versionNotRegistered toolId version))

def step (c : Catalogue) (op : RegistryOp) : Catalogue × RegistryReply :=
  match op.registers with
  | some registration => c.enter registration
  | none =>
    match op with
    | .resolve toolId version => (c, (c.resolve toolId version).map .resolved)
    | .unregister toolId version => c.unregister toolId version
    | .clear => ([], .ok .done)
    | .exists toolId => (c, .ok (.present (c.family toolId ≠ [])))
    | _ => (c, .ok (.toolIds (c.map Prod.fst).toFinset))

end Catalogue

-- the two levels of dictionaries hold the registrations in force, and no tool without a version
structure ExecutableRegistry.Represents (r : ExecutableRegistry) (c : Catalogue) : Prop where
  families : ∀ toolId, (r.versionsOf toolId).values = c.family toolId
  inhabited : ∀ toolId versions, r.descriptors.get? toolId = some versions → versions.entries ≠ []

namespace ExecutableRegistry

variable {r r' : ExecutableRegistry} {c : Catalogue} {toolId version : String}
  {descriptor : ExecutableDescriptor}

theorem entries_versionsOf (r : ExecutableRegistry) (toolId : String) :
    (r.versionsOf toolId).entries = (r.versionsOf toolId).values.map (fun d => (d.version, d)) := by
  rw [Dict.values, List.map_map]
  apply (List.map_id _).symm.trans
  apply List.map_congr_left
  rintro ⟨version, descriptor⟩ he
  rw [Dict.mem_entries_iff] at he
  simp [r.keyed_versionsOf he]

theorem Represents.entries (h : r.Represents c) (toolId : String) :
    (r.versionsOf toolId).entries = (c.family toolId).map (fun d => (d.version, d)) := by
  rw [entries_versionsOf, h.families]

theorem Represents.entries_nil_iff (h : r.Represents c) (toolId : String) :
    (r.versionsOf toolId).entries = [] ↔ c.family toolId = [] := by
  rw [h.entries, List.map_eq_nil_iff]

theorem Represents.contains_iff (h : r.Represents c) (toolId version : String) :
    (r.versionsOf toolId).contains version = true ↔ version ∈ c.versions toolId := by
  have hkeys : (r.versionsOf toolId).entries.map Prod.fst = c.versions toolId := by
    rw [h.entries, List.map_map]
    rfl
  rw [Dict.contains_eq_true_iff, ← hkeys]
  constructor
  · rintro ⟨descriptor, hd⟩
    exact List.mem_map.mpr ⟨_, ((r.versionsOf toolId).mem_entries_iff _ _).mpr hd, rfl⟩
  · intro hmem
    obtain ⟨⟨found, descriptor⟩, he, rfl⟩ := List.mem_map.mp hmem
    exact ⟨descriptor, ((r.versionsOf toolId).mem_entries_iff _ _).mp he⟩

theorem versionsOf_set {key : String} {versions : Dict String ExecutableDescriptor}
    (h : r'.descriptors = r.descriptors.set key versions) (toolId : String) :
    r'.versionsOf toolId = if key = toolId then versions else r.versionsOf toolId := by
  simp only [versionsOf, h, Dict.getD_set]

theorem versionsOf_erase {key : String} (h : r'.descriptors = r.descriptors.erase key)
    (toolId : String) :
    r'.versionsOf toolId = if key = toolId then .empty else r.versionsOf toolId := by
  simp only [versionsOf, h, Dict.getD, Dict.get?_erase]
  split <;> rfl

theorem family_append (c : Catalogue) (key toolId : String) (descriptor : ExecutableDescriptor) :
    Catalogue.family (c ++ [(key, descriptor)]) toolId =
      if key = toolId then c.family toolId ++ [descriptor] else c.family toolId := by
  simp only [Catalogue.family, List.filter_append, List.map_append]
  by_cases hkey : key = toolId <;> simp [hkey]

theorem Represents.store (h : r.Represents c) (toolId : String)
    (descriptor : ExecutableDescriptor) :
    (r.kept (r.store toolId descriptor)).2 = (c.enter (.ok (toolId, descriptor))).2 ∧
      (r.kept (r.store toolId descriptor)).1.Represents (c.enter (.ok (toolId, descriptor))).1 := by
  have hcontains := h.contains_iff toolId descriptor.version
  simp only [ExecutableRegistry.store, Catalogue.enter]
  by_cases hin : descriptor.version ∈ c.versions toolId
  · rw [if_pos (hcontains.mpr hin), if_pos hin]
    exact ⟨rfl, h⟩
  · rw [if_neg (fun ht => hin (hcontains.mp ht)), if_neg hin]
    have habsent : (r.versionsOf toolId).get? descriptor.version = none :=
      (Dict.contains_eq_false_iff _ _).mp (Bool.eq_false_iff.mpr (fun ht => hin (hcontains.mp ht)))
    refine ⟨rfl, ?_, ?_⟩
    · intro other
      simp only [kept, family_append]
      rw [versionsOf_set rfl]
      split
      · rename_i hother
        subst hother
        rw [Dict.values_set_of_absent _ _ _ habsent, h.families]
      · exact h.families other
    · intro other versions hversions
      simp only [kept, Dict.get?_set] at hversions
      split at hversions
      · cases hversions
        rw [Dict.entries_set_of_absent _ _ _ habsent]
        simp
      · exact h.inhabited other versions hversions

theorem Represents.register (h : r.Represents c) {registration : Except RegistryFailure
      (String × ExecutableDescriptor)} {op : RegistryOp} (hop : op.registers = some registration) :
    (r.step op).2 = (c.enter registration).2 ∧
      (r.step op).1.Represents (c.enter registration).1 := by
  cases op with
  | register t implementationId =>
    cases hop
    simp only [step, registerTool]
    cases validateToolMetadata t with
    | error e => exact ⟨rfl, h⟩
    | ok _ => exact h.store _ _
  | registerFactory toolId factory metadata =>
    cases hop
    simp only [step, registerToolFactory]
    split
    · exact ⟨rfl, h⟩
    · cases metadata with
      | some metadata => exact h.store _ _
      | none =>
        cases factory with
        | error e => exact ⟨rfl, h⟩
        | ok sample =>
          simp only
          cases validateToolMetadata sample with
          | error e => exact ⟨rfl, h⟩
          | ok _ => exact h.store _ _
  | _ => cases hop

theorem Represents.resolve (h : r.Represents c) (toolId : String) (version : Option String) :
    r.resolve toolId version = c.resolve toolId version := by
  cases version with
  | some version =>
    simp only [ExecutableRegistry.resolve, resolveVersion, Catalogue.resolve, h.entries]
    generalize c.family toolId = found
    have hfind : (found.map (fun d => (d.version, d))).find? (fun e => matchVersion e.1 version) =
        (found.find? (fun d => matchVersion d.version version)).map (fun d => (d.version, d)) := by
      rw [List.find?_map]
      rfl
    have hkeys : (found.map (fun d => (d.version, d))).map Prod.fst = found.map (·.version) := by
      rw [List.map_map]
      rfl
    cases found with
    | nil => rfl
    | cons first rest =>
      simp only [List.map_cons] at hfind hkeys ⊢
      rw [hfind, hkeys]
      cases List.find? (fun d => matchVersion d.version version) (first :: rest) <;> rfl
  | none =>
    simp only [ExecutableRegistry.resolve, Catalogue.resolve, h.entries]
    rcases c.family toolId with _ | ⟨first, _ | ⟨second, rest⟩⟩
    · rfl
    · rfl
    · simp [Function.comp_def]

theorem family_filter (c : Catalogue) (p : String × ExecutableDescriptor → Bool) (toolId : String) :
    Catalogue.family (c.filter p) toolId =
      (c.family toolId).filter (fun descriptor => p (toolId, descriptor)) := by
  simp only [Catalogue.family, List.filter_filter, List.filter_map]
  apply congrArg (List.map Prod.snd)
  apply List.filter_congr
  rintro ⟨key, descriptor⟩ _
  by_cases hkey : key = toolId
  · simp [hkey]
  · simp [hkey]

theorem Represents.eraseTool (h : r.Represents c) (toolId : String) :
    (r.eraseTool toolId).Represents (c.filter (fun x => x.1 ≠ toolId)) := by
  constructor
  case families =>
    intro other
    rw [versionsOf_erase rfl, family_filter]
    split
    · rename_i hother
      subst hother
      simp [Dict.values, Dict.empty]
    · rename_i hother
      rw [h.families]
      simp [Ne.symm hother]
  case inhabited =>
    intro other versions hversions
    simp only [ExecutableRegistry.eraseTool, Dict.get?_erase] at hversions
    split at hversions
    · cases hversions
    · exact h.inhabited other versions hversions

theorem Represents.eraseVersion (h : r.Represents c) (toolId version : String) :
    (r.eraseVersion toolId version).Represents
      (c.filter (fun x => ¬ (x.1 = toolId ∧ x.2.version = version))) := by
  have hrest : ((r.versionsOf toolId).erase version).values =
      (c.family toolId).filter (fun d => d.version ≠ version) := by
    have hentries : ((r.versionsOf toolId).erase version).entries =
        (r.versionsOf toolId).entries.filter (fun e => e.1 ≠ version) := rfl
    rw [Dict.values, hentries, h.entries, List.filter_map, List.map_map]
    exact List.map_id _
  have hother (other : String) (hne : ¬ toolId = other) :
      Catalogue.family (c.filter (fun x => ¬ (x.1 = toolId ∧ x.2.version = version))) other =
        c.family other := by
    rw [family_filter]
    simp [Ne.symm hne]
  have hself : Catalogue.family
    (c.filter (fun x => ¬ (x.1 = toolId ∧ x.2.version = version))) toolId =
      (c.family toolId).filter (fun d => d.version ≠ version) := by
    rw [family_filter]
    simp
  unfold ExecutableRegistry.eraseVersion
  split
  · rename_i hnil
    constructor
    case families =>
      intro other
      rw [versionsOf_erase rfl]
      split
      · rename_i hkey
        subst hkey
        have hvalues : ((r.versionsOf toolId).erase version).values = [] := by
          rw [Dict.values, hnil]; rfl
        rw [hself, ← hrest, hvalues]
        rfl
      · rename_i hkey
        rw [h.families, hother other hkey]
    case inhabited =>
      intro other versions hversions
      simp only [ExecutableRegistry.eraseTool, Dict.get?_erase] at hversions
      split at hversions
      · cases hversions
      · exact h.inhabited other versions hversions
  · rename_i hne
    constructor
    case families =>
      intro other
      rw [versionsOf_set rfl]
      split
      · rename_i hkey
        subst hkey
        rw [hself, hrest]
      · rename_i hkey
        rw [h.families, hother other hkey]
    case inhabited =>
      intro other versions hversions
      simp only [Dict.get?_set] at hversions
      split at hversions
      · cases hversions
        exact hne
      · exact h.inhabited other versions hversions

theorem Represents.unregister (h : r.Represents c) (toolId : String) (version : Option String) :
    (r.unregister toolId version).2 = (c.unregister toolId version).2 ∧
      (r.unregister toolId version).1.Represents (c.unregister toolId version).1 := by
  have hnil := h.entries_nil_iff toolId
  simp only [ExecutableRegistry.unregister, Catalogue.unregister]
  by_cases hempty : c.family toolId = []
  · rw [if_pos (hnil.mpr hempty), if_pos hempty]
    exact ⟨rfl, h⟩
  · rw [if_neg (fun he => hempty (hnil.mp he)), if_neg hempty]
    cases version with
    | none => exact ⟨rfl, h.eraseTool toolId⟩
    | some version =>
      have hcontains := h.contains_iff toolId version
      by_cases hin : version ∈ c.versions toolId
      · simp only [if_pos (hcontains.mpr hin), if_pos hin]
        exact ⟨trivial, h.eraseVersion toolId version⟩
      · simp only [if_neg (fun ht => hin (hcontains.mp ht)), if_neg hin]
        exact ⟨trivial, h⟩

theorem Represents.toolIds (h : r.Represents c) : r.toolIds = (c.map Prod.fst).toFinset := by
  ext toolId
  simp only [ExecutableRegistry.toolIds, List.mem_toFinset, List.mem_map]
  constructor
  · rintro ⟨⟨key, versions⟩, he, rfl⟩
    have hget := (r.descriptors.mem_entries_iff key versions).mp he
    have hversions : r.versionsOf key = versions := by simp [versionsOf, Dict.getD, hget]
    have hfamily : c.family key ≠ [] := by
      rw [← h.families, hversions, Dict.values]
      simpa using h.inhabited key versions hget
    obtain ⟨descriptor, hd⟩ := List.exists_mem_of_ne_nil _ hfamily
    obtain ⟨x, hx, -⟩ := List.mem_map.mp hd
    rw [List.mem_filter] at hx
    exact ⟨x, hx.1, by simpa using hx.2⟩
  · rintro ⟨x, hx, rfl⟩
    have hfamily : c.family x.1 ≠ [] :=
      List.ne_nil_of_mem (List.mem_map.mpr ⟨x, by simp [hx], rfl⟩)
    rw [← h.families] at hfamily
    cases hget : r.descriptors.get? x.1 with
    | none =>
      simp [versionsOf, Dict.getD, hget, Dict.values, Dict.empty] at hfamily
    | some versions => exact ⟨(x.1, versions), (r.descriptors.mem_entries_iff _ _).mpr hget, rfl⟩

theorem refines : Run.Refines step Catalogue.step (fun _ _ => True) Represents Eq := by
  have hstep (r : ExecutableRegistry) (c : Catalogue) (op : RegistryOp) (h : r.Represents c) :
      (r.step op).2 = (c.step op).2 ∧ (r.step op).1.Represents (c.step op).1 := by
    cases hop : op.registers with
    | some registration =>
      simp only [Catalogue.step, hop]
      exact h.register hop
    | none =>
      cases op with
      | register t implementationId => cases hop
      | registerFactory toolId factory metadata => cases hop
      | resolve toolId version =>
        simp only [step, Catalogue.step, hop, h.resolve]
        exact ⟨trivial, h⟩
      | unregister toolId version => exact h.unregister toolId version
      | clear => exact ⟨rfl, fun _ => rfl, fun _ _ hnone => by cases hnone⟩
      | «exists» toolId =>
        simp only [step, Catalogue.step, hop, ne_eq, h.entries_nil_iff]
        exact ⟨trivial, h⟩
      | listToolIds =>
        simp only [step, Catalogue.step, hop, h.toolIds]
        exact ⟨trivial, h⟩
  exact ⟨fun r c op h _ => (hstep r c op h).1, fun r c op h _ => (hstep r c op h).2⟩

theorem Represents.registrations (h : r.Represents c) : r.registrations.Perm c := by
  have hgrouped : r.registrations = Families.grouped Prod.fst
    (r.descriptors.entries.map Prod.fst) c := by
    rw [ExecutableRegistry.registrations, Families.grouped, List.flatMap_map]
    apply List.flatMap_congr
    rintro ⟨key, versions⟩ he
    have hget := (r.descriptors.mem_entries_iff key versions).mp he
    have hversions : r.versionsOf key = versions := by simp [versionsOf, Dict.getD, hget]
    simp only [← hversions, h.families, Catalogue.family, List.map_map]
    refine (List.map_congr_left ?_).trans (List.map_id _)
    rintro ⟨found, descriptor⟩ hx
    have hkey : found = key := by simpa using (List.mem_filter.mp hx).2
    rw [hkey]
    rfl
  rw [hgrouped]
  apply Families.grouped_perm Prod.fst r.descriptors.nodup
  intro x hx
  have hmem : x.1 ∈ r.toolIds := by
    rw [h.toolIds, List.mem_toFinset]
    exact List.mem_map_of_mem hx
  exact List.mem_toFinset.mp hmem

theorem Represents.nodup (h : r.Represents c) (toolId : String) : (c.versions toolId).Nodup := by
  have hkeys := (r.versionsOf toolId).nodup
  rw [h.entries, List.map_map] at hkeys
  exact hkeys

def after (ops : List RegistryOp) : ExecutableRegistry := Run.final step .empty ops

theorem empty_represents : ExecutableRegistry.empty.Represents [] :=
  ⟨fun _ => rfl, fun _ _ hnone => by cases hnone⟩

theorem after_represents (ops : List RegistryOp) :
    (after ops).Represents (Run.final Catalogue.step [] ops) :=
  refines.final empty_represents (Run.meets_of_forall (P := fun _ => True) _ (fun _ _ => trivial))

theorem registry_runs_as_catalogue (ops : List RegistryOp) :
    Run.replies step .empty ops = Run.replies Catalogue.step [] ops ∧
      (after ops).Represents (Run.final Catalogue.step [] ops) ∧
      (after ops).registrations.Perm (Run.final Catalogue.step [] ops) :=
  ⟨refines.replies_eq empty_represents
      (Run.meets_of_forall (P := fun _ => True) _ (fun _ _ => trivial)),
    after_represents ops, (after_represents ops).registrations⟩

end ExecutableRegistry

namespace Catalogue

variable {c : Catalogue} {toolId : String}

theorem family_perm {c c' : Catalogue} (h : c.Perm c') (toolId : String) :
    (c.family toolId).Perm (c'.family toolId) :=
  (h.filter _).map Prod.snd

-- no two registered versions of the tool are the same up to surrounding whitespace
def Distinct (c : Catalogue) (toolId : String) : Prop :=
  ∀ v ∈ c.versions toolId, ∀ w ∈ c.versions toolId, Text.strip v = Text.strip w → v = w

theorem descriptor_unique (hn : (c.versions toolId).Nodup) {d e : ExecutableDescriptor}
    (hd : d ∈ c.family toolId) (he : e ∈ c.family toolId) (h : d.version = e.version) : d = e :=
  List.inj_on_of_nodup_map hn hd he h

theorem resolve_given (c : Catalogue) (toolId version : String) :
    (c.resolve toolId (some version)).toOption =
      (c.family toolId).find? (fun d => ExecutableRegistry.matchVersion d.version version) := by
  unfold resolve
  generalize c.family toolId = found
  cases found with
  | nil => rfl
  | cons first rest =>
    simp only
    cases List.find? (fun d => ExecutableRegistry.matchVersion d.version version)
      (first :: rest) <;> rfl

theorem resolve_omitted (c : Catalogue) (toolId : String) (descriptor : ExecutableDescriptor) :
    (c.resolve toolId none).toOption = some descriptor ↔ c.family toolId = [descriptor] := by
  unfold resolve
  generalize c.family toolId = found
  rcases found with _ | ⟨first, _ | ⟨second, rest⟩⟩
  · simp [Except.toOption]
  · simp [Except.toOption]
  · simp [Except.toOption]

theorem resolve_perm {c c' : Catalogue} (h : c.Perm c') (hn : (c.versions toolId).Nodup)
    (hdistinct : c.Distinct toolId) (version : Option String) :
    (c'.resolve toolId version).toOption = (c.resolve toolId version).toOption := by
  have hfamily := family_perm h toolId
  cases version with
  | some version =>
    rw [resolve_given, resolve_given]
    refine (Families.find?_perm hfamily ?_).symm
    intro d hd e he hmd hme
    simp only [ExecutableRegistry.matchVersion, decide_eq_true_eq] at hmd hme
    exact descriptor_unique hn hd he (hdistinct _ (List.mem_map_of_mem hd) _
      (List.mem_map_of_mem he) (hmd.trans hme.symm))
  | none =>
    ext descriptor
    rw [resolve_omitted, resolve_omitted]
    constructor
    · intro hsole
      rw [hsole] at hfamily
      exact List.perm_singleton.mp hfamily
    · intro hsole
      rw [hsole] at hfamily
      exact List.perm_singleton.mp hfamily.symm

-- every registration in force was put in by an operation of the run
theorem registered_by (ops : List RegistryOp) :
    ∀ x ∈ Run.final step ([] : Catalogue) ops, ∃ op ∈ ops, op.registers = some (.ok x) := by
  apply Run.final_invariant step (fun c => ∀ x ∈ c, ∃ op ∈ ops, op.registers = some (.ok x))
    (fun op => op ∈ ops) [] ops (by simp) (fun _ h => h)
  intro c op hop hc
  simp only [step]
  split
  · rename_i registration hregisters
    cases registration with
    | error e => exact hc
    | ok x =>
      simp only [enter]
      split
      · exact hc
      · intro y hy
        rcases List.mem_append.mp hy with hy | hy
        · exact hc y hy
        · rw [List.mem_singleton.mp hy]
          exact ⟨op, hop, hregisters⟩
  · split
    · exact hc
    · unfold unregister
      split
      · exact hc
      · split
        · exact fun y hy => hc y (List.mem_filter.mp hy).1
        · split
          · exact fun y hy => hc y (List.mem_filter.mp hy).1
          · exact hc
    · simp
    · exact hc
    · exact hc

theorem versions_append (c c' : Catalogue) (toolId : String) :
    Catalogue.versions (c ++ c') toolId = c.versions toolId ++ c'.versions toolId := by
  simp [versions, family]

theorem versions_cons (x : String × ExecutableDescriptor) (c : Catalogue) :
    Catalogue.versions (x :: c) x.1 = x.2.version :: c.versions x.1 := by
  simp [versions, family]

theorem mem_versions {x : String × ExecutableDescriptor} (h : x ∈ c) :
    x.2.version ∈ c.versions x.1 :=
  List.mem_map_of_mem (List.mem_map.mpr ⟨x, List.mem_filter.mpr ⟨h, by simp⟩, rfl⟩)

-- unregistering a version and registering it again makes it the youngest
theorem registered_again {before rest : Catalogue} {x : String × ExecutableDescriptor}
    {op : RegistryOp} (hn : (Catalogue.versions (before ++ x :: rest) x.1).Nodup)
    (hop : op.registers = some (.ok x)) :
    Run.final step (before ++ x :: rest) [.unregister x.1 (some x.2.version), op] =
      before ++ rest ++ [x] := by
  have hx : x ∈ before ++ x :: rest := by simp
  rw [versions_append, versions_cons, List.nodup_middle, List.nodup_cons, ← versions_append] at hn
  have hkept (y : String × ExecutableDescriptor) (hy : y ∈ before ++ rest) :
      ¬ (y.1 = x.1 ∧ y.2.version = x.2.version) := by
    rintro ⟨hkey, hversion⟩
    apply hn.1
    rw [← hkey, ← hversion]
    exact mem_versions hy
  have hfiltered : (before ++ x :: rest).filter
      (fun y => ¬ (y.1 = x.1 ∧ y.2.version = x.2.version)) = before ++ rest := by
    rw [List.filter_append, List.filter_cons_of_neg (by simp), ← List.filter_append]
    exact List.filter_eq_self.mpr (fun y hy => decide_eq_true (hkept y hy))
  have hunregister : (Catalogue.unregister (before ++ x :: rest) x.1 (some x.2.version)).1 =
      before ++ rest := by
    have hne : Catalogue.family (before ++ x :: rest) x.1 ≠ [] := by
      intro hnil
      have hversion := mem_versions hx
      rw [versions, hnil] at hversion
      cases hversion
    simp only [unregister, if_neg hne, if_pos (mem_versions hx)]
    exact hfiltered
  have henter : (step (before ++ rest) op).1 = before ++ rest ++ [x] := by
    simp only [step, hop, enter, if_neg hn.1]
  calc Run.final step (before ++ x :: rest) [.unregister x.1 (some x.2.version), op]
      = (step (Catalogue.unregister (before ++ x :: rest) x.1 (some x.2.version)).1 op).1 := rfl
    _ = before ++ rest ++ [x] := by rw [hunregister, henter]

-- the oldest of several versions that match is resolved, and only until it is registered again
theorem reordered {d e : ExecutableDescriptor} (hn : (c.versions toolId).Nodup)
    (hd : (toolId, d) ∈ c) (he : (toolId, e) ∈ c) (hne : d.version ≠ e.version)
    (hsame : Text.strip d.version = Text.strip e.version) :
    ∃ before x rest, c = before ++ x :: rest ∧ x.1 = toolId ∧
      (Catalogue.resolve (before ++ rest ++ [x]) toolId (some d.version)).toOption ≠
        (c.resolve toolId (some d.version)).toOption := by
  have hmatches : (c.find? (fun x => x.1 = toolId ∧
      ExecutableRegistry.matchVersion x.2.version d.version = true)).isSome = true :=
    List.find?_isSome.mpr ⟨_, hd, by simp [ExecutableRegistry.matchVersion]⟩
  obtain ⟨x, hx⟩ := Option.isSome_iff_exists.mp hmatches
  obtain ⟨hmatch, before, rest, rfl, hbefore⟩ := List.find?_eq_some_iff_append.mp hx
  obtain ⟨rfl, hxmatch⟩ := of_decide_eq_true hmatch
  refine ⟨before, x, rest, rfl, rfl, ?_⟩
  have hnone : ∀ z ∈ before, z.1 = x.1 →
      ExecutableRegistry.matchVersion z.2.version d.version = false := by
    intro z hz hkey
    simpa [hkey] using hbefore z hz
  rw [versions_append, versions_cons, List.nodup_middle, List.nodup_cons, ← versions_append] at hn
  have hold : (Catalogue.resolve (before ++ x :: rest) x.1 (some d.version)).toOption =
    some x.2 := by
    have hfamily : Catalogue.family (before ++ x :: rest) x.1 =
        Catalogue.family before x.1 ++ x.2 :: Catalogue.family rest x.1 := by simp [family]
    have hskip : (Catalogue.family before x.1).find?
        (fun d' => ExecutableRegistry.matchVersion d'.version d.version) = none := by
      rw [List.find?_eq_none]
      intro d' hd'
      obtain ⟨z, hz, rfl⟩ := List.mem_map.mp hd'
      rw [List.mem_filter] at hz
      simpa using hnone z hz.1 (by simpa using hz.2)
    rw [resolve_given, hfamily, List.find?_append, hskip, Option.none_or, List.find?_cons, hxmatch]
  obtain ⟨y, hy, hykey, hymatch⟩ : ∃ y ∈ before ++ rest, y.1 = x.1 ∧
      ExecutableRegistry.matchVersion y.2.version d.version = true := by
    have hother : ∃ y ∈ before ++ x :: rest, y ≠ x ∧ y.1 = x.1 ∧
        ExecutableRegistry.matchVersion y.2.version d.version = true := by
      by_cases hdx : (x.1, d) = x
      · refine ⟨(x.1, e), he, ?_, rfl, by simp [ExecutableRegistry.matchVersion, hsame]⟩
        rw [← hdx]
        intro hed
        exact hne (congrArg (fun z => z.2.version) hed).symm
      · exact ⟨(x.1, d), hd, hdx, rfl, by simp [ExecutableRegistry.matchVersion]⟩
    obtain ⟨y, hy, hyx, hmatches⟩ := hother
    refine ⟨y, ?_, hmatches⟩
    simpa [hyx] using hy
  intro hnew
  have hfamily : Catalogue.family (before ++ rest ++ [x]) x.1 =
      Catalogue.family (before ++ rest) x.1 ++ [x.2] := by simp [family]
  have hfound : ((Catalogue.family (before ++ rest) x.1).find?
      (fun d' => ExecutableRegistry.matchVersion d'.version d.version)).isSome = true :=
    List.find?_isSome.mpr ⟨y.2,
      List.mem_map.mpr ⟨y, List.mem_filter.mpr ⟨hy, by simpa using hykey⟩, rfl⟩, hymatch⟩
  obtain ⟨z, hz⟩ := Option.isSome_iff_exists.mp hfound
  rw [hold, resolve_given, hfamily, List.find?_append, hz] at hnew
  obtain rfl : z = x.2 := Option.some.inj hnew
  exact hn.1 (List.mem_map_of_mem (List.mem_of_find?_eq_some hz))

end Catalogue

namespace ExecutableRegistry

-- resolution follows from what is registered, whatever the run that registered it
def OrderFree (ops : List RegistryOp) (toolId : String) : Prop :=
  ∀ ops' : List RegistryOp, (after ops').registrations.Perm (after ops).registrations →
    ∀ version, ((after ops').resolve toolId version).toOption =
      ((after ops).resolve toolId version).toOption

theorem resolution_order_free_iff (ops : List RegistryOp) (toolId : String) :
    OrderFree ops toolId ↔
      ∀ x ∈ (after ops).registrations, ∀ y ∈ (after ops).registrations,
        x.1 = toolId → y.1 = toolId →
        Text.strip x.2.version = Text.strip y.2.version → x.2.version = y.2.version := by
  have hr := after_represents ops
  generalize hc : Run.final Catalogue.step [] ops = c at hr
  constructor
  · rintro hfree ⟨key, d⟩ hx ⟨key', e⟩ hy rfl rfl hsame
    by_contra hne
    rw [hr.registrations.mem_iff] at hx hy
    obtain ⟨before, x, rest, rfl, hkey, hchanged⟩ :=
      Catalogue.reordered (hr.nodup key') hx hy hne hsame
    have hmem : x ∈ before ++ x :: rest := by simp
    obtain ⟨op, -, hop⟩ := Catalogue.registered_by ops x (hc ▸ hmem)
    have hagain : Run.final Catalogue.step [] (ops ++ [.unregister x.1 (some x.2.version), op]) =
        before ++ rest ++ [x] := by
      rw [Run.final_append, hc]
      exact Catalogue.registered_again (hr.nodup x.1) hop
    have hr' := after_represents (ops ++ [.unregister x.1 (some x.2.version), op])
    rw [hagain] at hr'
    have hperm : (before ++ rest ++ [x]).Perm (before ++ x :: rest) := by
      rw [List.append_assoc]
      exact List.perm_append_comm.append_left before |>.trans (by simp)
    have hsameResolution := hfree _ ((hr'.registrations.trans hperm).trans hr.registrations.symm)
      (some d.version)
    rw [hr'.resolve, hr.resolve] at hsameResolution
    exact hchanged hsameResolution
  · intro hdistinct ops' hperm version
    have hr' := after_represents ops'
    have hcatalogues : c.Perm (Run.final Catalogue.step [] ops') :=
      (hr.registrations.symm.trans hperm.symm).trans hr'.registrations
    rw [hr'.resolve, hr.resolve]
    refine Catalogue.resolve_perm hcatalogues (hr.nodup toolId) ?_ version
    intro v hv w hw hsame
    obtain ⟨d, hd, rfl⟩ := List.mem_map.mp hv
    obtain ⟨e, he, rfl⟩ := List.mem_map.mp hw
    obtain ⟨x, hx, rfl⟩ := List.mem_map.mp hd
    obtain ⟨y, hy, rfl⟩ := List.mem_map.mp he
    rw [List.mem_filter] at hx hy
    exact hdistinct x (hr.registrations.mem_iff.mpr hx.1) y (hr.registrations.mem_iff.mpr hy.1)
      (by simpa using hx.2) (by simpa using hy.2) hsame

end ExecutableRegistry

end AgentSecurityPlatform
