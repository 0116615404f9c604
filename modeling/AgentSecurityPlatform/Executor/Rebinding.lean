import AgentSecurityPlatform.Runtime.Request

namespace AgentSecurityPlatform

theorem canonicalizeEntries_keys {entries : List (ParameterName × ParameterValue)}
    {canonical : List (String × String)} (h : canonicalizeEntries entries = some canonical) :
    entries.map Prod.fst = canonical.map (fun p => .text p.1) := by
  induction entries generalizing canonical with
  | nil =>
    cases h
    rfl
  | cons e es ih =>
    obtain ⟨name, value⟩ := e
    cases name with
    | other n => cases h
    | text name =>
      cases value with
      | null => cases h
      | other n => cases h
      | text value =>
        simp only [canonicalizeEntries] at h
        split at h
        · cases h
        · obtain ⟨rest, hrest, rfl⟩ := Option.map_eq_some_iff.mp h
          simp [ih hrest]

theorem contains_canonical {parameters : Parameters} {canonical : List (String × String)}
    (h : canonicalizeParameters parameters = some canonical) (name : String) :
    (canonical.lookup name).isSome = parameters.contains (.text name) := by
  obtain ⟨pairs, hpairs, rfl⟩ := Option.map_eq_some_iff.mp h
  have hkeys := canonicalizeEntries_keys hpairs
  have htext : (∃ p ∈ pairs, name = p.1) ↔
      ParameterName.text name ∈ pairs.map (fun p => ParameterName.text p.1) := by
    simp [eq_comm]
  have hentries : ParameterName.text name ∈ parameters.entries.map Prod.fst ↔
      ∃ v, parameters.get? (.text name) = some v := by
    simp [← Dict.mem_entries_iff]
  rw [Bool.eq_iff_iff, List.lookup_isSome_iff, Dict.contains_eq_true_iff, ← hentries,
    hkeys, ← htext]
  simp only [List.mem_insertionSort, beq_iff_eq]

namespace ExecutionBinding

variable {b : ExecutionBinding}

def parametersDict (b : ExecutionBinding) : Parameters :=
  ⟨b.parameters.map (fun p => (.text p.1, .text p.2)), by
    have hnodup : (b.parameters.map Prod.fst).Nodup := b.names_sorted.imp (fun h => ne_of_lt h)
    have hkeys : (b.parameters.map (fun p => (ParameterName.text p.1, ParameterValue.text p.2))).map
        Prod.fst = (b.parameters.map Prod.fst).map ParameterName.text := by simp
    rw [hkeys]
    exact hnodup.map (fun _ _ h => ParameterName.text.inj h)⟩

theorem canonicalizeEntries_texts {pairs : List (String × String)} (h : ∀ p ∈ pairs, p.1 ≠ "") :
    canonicalizeEntries (pairs.map (fun p => (.text p.1, .text p.2))) = some pairs := by
  induction pairs with
  | nil => rfl
  | cons p pairs ih =>
    simp [canonicalizeEntries, h p (by simp), ih (fun q hq => h q (by simp [hq]))]

theorem canonicalizeParameters_dict (b : ExecutionBinding) :
    canonicalizeParameters b.parametersDict = some b.parameters := by
  simp only [canonicalizeParameters, parametersDict, canonicalizeEntries_texts b.names_ne,
    Option.map_some, Option.some.injEq]
  apply List.Pairwise.insertionSort_eq
  exact (List.pairwise_map.mp b.names_sorted).imp (fun h => .inl h)

theorem construct_self (b : ExecutionBinding) :
    construct b.toolId b.toolVersion b.resource b.parameters = some b := by
  unfold construct
  rw [dif_pos ⟨b.toolId_ne, b.toolVersion_ne, b.names_ne, b.names_sorted, b.resource_agrees⟩]

-- the executor rebuilds the binding from its parameters alone
theorem rebuilt_iff (b : ExecutionBinding) (toolId toolVersion : String) :
    fromOperation toolId toolVersion b.parametersDict none = some b ↔
      toolId = b.toolId ∧ toolVersion = b.toolVersion ∧
        b.resource = b.parameters.lookup resourceParameter := by
  simp only [fromOperation, canonicalizeParameters_dict]
  constructor
  · intro h
    obtain ⟨ht, hv, hr, -⟩ := construct_eq_some h
    exact ⟨ht.symm, hv.symm, hr⟩
  · rintro ⟨rfl, rfl, hr⟩
    rw [← hr]
    exact construct_self b

theorem fromOperation_resource {toolId toolVersion : String} {parameters : Parameters}
    {resource : Option String} (h : fromOperation toolId toolVersion parameters resource = some b) :
    b.resource = b.parameters.lookup resourceParameter ↔
      resource = none ∨ parameters.contains (.text resourceParameter) = true := by
  unfold fromOperation at h
  split at h
  · cases h
  · rename_i canonical hc
    rw [← contains_canonical hc]
    split at h
    · rename_i r declared hd
      split at h
      · cases h
      · rename_i heq
        obtain ⟨-, -, hr, hp⟩ := construct_eq_some h
        simp [hr, hp, hd, not_not.mp heq]
    · rename_i r hd
      obtain ⟨-, -, hr, hp⟩ := construct_eq_some h
      simp [hr, hp, hd]
    · obtain ⟨-, -, hr, hp⟩ := construct_eq_some h
      simp [hr, hp]

end ExecutionBinding

namespace Deployment

variable {d : Deployment} {r : ExecuteRequest} {b : ExecutionBinding}

theorem bindOperation_binding {toolVersion resource : Option String} {parameters : Parameters}
    (h : (bindOperation r toolVersion resource parameters).binding = some b) :
    ∃ version, ExecutionBinding.fromOperation r.toolId version parameters resource = some b := by
  unfold bindOperation at h
  split at h
  · cases h
  · rename_i version
    split at h
    · rename_i binding hb
      cases h
      exact ⟨version, hb⟩
    · cases h

theorem contains_set {κ ν : Type} [DecidableEq κ] (p : Dict κ ν) (k : κ) (v : ν) :
    (if p.contains k then p.set k v else p).contains k = p.contains k := by
  split
  · rename_i hk
    rw [hk]
    exact (Dict.contains_eq_true_iff _ _).mpr ⟨v, by simp⟩
  · rfl

theorem canonicalParameter_contains {resolve : String → Option String} {parameters : Parameters}
    {target : String} (h : canonicalParameter resolve parameters = some (some target)) :
    parameters.contains (.text resourceParameter) = true := by
  unfold canonicalParameter at h
  split at h
  · cases h
  · cases h
  · rename_i declared _ hd
    exact (Dict.contains_eq_true_iff _ _).mpr ⟨declared, hd⟩

theorem canonicalResource_isSome {resolve : String → Option String} {resource : Option String}
    {canonical : Option String} (h : canonicalResource resolve resource = some canonical) :
    canonical = none ↔ resource = none := by
  cases resource with
  | none =>
    cases h
    simp
  | some resource =>
    obtain ⟨target, -, rfl⟩ := Option.map_eq_some_iff.mp h
    simp

theorem filesystemIdentity_target {resource : Option String} {parameters : Parameters}
    (h : d.filesystemIdentity r = some (resource, parameters)) :
    (resource = none ∨ parameters.contains (.text resourceParameter) = true) ↔
      (r.resource = none ∨ r.parameters.contains (.text resourceParameter) = true) := by
  simp only [filesystemIdentity, Option.bind_eq_bind, Option.bind_eq_some_iff] at h
  obtain ⟨capabilities, -, resolve, -, parameter, hp, canonical, hr, h⟩ := h
  split at h
  · cases h
  · rename_i hsame
    cases parameter with
    | none =>
      rw [← canonicalResource_isSome hr]
      cases canonical with
      | none =>
        cases h
        simp [(canonicalResource_isSome hr).mp rfl]
      | some target =>
        cases h
        simp [contains_set]
    | some target =>
      have hpath := canonicalParameter_contains hp
      have hcontains : parameters.contains (.text resourceParameter) = true := by
        cases htarget : canonicalTarget (some target) canonical with
        | none =>
          rw [htarget] at h
          cases h
          exact hpath
        | some t =>
          rw [htarget] at h
          cases h
          rw [contains_set]
          exact hpath
      simp [hpath, hcontains]

theorem prepare_resource (h : (d.prepare r).binding = some b) :
    b.resource = b.parameters.lookup resourceParameter ↔
      r.resource = none ∨ r.parameters.contains (.text resourceParameter) = true := by
  unfold prepare at h
  simp only at h
  split at h
  · split at h
    · cases h
    · rename_i resource parameters hf
      obtain ⟨version, hb⟩ := bindOperation_binding h
      rw [ExecutionBinding.fromOperation_resource hb, filesystemIdentity_target hf]
  · obtain ⟨version, hb⟩ := bindOperation_binding h
    exact ExecutionBinding.fromOperation_resource hb

end Deployment

end AgentSecurityPlatform
