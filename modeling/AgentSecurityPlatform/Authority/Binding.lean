import AgentSecurityPlatform.Library.Dict
import AgentSecurityPlatform.Library.PythonJsonEncodings

namespace AgentSecurityPlatform

open PythonJson

def resourceParameter : String := "path"

inductive ParameterName where
  | text (s : String)
  | other (n : Nat)
  deriving DecidableEq, Repr

inductive ParameterValue where
  | text (s : String)
  | null
  | other (n : Nat)
  deriving DecidableEq, Repr

abbrev Parameters := Dict ParameterName ParameterValue

structure ExecutionBinding where
  toolId : String
  toolVersion : String
  resource : Option String
  parameters : List (String × String)
  toolId_ne : toolId ≠ ""
  toolVersion_ne : toolVersion ≠ ""
  names_ne : ∀ p ∈ parameters, p.1 ≠ ""
  names_sorted : (parameters.map Prod.fst).Pairwise (· < ·)
  resource_agrees : ∀ v, parameters.lookup resourceParameter = some v → resource = some v
  deriving DecidableEq

def canonicalizeEntries : List (ParameterName × ParameterValue) → Option (List (String × String))
  | [] => some []
  | (.text name, .text value) :: es =>
    if name = "" then none
    else (canonicalizeEntries es).map ((name, value) :: ·)
  | _ :: _ => none

def canonicalizeParameters (parameters : Parameters) : Option (List (String × String)) :=
  (canonicalizeEntries parameters.entries).map
    (List.insertionSort (fun p q => p.1 < q.1 ∨ (p.1 = q.1 ∧ p.2 ≤ q.2)))

namespace ExecutionBinding

def construct (toolId toolVersion : String) (resource : Option String)
    (parameters : List (String × String)) : Option ExecutionBinding :=
  if h : toolId ≠ "" ∧ toolVersion ≠ "" ∧ (∀ p ∈ parameters, p.1 ≠ "") ∧
      (parameters.map Prod.fst).Pairwise (· < ·) ∧
      (∀ v ∈ parameters.lookup resourceParameter, resource = some v) then
    some ⟨toolId, toolVersion, resource, parameters, h.1, h.2.1, h.2.2.1, h.2.2.2.1,
      fun v hv => h.2.2.2.2 v hv⟩
  else none

def fromOperation (toolId toolVersion : String) (parameters : Parameters)
    (resource : Option String) : Option ExecutionBinding :=
  match canonicalizeParameters parameters with
  | none => none
  | some canonical =>
    match resource, canonical.lookup resourceParameter with
    | some r, some declared =>
      if r ≠ declared then none else construct toolId toolVersion (some r) canonical
    | some r, none => construct toolId toolVersion (some r) canonical
    | none, declared => construct toolId toolVersion declared canonical

def pairJson (p : String × String) : Value :=
  .array [.str (.ofString p.1), .str (.ofString p.2)]

def canonicalMembers (b : ExecutionBinding) : List (String × Value) :=
  [("parameters", .array (b.parameters.map pairJson)),
   ("resource", match b.resource with | none => .null | some r => .str (.ofString r)),
   ("tool_id", .str (.ofString b.toolId)),
   ("tool_version", .str (.ofString b.toolVersion))]

def canonicalJson (b : ExecutionBinding) : Str :=
  renderRaw .compact (sorted (keyed b.canonicalMembers))

theorem ext_fields {b c : ExecutionBinding} (ht : b.toolId = c.toolId)
    (hv : b.toolVersion = c.toolVersion) (hr : b.resource = c.resource)
    (hp : b.parameters = c.parameters) : b = c := by
  cases b
  cases c
  simp_all

theorem construct_eq_some {toolId toolVersion : String} {resource : Option String}
    {parameters : List (String × String)} {b : ExecutionBinding}
    (h : construct toolId toolVersion resource parameters = some b) :
    b.toolId = toolId ∧ b.toolVersion = toolVersion ∧ b.resource = resource ∧
      b.parameters = parameters := by
  unfold construct at h
  split at h
  · cases h
    exact ⟨rfl, rfl, rfl, rfl⟩
  · cases h

theorem fromOperation_identity {toolId toolVersion : String} {parameters : Parameters}
    {resource : Option String} {b : ExecutionBinding}
    (h : fromOperation toolId toolVersion parameters resource = some b) :
    b.toolId = toolId ∧ b.toolVersion = toolVersion := by
  unfold fromOperation at h
  split at h
  · cases h
  · split at h
    · split at h
      · cases h
      · exact ⟨(construct_eq_some h).1, (construct_eq_some h).2.1⟩
    · exact ⟨(construct_eq_some h).1, (construct_eq_some h).2.1⟩
    · exact ⟨(construct_eq_some h).1, (construct_eq_some h).2.1⟩

theorem pairJson_injective : Function.Injective pairJson := by
  intro p q h
  simp only [pairJson, Value.array.injEq, List.cons.injEq, Value.str.injEq, and_true] at h
  exact Prod.ext (Str.ofString_injective h.1) (Str.ofString_injective h.2)

theorem sorted_pairs (ps : List (String × String)) :
    sorted (.array (ps.map pairJson)) = .array (ps.map pairJson) :=
  sorted_array_map (fun _ => rfl) ps

theorem recoverable_pairs (ps : List (String × String)) :
    Recoverable (.array (ps.map pairJson)) := by
  refine recoverable_array fun x hx => ?_
  obtain ⟨p, -, rfl⟩ := List.mem_map.mp hx
  exact recoverable_array (by simp [recoverable_str])

theorem recoverable_canonical (b : ExecutionBinding) :
    Recoverable (sorted (keyed b.canonicalMembers)) := by
  have hresource : Recoverable
      (match b.resource with | none => .null | some r => .str (.ofString r)) := by
    cases b.resource with
    | none => exact recoverable_null
    | some r => exact recoverable_str r
  refine (recoverable_keyed (by simp [canonicalMembers]) ?_).sorted
  simp [canonicalMembers, hresource, recoverable_str, recoverable_pairs]

theorem canonicalJson_injective : Function.Injective canonicalJson := by
  intro b c h
  have hsorted := renderRaw_injective .compact b.recoverable_canonical c.recoverable_canonical h
  have hkeys : (c.canonicalMembers.map Prod.fst).Nodup := by simp [canonicalMembers]
  have hparameters := member_of_sorted_keyed hsorted hkeys 0 rfl rfl
  have hresource := member_of_sorted_keyed hsorted hkeys 1 rfl rfl
  have htool := member_of_sorted_keyed hsorted hkeys 2 rfl rfl
  have hversion := member_of_sorted_keyed hsorted hkeys 3 rfl rfl
  rw [sorted_pairs, sorted_pairs] at hparameters
  apply ext_fields (Str.ofString_injective (Value.str.inj htool))
    (Str.ofString_injective (Value.str.inj hversion))
  · cases hb : b.resource with
    | none => cases hc : c.resource with
      | none => rfl
      | some r => simp [hb, hc, sorted] at hresource
    | some r => cases hc : c.resource with
      | none => simp [hb, hc, sorted] at hresource
      | some s =>
        simp only [hb, hc] at hresource
        exact congrArg some (Str.ofString_injective (Value.str.inj hresource))
  · exact List.map_injective_iff.mpr pairJson_injective (Value.array.inj hparameters)

end ExecutionBinding

end AgentSecurityPlatform
