import AgentSecurityPlatform.Executor.Rebinding
import AgentSecurityPlatform.Authority.GrantLifecycle

namespace AgentSecurityPlatform

def ParameterName.wellFormed : ParameterName → Bool
  | .text name => name ≠ ""
  | .other _ => false

def ParameterValue.isText : ParameterValue → Bool
  | .text _ => true
  | _ => false

def entryOf (p : String × String) : ParameterName × ParameterValue := (.text p.1, .text p.2)

theorem entryOf_injective : Function.Injective entryOf := by
  intro p q h
  simp only [entryOf, Prod.mk.injEq, ParameterName.text.injEq, ParameterValue.text.injEq] at h
  exact Prod.ext h.1 h.2

section Canonicalisation

variable {entries : List (ParameterName × ParameterValue)} {pairs : List (String × String)}

theorem canonicalizeEntries_eq_some_iff :
    canonicalizeEntries entries = some pairs ↔
      entries = pairs.map entryOf ∧ ∀ p ∈ pairs, p.1 ≠ "" := by
  constructor
  · intro h
    induction entries generalizing pairs with
    | nil =>
      cases h
      simp
    | cons e es ih =>
      obtain ⟨name, value⟩ := e
      cases name with
      | other n => cases h
      | text name =>
        cases value with
        | null => cases h
        | other n => cases h
        | text value =>
          simp only [canonicalizeEntries] at h
          split at h
          · cases h
          · rename_i hname
            obtain ⟨rest, hrest, rfl⟩ := Option.map_eq_some_iff.mp h
            obtain ⟨rfl, hne⟩ := ih hrest
            exact ⟨rfl, by simpa using ⟨hname, by simpa using hne⟩⟩
  · rintro ⟨rfl, hne⟩
    exact ExecutionBinding.canonicalizeEntries_texts hne

theorem canonicalizeEntries_isSome_iff :
    (canonicalizeEntries entries).isSome = true ↔
      ∀ e ∈ entries, e.1.wellFormed = true ∧ e.2.isText = true := by
  induction entries with
  | nil => simp [canonicalizeEntries]
  | cons e es ih =>
    obtain ⟨name, value⟩ := e
    cases name with
    | other n => simp [canonicalizeEntries, ParameterName.wellFormed]
    | text name =>
      cases value with
      | null => simp [canonicalizeEntries, ParameterValue.isText]
      | other n => simp [canonicalizeEntries, ParameterValue.isText]
      | text value =>
        rw [List.forall_mem_cons, ← ih]
        simp only [canonicalizeEntries, ParameterName.wellFormed, ParameterValue.isText,
          decide_eq_true_eq, and_true]
        split
        · rename_i hname
          simp [hname]
        · rename_i hname
          simp [hname]

def pairLe (p q : String × String) : Prop := p.1 < q.1 ∨ (p.1 = q.1 ∧ p.2 ≤ q.2)

theorem pairLe_iff (p q : String × String) : pairLe p q ↔ toLex p ≤ toLex q := by
  rw [Prod.Lex.toLex_le_toLex]
  rfl

instance : DecidableRel pairLe := fun p q =>
  inferInstanceAs (Decidable (p.1 < q.1 ∨ (p.1 = q.1 ∧ p.2 ≤ q.2)))

instance : Std.Total pairLe := ⟨fun p q => by
  rw [pairLe_iff, pairLe_iff]
  exact le_total _ _⟩

instance : IsTrans (String × String) pairLe := ⟨fun p q r hpq hqr => by
  rw [pairLe_iff] at *
  exact hpq.trans hqr⟩

instance : Std.Antisymm pairLe := ⟨fun p q hpq hqp => by
  rw [pairLe_iff] at *
  exact toLex_inj.mp (le_antisymm hpq hqp)⟩

theorem insertionSort_perm {xs ys : List (String × String)} (h : xs.Perm ys) :
    xs.insertionSort pairLe = ys.insertionSort pairLe :=
  List.Perm.eq_of_pairwise' (List.pairwise_insertionSort pairLe xs)
    (List.pairwise_insertionSort pairLe ys)
    (((List.perm_insertionSort pairLe xs).trans h).trans (List.perm_insertionSort pairLe ys).symm)

theorem canonicalizeParameters_eq (parameters : Parameters) :
    canonicalizeParameters parameters =
      (canonicalizeEntries parameters.entries).map (List.insertionSort pairLe) := rfl

theorem canonicalizeParameters_perm {p q : Parameters} (h : p.entries.Perm q.entries) :
    canonicalizeParameters p = canonicalizeParameters q := by
  have hsome : (canonicalizeEntries p.entries).isSome = (canonicalizeEntries q.entries).isSome := by
    rw [Bool.eq_iff_iff, canonicalizeEntries_isSome_iff, canonicalizeEntries_isSome_iff]
    exact forall_congr' (fun e => by rw [h.mem_iff])
  rw [canonicalizeParameters_eq, canonicalizeParameters_eq]
  cases hp : canonicalizeEntries p.entries with
  | none =>
    rw [hp] at hsome
    have hq : canonicalizeEntries q.entries = none :=
      Option.isNone_iff_eq_none.mp (Option.isSome_eq_false_iff.mp hsome.symm)
    rw [hq]
  | some xs =>
    rw [hp] at hsome
    obtain ⟨ys, hq⟩ := Option.isSome_iff_exists.mp hsome.symm
    have hxs := (canonicalizeEntries_eq_some_iff.mp hp).1
    have hys := (canonicalizeEntries_eq_some_iff.mp hq).1
    rw [hxs, hys] at h
    rw [hq, Option.map_some, Option.map_some, insertionSort_perm
      ((List.map_perm_map_iff entryOf_injective).mp h)]

theorem canonicalizeParameters_entries {parameters : Parameters}
    (h : canonicalizeParameters parameters = some pairs) :
    (pairs.map entryOf).Perm parameters.entries ∧ (∀ p ∈ pairs, p.1 ≠ "") ∧
      (pairs.map Prod.fst).Pairwise (· < ·) := by
  rw [canonicalizeParameters_eq] at h
  obtain ⟨xs, hx, rfl⟩ := Option.map_eq_some_iff.mp h
  obtain ⟨hentries, hne⟩ := canonicalizeEntries_eq_some_iff.mp hx
  have hperm := List.perm_insertionSort pairLe xs
  have hnodup : (xs.map Prod.fst).Nodup := by
    have hkeys := parameters.nodup
    rw [hentries, List.map_map] at hkeys
    have hcomp : Prod.fst ∘ entryOf = ParameterName.text ∘ Prod.fst := rfl
    rw [hcomp, ← List.map_map] at hkeys
    exact hkeys.of_map _
  refine ⟨hentries ▸ hperm.map entryOf, fun p hp => hne p (hperm.subset hp), ?_⟩
  have hstrict : ((xs.insertionSort pairLe).map Prod.fst).Nodup :=
    ((hperm.map Prod.fst).nodup_iff).mpr hnodup
  have hsorted := List.pairwise_insertionSort pairLe xs
  rw [List.pairwise_map]
  refine (hsorted.and (List.pairwise_map.mp hstrict)).imp ?_
  rintro p q ⟨hlt | ⟨heq, -⟩, hne⟩
  · exact hlt
  · exact absurd heq hne

theorem lookup_canonical {parameters : Parameters}
    (h : canonicalizeParameters parameters = some pairs) (name value : String) :
    pairs.lookup name = some value ↔ parameters.get? (.text name) = some (.text value) := by
  obtain ⟨hperm, -, hsorted⟩ := canonicalizeParameters_entries h
  have hnodup : (pairs.map Prod.fst).Nodup := hsorted.imp ne_of_lt
  have hpair : pairs.lookup name = some value ↔ (name, value) ∈ pairs :=
    (Dict.mem_entries_iff ⟨pairs, hnodup⟩ name value).symm
  have hentry : (ParameterName.text name, ParameterValue.text value) ∈ pairs.map entryOf ↔
      (name, value) ∈ pairs := by
    rw [show (ParameterName.text name, ParameterValue.text value) = entryOf (name, value) from rfl,
      List.mem_map_of_injective entryOf_injective]
  rw [hpair, ← hentry, hperm.mem_iff, Dict.mem_entries_iff]

end Canonicalisation

namespace ExecutionBinding

def Rejects (parameters : Parameters) (resource : Option String) : Prop :=
  (∃ e ∈ parameters.entries, e.1.wellFormed = false ∨ e.2.isText = false) ∨
    ∃ r v, resource = some r ∧ parameters.get? (.text resourceParameter) = some (.text v) ∧ r ≠ v

variable {toolId toolVersion : String} {parameters : Parameters} {resource : Option String}

theorem construct_isSome {pairs : List (String × String)} (resource : Option String)
    (ht : toolId ≠ "") (hv : toolVersion ≠ "") (h : canonicalizeParameters parameters = some pairs)
    (hr : ∀ v, pairs.lookup resourceParameter = some v → resource = some v) :
    construct toolId toolVersion resource pairs ≠ none := by
  obtain ⟨-, hne, hsorted⟩ := canonicalizeParameters_entries h
  unfold construct
  rw [dif_pos ⟨ht, hv, hne, hsorted, hr⟩]
  simp

theorem fromOperation_perm {p q : Parameters} (h : p.entries.Perm q.entries) :
    fromOperation toolId toolVersion p resource = fromOperation toolId toolVersion q resource := by
  simp only [fromOperation, canonicalizeParameters_perm h]

theorem canonicalizeParameters_eq_none_iff :
    canonicalizeParameters parameters = none ↔
      ∃ e ∈ parameters.entries, e.1.wellFormed = false ∨ e.2.isText = false := by
  rw [canonicalizeParameters_eq, Option.map_eq_none_iff, ← not_iff_not, ← ne_eq,
    Option.ne_none_iff_isSome, canonicalizeEntries_isSome_iff]
  push Not
  simp only [ne_eq, Bool.not_eq_false]

theorem fromOperation_eq_none_iff (ht : toolId ≠ "") (hv : toolVersion ≠ "") :
    fromOperation toolId toolVersion parameters resource = none ↔ Rejects parameters resource := by
  unfold Rejects
  rw [← canonicalizeParameters_eq_none_iff]
  cases hc : canonicalizeParameters parameters with
  | none => simp [fromOperation, hc]
  | some pairs =>
    have hlookup := lookup_canonical hc resourceParameter
    simp only [fromOperation, hc, reduceCtorEq, false_or]
    cases resource with
    | none =>
      have hs := construct_isSome _ ht hv hc (fun v hv => hv)
      simpa using hs
    | some r =>
      cases hd : pairs.lookup resourceParameter with
      | none =>
        have hs := construct_isSome (some r) ht hv hc (by simp [hd])
        simp [hs, ← hlookup, hd]
      | some declared =>
        simp only [Option.some.injEq, ← hlookup, hd]
        split
        · rename_i hne
          simp [hne]
        · rename_i heq
          have hs := construct_isSome (some r) ht hv hc
            (by simpa [hd] using not_not.mp heq)
          simpa [hs] using heq

theorem fromOperation_self (b : ExecutionBinding) :
    fromOperation b.toolId b.toolVersion b.parametersDict b.resource = some b := by
  have hself := construct_self b
  simp only [fromOperation, canonicalizeParameters_dict]
  cases hd : b.parameters.lookup resourceParameter with
  | some declared =>
    have hr := b.resource_agrees declared hd
    rw [hr] at hself ⊢
    simpa using hself
  | none =>
    cases hr : b.resource with
    | none => simpa [hr] using hself
    | some r => simpa [hr] using hself

theorem signed_payloads_unambiguous (σ : Signing) :
    Function.Injective canonicalJson ∧ Function.Injective σ.payload ∧
      (∀ toolId toolVersion p q resource, p.entries.Perm q.entries →
        fromOperation toolId toolVersion p resource =
          fromOperation toolId toolVersion q resource) ∧
      (∀ toolId toolVersion parameters resource, toolId ≠ "" → toolVersion ≠ "" →
        (fromOperation toolId toolVersion parameters resource = none ↔
          Rejects parameters resource)) ∧
      ∀ b : ExecutionBinding,
        fromOperation b.toolId b.toolVersion b.parametersDict b.resource = some b :=
  ⟨canonicalJson_injective, σ.payload_injective, fun _ _ _ _ _ h => fromOperation_perm h,
    fun _ _ _ _ ht hv => fromOperation_eq_none_iff ht hv, fromOperation_self⟩

end ExecutionBinding

end AgentSecurityPlatform
