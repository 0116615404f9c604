import Mathlib.Data.List.Perm.Basic
import Mathlib.Tactic

namespace Families

variable {α κ : Type} [DecidableEq κ]

-- a list taken apart by a key, family after family
def grouped (key : α → κ) (ks : List κ) (xs : List α) : List α :=
  ks.flatMap (fun k => xs.filter (fun x => key x = k))

theorem grouped_filter_ne (key : α → κ) {k : κ} {ks : List κ} (hk : k ∉ ks) (xs : List α) :
    grouped key ks (xs.filter (fun x => key x ≠ k)) = grouped key ks xs := by
  apply List.flatMap_congr
  intro j hj
  rw [List.filter_filter]
  apply List.filter_congr
  intro x _
  by_cases hx : key x = j
  · have hne : j ≠ k := fun he => hk (he ▸ hj)
    simp [hx, hne]
  · simp [hx]

theorem grouped_perm (key : α → κ) {ks : List κ} (hn : ks.Nodup) {xs : List α}
    (h : ∀ x ∈ xs, key x ∈ ks) : (grouped key ks xs).Perm xs := by
  induction ks generalizing xs with
  | nil =>
    have hnil : xs = [] := List.eq_nil_iff_forall_not_mem.mpr (fun x hx => by simpa using h x hx)
    rw [hnil]
    exact .nil
  | cons k ks ih =>
    obtain ⟨hk, hks⟩ := List.nodup_cons.mp hn
    have hrest : (grouped key ks (xs.filter (fun x => key x ≠ k))).Perm
        (xs.filter (fun x => key x ≠ k)) := by
      apply ih hks
      intro x hx
      obtain ⟨hx, hne⟩ := List.mem_filter.mp hx
      exact (List.mem_cons.mp (h x hx)).resolve_left (by simpa using hne)
    rw [grouped_filter_ne key hk] at hrest
    have hsplit := List.filter_append_perm (fun x => decide (key x = k)) xs
    simp only [grouped, List.flatMap_cons]
    refine (hrest.append_left _).trans ?_
    simpa using hsplit

theorem find?_perm {p : α → Bool} {xs ys : List α} (h : xs.Perm ys)
    (hunique : ∀ x ∈ xs, ∀ y ∈ xs, p x = true → p y = true → x = y) : xs.find? p = ys.find? p := by
  cases hx : xs.find? p with
  | none =>
    rw [List.find?_eq_none] at hx
    exact (List.find?_eq_none.mpr (fun y hy => hx y (h.mem_iff.mpr hy))).symm
  | some x =>
    have hmem := List.mem_of_find?_eq_some hx
    have hp := List.find?_some hx
    obtain ⟨y, hy⟩ := Option.isSome_iff_exists.mp
      (List.find?_isSome.mpr ⟨x, h.mem_iff.mp hmem, hp⟩)
    rw [hy, hunique x hmem y (h.mem_iff.mpr (List.mem_of_find?_eq_some hy)) hp (List.find?_some hy)]

end Families
