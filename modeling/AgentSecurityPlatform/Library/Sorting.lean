import Mathlib.Data.List.Sort
import Mathlib.Tactic

namespace Sorting

variable {α β : Type}

theorem filter_notMem_take [DecidableEq β] (f : α → β) (l : List α) (n : Nat)
    (h : (l.map f).Nodup) : l.filter (fun x => f x ∉ (l.take n).map f) = l.drop n := by
  have hn := h
  rw [← List.take_append_drop n l, List.map_append, List.nodup_append] at hn
  have htake : (l.take n).filter (fun x => f x ∉ (l.take n).map f) = [] := by
    apply List.filter_eq_nil_iff.mpr
    intro x hx
    simp only [decide_eq_true_eq, not_not]
    exact List.mem_map.mpr ⟨x, hx, rfl⟩
  have hdrop : (l.drop n).filter (fun x => f x ∉ (l.take n).map f) = l.drop n := by
    apply List.filter_eq_self.mpr
    intro x hx
    simp only [decide_eq_true_eq]
    intro hmem
    exact hn.2.2 _ hmem _ (List.mem_map.mpr ⟨x, hx, rfl⟩) rfl
  calc l.filter (fun x => f x ∉ (l.take n).map f)
      = (l.take n ++ l.drop n).filter (fun x => f x ∉ (l.take n).map f) := by
        rw [List.take_append_drop]
    _ = l.drop n := by rw [List.filter_append, htake, hdrop, List.nil_append]

variable (key : α → Int)

def Earliest (x : α) (l : List α) : Prop :=
  ∃ before after, l = before ++ x :: after ∧ (∀ y ∈ before, key x < key y) ∧
    ∀ y ∈ after, key x ≤ key y

abbrev byKey (x y : α) : Prop := key x ≤ key y

theorem orderedInsert_head {x : α} {l : List α} (h : ∀ y ∈ l, key x ≤ key y) :
    l.orderedInsert (byKey key) x = x :: l := by
  cases l with
  | nil => rfl
  | cons y l => exact List.orderedInsert_cons_of_le (byKey key) l (h y (by simp))

theorem insertionSort_of_earliest {x : α} {before after : List α}
    (hbefore : ∀ y ∈ before, key x < key y) (hafter : ∀ y ∈ after, key x ≤ key y) :
    (before ++ x :: after).insertionSort (byKey key) =
      x :: (before ++ after).insertionSort (byKey key) := by
  induction before with
  | nil =>
    rw [List.nil_append, List.insertionSort_cons, orderedInsert_head]
    · rfl
    · intro y hy
      exact hafter y ((List.mem_insertionSort _).mp hy)
  | cons b before ih =>
    have hb : ¬ byKey key b x := not_le.mpr (hbefore b (by simp))
    rw [List.cons_append, List.insertionSort_cons, ih (fun y hy => hbefore y (by simp [hy])),
      List.cons_append, List.insertionSort_cons, List.orderedInsert_of_not_le (byKey key) _ hb]

theorem exists_earliest {l : List α} (h : l ≠ []) : ∃ x, Earliest key x l := by
  induction l with
  | nil => exact absurd rfl h
  | cons a l ih =>
    by_cases hl : l = []
    · exact ⟨a, [], l, rfl, by simp, by simp [hl]⟩
    · obtain ⟨x, before, after, rfl, hbefore, hafter⟩ := ih hl
      by_cases hax : key a ≤ key x
      · refine ⟨a, [], before ++ x :: after, rfl, by simp, ?_⟩
        intro y hy
        rcases List.mem_append.mp hy with hy | hy
        · exact le_trans hax (le_of_lt (hbefore y hy))
        · rcases List.mem_cons.mp hy with rfl | hy
          · exact hax
          · exact le_trans hax (hafter y hy)
      · refine ⟨x, a :: before, after, rfl, ?_, hafter⟩
        intro y hy
        rcases List.mem_cons.mp hy with rfl | hy
        · exact not_le.mp hax
        · exact hbefore y hy

theorem Earliest.take_one {x : α} {l : List α} (h : Earliest key x l) :
    (l.insertionSort (byKey key)).take 1 = [x] := by
  obtain ⟨before, after, rfl, hbefore, hafter⟩ := h
  rw [insertionSort_of_earliest key hbefore hafter]
  rfl

end Sorting
