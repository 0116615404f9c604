import Mathlib.Data.List.Basic
import Mathlib.Tactic

namespace Text

def isSpace (c : Char) : Bool :=
  let n := c.toNat
  (9 ≤ n && n ≤ 13) || (28 ≤ n && n ≤ 32) || n = 133 || n = 160 || n = 5760 ||
    (8192 ≤ n && n ≤ 8202) || n = 8232 || n = 8233 || n = 8239 || n = 8287 || n = 12288

def strip (s : String) : String :=
  String.ofList (((s.toList.dropWhile isSpace).reverse.dropWhile isSpace).reverse)

def occursIn (needle haystack : String) : Bool :=
  haystack.toList.tails.any (fun t => needle.toList.isPrefixOf t)

theorem field_injective (c : Char) {x y u v : List Char} (hx : c ∉ x) (hy : c ∉ y)
    (h : x ++ c :: u = y ++ c :: v) : x = y ∧ u = v := by
  induction x generalizing y with
  | nil =>
    cases y with
    | nil => simpa using h
    | cons b y =>
      simp only [List.nil_append, List.cons_append, List.cons.injEq] at h
      exact absurd (List.mem_cons.mpr (.inl h.1)) hy
  | cons a x ih =>
    cases y with
    | nil =>
      simp only [List.nil_append, List.cons_append, List.cons.injEq] at h
      exact absurd (List.mem_cons.mpr (.inl h.1.symm)) hx
    | cons b y =>
      simp only [List.cons_append, List.cons.injEq] at h
      obtain ⟨rfl, h⟩ := h
      obtain ⟨rfl, rfl⟩ := ih (fun hc => hx (List.mem_cons_of_mem _ hc))
        (fun hc => hy (List.mem_cons_of_mem _ hc)) h
      exact ⟨rfl, rfl⟩

theorem intercalate_cons_injective {sep x y : String} {u v : String} {us vs : List String}
    (c : Char) (hsep : sep.toList = [c]) (hx : c ∉ x.toList) (hy : c ∉ y.toList)
    (h : sep.intercalate (x :: u :: us) = sep.intercalate (y :: v :: vs)) :
    x = y ∧ sep.intercalate (u :: us) = sep.intercalate (v :: vs) := by
  rw [String.intercalate_cons_cons, String.intercalate_cons_cons] at h
  have hlist := congrArg String.toList h
  simp only [String.toList_append, hsep, List.append_assoc, List.singleton_append] at hlist
  obtain ⟨hxy, hrest⟩ := field_injective c hx hy hlist
  exact ⟨String.toList_inj.mp hxy, String.toList_inj.mp hrest⟩

theorem intercalate_injective {sep : String} (c : Char) (hsep : sep.toList = [c])
    {xs ys : List String} (hx : ∀ x ∈ xs, c ∉ x.toList) (hy : ∀ y ∈ ys, c ∉ y.toList)
    (hxs : xs ≠ []) (hys : ys ≠ []) (h : sep.intercalate xs = sep.intercalate ys) : xs = ys := by
  have split (zs : List String) (hz : ∀ z ∈ zs, c ∉ z.toList) (hzs : zs ≠ []) :
      (sep.intercalate zs).toList.splitOn c = zs.map String.toList := by
    rw [String.toList_intercalate, hsep]
    apply List.splitOn_intercalate
    · simpa using hz
    · simpa using hzs
  have hmap : xs.map String.toList = ys.map String.toList := by
    rw [← split xs hx hxs, ← split ys hy hys, h]
  exact List.map_injective_iff.mpr (fun x y hxy => String.toList_inj.mp hxy) hmap

theorem last_field_injective (c : Char) {x y u v : List Char} (hx : c ∉ x) (hy : c ∉ y)
    (h : u ++ c :: x = v ++ c :: y) : u = v ∧ x = y := by
  have hrev := congrArg List.reverse h
  simp only [List.reverse_append, List.reverse_cons, List.append_assoc, List.singleton_append]
    at hrev
  obtain ⟨hxy, huv⟩ := field_injective c (by simpa using hx) (by simpa using hy) hrev
  exact ⟨List.reverse_inj.mp huv, List.reverse_inj.mp hxy⟩

theorem intercalate_append_injective {sep : String} (c : Char) (hsep : sep.toList = [c])
    {us vs xs ys : List String} (hx : ∀ x ∈ xs, c ∉ x.toList) (hy : ∀ y ∈ ys, c ∉ y.toList)
    (hus : us ≠ []) (hvs : vs ≠ []) (hlen : xs.length = ys.length)
    (h : sep.intercalate (us ++ xs) = sep.intercalate (vs ++ ys)) :
    sep.intercalate us = sep.intercalate vs ∧ xs = ys := by
  induction xs using List.reverseRecOn generalizing ys with
  | nil =>
    obtain rfl := List.length_eq_zero_iff.mp hlen.symm
    exact ⟨by simpa using h, rfl⟩
  | append_singleton xs x ih =>
    obtain ⟨ys, y, rfl⟩ : ∃ zs z, ys = zs ++ [z] := by
      have hne : ys ≠ [] := by
        rintro rfl
        simp at hlen
      exact ⟨ys.dropLast, ys.getLast hne, (List.dropLast_append_getLast hne).symm⟩
    have hconcat (ws zs : List String) (z : String) (hws : ws ≠ []) :
        (sep.intercalate (ws ++ (zs ++ [z]))).toList =
          (sep.intercalate (ws ++ zs)).toList ++ c :: z.toList := by
      rw [← List.append_assoc, String.intercalate_append_of_ne_nil (by simp [hws]) (by simp),
        String.intercalate_singleton]
      simp [hsep]
    have hlist := congrArg String.toList h
    rw [hconcat us xs x hus, hconcat vs ys y hvs] at hlist
    obtain ⟨hinit, hlast⟩ := last_field_injective c (hx x (by simp)) (hy y (by simp)) hlist
    obtain ⟨hjoin, rfl⟩ := ih (fun z hz => hx z (by simp [hz])) (fun z hz => hy z (by simp [hz]))
      (by simpa using hlen) (String.toList_inj.mp hinit)
    exact ⟨hjoin, by rw [String.toList_inj.mp hlast]⟩

theorem repr_injective : Function.Injective Nat.repr := by
  intro m n h
  have hdigits : Nat.toDigits 10 m = Nat.toDigits 10 n := by
    rw [← Nat.toList_repr, ← Nat.toList_repr, h]
  rw [← Nat.ofDigitChars_ten_toDigits (n := m), hdigits, Nat.ofDigitChars_ten_toDigits]

theorem notMem_repr {c : Char} (hc : c.isDigit = false) (n : Nat) : c ∉ n.repr.toList := by
  rw [Nat.toList_repr]
  intro hmem
  rw [Nat.isDigit_of_mem_toDigits (by decide) (by decide) hmem] at hc
  cases hc

end Text
