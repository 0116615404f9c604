import Mathlib.Data.List.Nodup
import Mathlib.Tactic

structure Dict (κ ν : Type) where
  entries : List (κ × ν)
  nodup : (entries.map Prod.fst).Nodup

namespace Dict

variable {κ ν : Type}

@[ext] theorem ext_entries {d e : Dict κ ν} (h : d.entries = e.entries) : d = e := by
  cases d
  cases e
  simpa using h

instance [DecidableEq κ] [DecidableEq ν] : DecidableEq (Dict κ ν) := fun d e =>
  decidable_of_iff (d.entries = e.entries) ⟨ext_entries, congrArg Dict.entries⟩

def empty : Dict κ ν := ⟨[], List.nodup_nil⟩

instance : Inhabited (Dict κ ν) := ⟨empty⟩

def values (d : Dict κ ν) : List ν := d.entries.map Prod.snd

def size (d : Dict κ ν) : Nat := d.entries.length

def filter (p : κ → ν → Bool) (d : Dict κ ν) : Dict κ ν :=
  ⟨d.entries.filter (fun e => p e.1 e.2), d.nodup.sublist (List.filter_sublist.map Prod.fst)⟩

def mapValues {μ : Type} (f : ν → μ) (d : Dict κ ν) : Dict κ μ :=
  ⟨d.entries.map (fun e => (e.1, f e.2)), by simpa [Function.comp_def] using d.nodup⟩

variable [DecidableEq κ]

def get? (d : Dict κ ν) (k : κ) : Option ν := d.entries.lookup k

def contains (d : Dict κ ν) (k : κ) : Bool := (d.get? k).isSome

def getD (d : Dict κ ν) (k : κ) (v : ν) : ν := (d.get? k).getD v

def put (k : κ) (v : ν) : List (κ × ν) → List (κ × ν)
  | [] => [(k, v)]
  | e :: es => if e.1 = k then (k, v) :: es else e :: put k v es

theorem keys_put (k : κ) (v : ν) (es : List (κ × ν)) :
    (put k v es).map Prod.fst =
      if k ∈ es.map Prod.fst then es.map Prod.fst else es.map Prod.fst ++ [k] := by
  induction es with
  | nil => simp [put]
  | cons e es ih =>
    by_cases h : e.1 = k
    · simp [put, h]
    · have hk : ¬ k = e.1 := fun he => h he.symm
      simp only [put, h, if_false, List.map_cons, ih, List.mem_cons, hk, false_or]
      split <;> simp

theorem nodup_put (k : κ) (v : ν) (es : List (κ × ν)) (h : (es.map Prod.fst).Nodup) :
    ((put k v es).map Prod.fst).Nodup := by
  rw [keys_put]
  split
  · exact h
  · rename_i hk
    exact List.nodup_append.mpr ⟨h, by simp, by simpa using fun a b hb he => hk (by
      exact List.mem_map.mpr ⟨(a, b), hb, he⟩)⟩

theorem lookup_put (k j : κ) (v : ν) (es : List (κ × ν)) :
    (put k v es).lookup j = if k = j then some v else es.lookup j := by
  induction es with
  | nil =>
    by_cases h : k = j
    · simp [put, h]
    · simp [put, h, List.lookup_cons, beq_eq_false_iff_ne.mpr (Ne.symm h)]
  | cons e es ih =>
    obtain ⟨a, b⟩ := e
    by_cases ha : a = k
    · subst ha
      by_cases h : a = j
      · simp [put, h]
      · simp [put, h, List.lookup_cons, beq_eq_false_iff_ne.mpr (Ne.symm h)]
    · simp only [put, ha, if_false, List.lookup_cons, ih]
      by_cases hj : j = a
      · subst hj
        have hk : ¬ k = j := fun he => ha he.symm
        simp [hk]
      · simp [beq_eq_false_iff_ne.mpr hj]

def set (d : Dict κ ν) (k : κ) (v : ν) : Dict κ ν := ⟨put k v d.entries, nodup_put k v _ d.nodup⟩

def erase (d : Dict κ ν) (k : κ) : Dict κ ν := d.filter (fun j _ => j ≠ k)

@[simp] theorem get?_empty (k : κ) : (empty : Dict κ ν).get? k = none := rfl

@[simp] theorem getD_empty (k : κ) (v : ν) : (empty : Dict κ ν).getD k v = v := rfl

@[simp] theorem get?_set (d : Dict κ ν) (k j : κ) (v : ν) :
    (d.set k v).get? j = if k = j then some v else d.get? j := lookup_put k j v d.entries

@[simp] theorem getD_set (d : Dict κ ν) (k j : κ) (v w : ν) :
    (d.set k v).getD j w = if k = j then v else d.getD j w := by
  simp only [getD, get?_set]
  split <;> rfl

theorem mem_entries_iff (d : Dict κ ν) (k : κ) (v : ν) :
    (k, v) ∈ d.entries ↔ d.get? k = some v := by
  obtain ⟨es, hn⟩ := d
  induction es with
  | nil => simp [get?]
  | cons e es ih =>
    obtain ⟨a, b⟩ := e
    simp only [List.map_cons, List.nodup_cons] at hn
    have ih' := ih hn.2
    simp only [get?] at ih' ⊢
    by_cases hk : k = a
    · subst hk
      have hne : (k, v) ∉ es := fun h => hn.1 (List.mem_map.mpr ⟨(k, v), h, rfl⟩)
      simp [hne, eq_comm]
    · simp [hk, List.lookup_cons, beq_eq_false_iff_ne.mpr hk, ih']

theorem mem_values_iff (d : Dict κ ν) (v : ν) : v ∈ d.values ↔ ∃ k, d.get? k = some v := by
  simp only [values, List.mem_map, Prod.exists, exists_eq_right, mem_entries_iff]

@[simp] theorem get?_filter (d : Dict κ ν) (p : κ → ν → Bool) (k : κ) :
    (d.filter p).get? k = (d.get? k).filter (p k) := by
  apply Option.ext
  intro v
  rw [← mem_entries_iff]
  simp [filter, mem_entries_iff, Option.filter_eq_some_iff]

@[simp] theorem get?_erase (d : Dict κ ν) (k j : κ) :
    (d.erase k).get? j = if k = j then none else d.get? j := by
  simp only [erase, get?_filter]
  by_cases h : k = j
  · subst h
    cases d.get? k <;> simp
  · have hj : ¬ j = k := fun he => h he.symm
    cases d.get? j <;> simp [h, hj]

@[simp] theorem get?_mapValues {μ : Type} (f : ν → μ) (d : Dict κ ν) (k : κ) :
    (d.mapValues f).get? k = (d.get? k).map f := by
  obtain ⟨es, hn⟩ := d
  simp only [mapValues, get?]
  clear hn
  induction es with
  | nil => rfl
  | cons e es ih =>
    obtain ⟨a, b⟩ := e
    by_cases ha : k = a
    · simp [ha]
    · simp [List.lookup_cons, beq_eq_false_iff_ne.mpr ha, ih]

theorem erase_of_absent (d : Dict κ ν) (k : κ) (h : d.get? k = none) : d.erase k = d := by
  apply ext_entries
  simp only [erase, filter]
  apply List.filter_eq_self.mpr
  intro e he
  have hk : d.get? e.1 = some e.2 := (d.mem_entries_iff e.1 e.2).mp he
  simp only [decide_eq_true_eq]
  intro heq
  rw [heq, h] at hk
  cases hk

theorem contains_eq_true_iff (d : Dict κ ν) (k : κ) :
    d.contains k = true ↔ ∃ v, d.get? k = some v := by
  simp [contains, Option.isSome_iff_exists]

theorem contains_eq_false_iff (d : Dict κ ν) (k : κ) :
    d.contains k = false ↔ d.get? k = none := by
  simp [contains]

theorem put_of_not_mem (k : κ) (v : ν) (es : List (κ × ν)) (h : es.lookup k = none) :
    put k v es = es ++ [(k, v)] := by
  induction es with
  | nil => rfl
  | cons e es ih =>
    obtain ⟨a, b⟩ := e
    rw [List.lookup_cons] at h
    by_cases ha : k = a
    · simp [ha] at h
    · have hk : ¬ a = k := fun he => ha he.symm
      simp only [beq_eq_false_iff_ne.mpr ha] at h
      simp [put, hk, ih h]

theorem entries_set_of_absent (d : Dict κ ν) (k : κ) (v : ν) (h : d.get? k = none) :
    (d.set k v).entries = d.entries ++ [(k, v)] := put_of_not_mem k v d.entries h

theorem values_set_of_absent (d : Dict κ ν) (k : κ) (v : ν) (h : d.get? k = none) :
    (d.set k v).values = d.values ++ [v] := by
  simp [values, entries_set_of_absent d k v h]

theorem entries_set_of_present (d : Dict κ ν) (k : κ) (v : ν) {w : ν} (h : d.get? k = some w) :
    ∃ before after, d.entries = before ++ (k, w) :: after ∧
      (d.set k v).entries = before ++ (k, v) :: after := by
  obtain ⟨es, hn⟩ := d
  simp only [get?, set] at h ⊢
  clear hn
  induction es with
  | nil => cases h
  | cons e es ih =>
    obtain ⟨a, b⟩ := e
    by_cases ha : a = k
    · subst ha
      simp only [List.lookup_cons, BEq.rfl, Option.some.injEq] at h
      exact ⟨[], es, by rw [h]; rfl, by simp [put]⟩
    · rw [List.lookup_cons, beq_eq_false_iff_ne.mpr (Ne.symm ha)] at h
      obtain ⟨before, after, rfl, hput⟩ := ih h
      exact ⟨(a, b) :: before, after, rfl, by simp [put, ha, hput]⟩

theorem entries_foldl_erase (d : Dict κ ν) (ks : List κ) :
    (ks.foldl erase d).entries = d.entries.filter (fun e => e.1 ∉ ks) := by
  induction ks generalizing d with
  | nil => simp
  | cons k ks ih =>
    rw [List.foldl_cons, ih]
    simp only [erase, filter, List.filter_filter]
    apply List.filter_congr
    intro e _
    by_cases he : e.1 = k <;> simp [he]

theorem get?_foldl_erase (d : Dict κ ν) (ks : List κ) (k : κ) :
    (ks.foldl erase d).get? k = if k ∈ ks then none else d.get? k := by
  induction ks generalizing d with
  | nil => simp
  | cons j ks ih =>
    rw [List.foldl_cons, ih, get?_erase]
    by_cases hj : j = k
    · simp [hj]
    · simp [hj, Ne.symm hj]

end Dict
