import AgentSecurityPlatform.Library.Dict
import AgentSecurityPlatform.Library.PythonJsonRoundTrip

namespace PythonJson

section Sorting

theorem sortedMembers_eq_map (ms : List (Str × Value)) :
    sortedMembers ms = ms.map (fun m => (m.1, sorted m.2)) := by
  induction ms with
  | nil => rfl
  | cons m ms ih => rw [sortedMembers, ih, List.map_cons]

theorem sortedMembers_keys (ms : List (Str × Value)) :
    (sortedMembers ms).map Prod.fst = ms.map Prod.fst := by
  rw [sortedMembers_eq_map, List.map_map]
  rfl

-- the members of a mapping as json.dumps writes them with sort_keys
def sortedObject (ms : List (Str × Value)) : List (Str × Value) :=
  (sortedMembers ms).insertionSort (fun m n => m.1 ≤ n.1)

theorem sorted_object (ms : List (Str × Value)) :
    sorted (.object ms) = .object (sortedObject ms) := by
  rw [sorted, sortedObject]

theorem sortedObject_perm (ms : List (Str × Value)) : (sortedObject ms).Perm (sortedMembers ms) :=
  List.perm_insertionSort _ _

theorem sortedObject_keys {ms : List (Str × Value)} (h : (ms.map Prod.fst).Nodup) :
    ((sortedObject ms).map Prod.fst).Nodup := by
  rw [((sortedObject_perm ms).map Prod.fst).nodup_iff, sortedMembers_keys]
  exact h

def sortedDict (m : Dict Str Value) : Dict Str Value :=
  ⟨sortedObject m.entries, sortedObject_keys m.nodup⟩

theorem get?_sortedDict (m : Dict Str Value) (k : Str) :
    (sortedDict m).get? k = (m.get? k).map sorted := by
  ext x
  rw [← Dict.mem_entries_iff, sortedDict, (sortedObject_perm m.entries).mem_iff,
    sortedMembers_eq_map, List.mem_map, Option.map_eq_some_iff]
  constructor
  · rintro ⟨⟨j, y⟩, hmem, heq⟩
    cases heq
    exact ⟨y, (m.mem_entries_iff _ y).mp hmem, rfl⟩
  · rintro ⟨y, hy, rfl⟩
    exact ⟨(k, y), (m.mem_entries_iff k y).mpr hy, rfl⟩

-- dict(pairs)
def ofMembers (ms : List (Str × Value)) : Dict Str Value :=
  ms.foldl (fun d m => d.set m.1 m.2) .empty

theorem foldl_set_entries {ms : List (Str × Value)} (d : Dict Str Value)
    (h : ((d.entries ++ ms).map Prod.fst).Nodup) :
    (ms.foldl (fun d m => d.set m.1 m.2) d).entries = d.entries ++ ms := by
  induction ms generalizing d with
  | nil => simp
  | cons m ms ih =>
    obtain ⟨k, x⟩ := m
    have hfresh : d.get? k = none := by
      rw [List.map_append, List.map_cons] at h
      by_contra hpresent
      obtain ⟨y, hy⟩ := Option.ne_none_iff_exists'.mp hpresent
      have hin := List.mem_map_of_mem (f := Prod.fst) ((d.mem_entries_iff k y).mpr hy)
      exact (List.nodup_append.mp h).2.2 _ hin _ (List.mem_cons_self ..) rfl
    have hset := d.entries_set_of_absent k x hfresh
    rw [List.foldl_cons, ih, hset, List.append_assoc, List.singleton_append]
    rw [hset, List.append_assoc, List.singleton_append]
    exact h

theorem ofMembers_entries (m : Dict Str Value) : ofMembers m.entries = m :=
  Dict.ext_entries (foldl_set_entries .empty m.nodup)

variable {readFloat : List Char → Value}

theorem loadableMembers_iff {ms : List (Str × Value)} :
    LoadableMembers readFloat ms ↔ ∀ m ∈ ms, joinPairs m.1 = m.1 ∧ Loadable readFloat m.2 := by
  induction ms with
  | nil => simp [LoadableMembers]
  | cons m ms ih => simp only [LoadableMembers, ih, List.forall_mem_cons, and_assoc]

mutual

theorem loadable_sorted : ∀ v : Value, Loadable readFloat v → Loadable readFloat (sorted v)
  | .null, h => h
  | .bool _, h => h
  | .int _, h => h
  | .float _, h => h
  | .nan, h => h
  | .infinity _, h => h
  | .str _, h => h
  | .array xs, h => by
    simp only [sorted, Loadable] at h ⊢
    exact loadableItems_sorted xs h
  | .object ms, h => by
    rw [sorted_object]
    simp only [Loadable] at h ⊢
    refine ⟨sortedObject_keys h.1, ?_⟩
    have hmembers := loadableMembers_iff.mp (loadableMembers_sorted ms h.2)
    exact loadableMembers_iff.mpr fun m hm => hmembers m ((sortedObject_perm ms).subset hm)

theorem loadableItems_sorted : ∀ xs : List Value, LoadableItems readFloat xs →
    LoadableItems readFloat (sortedItems xs)
  | [], h => h
  | x :: xs, h => ⟨loadable_sorted x h.1, loadableItems_sorted xs h.2⟩

theorem loadableMembers_sorted : ∀ ms : List (Str × Value), LoadableMembers readFloat ms →
    LoadableMembers readFloat (sortedMembers ms)
  | [], h => h
  | (_, x) :: ms, h => ⟨h.1, loadable_sorted x h.2.1, loadableMembers_sorted ms h.2.2⟩

end

theorem sortedItems_eq_map (xs : List Value) : sortedItems xs = xs.map sorted := by
  induction xs with
  | nil => rfl
  | cons x xs ih => rw [sortedItems, ih, List.map_cons]

theorem mem_of_sorted_eq {ms ns : List (Str × Value)}
    (h : sorted (.object ms) = sorted (.object ns)) (m : Str × Value) :
    m ∈ sortedMembers ms ↔ m ∈ sortedMembers ns := by
  rw [sorted_object, sorted_object] at h
  rw [← (sortedObject_perm ms).mem_iff, Value.object.inj h, (sortedObject_perm ns).mem_iff]

theorem keyed_keys {ms : List (String × Value)} (h : (ms.map Prod.fst).Nodup) :
    ((ms.map (fun m => (Str.ofString m.1, m.2))).map Prod.fst).Nodup := by
  have hkeys : (ms.map (fun m => (Str.ofString m.1, m.2))).map Prod.fst =
      (ms.map Prod.fst).map Str.ofString := by simp
  rw [hkeys]
  exact h.map Str.ofString_injective

theorem mem_sorted_keyed {ms : List (String × Value)} {m : String × Value} (h : m ∈ ms) :
    (Str.ofString m.1, sorted m.2) ∈ sortedMembers (ms.map (fun m => (.ofString m.1, m.2))) := by
  rw [sortedMembers_eq_map, List.map_map]
  exact List.mem_map_of_mem (f := fun m : String × Value => (Str.ofString m.1, sorted m.2)) h

-- a member of a dict with sorted keys is found under its key on both sides
theorem member_of_sorted_keyed {ms ns : List (String × Value)}
    (h : sorted (keyed ms) = sorted (keyed ns)) (hkeys : (ns.map Prod.fst).Nodup) {key : String}
    {x y : Value} (i : Nat) (hx : ms[i]? = some (key, x)) (hy : ns[i]? = some (key, y)) :
    sorted x = sorted y := by
  have hnodup := keyed_keys hkeys
  rw [← sortedMembers_keys] at hnodup
  have hfound := (mem_of_sorted_eq h _).mp (mem_sorted_keyed (List.mem_of_getElem? hx))
  have hsame := List.inj_on_of_nodup_map hnodup hfound
    (mem_sorted_keyed (List.mem_of_getElem? hy)) rfl
  exact (Prod.mk.inj hsame).2

theorem mem_of_sorted_keyed {ms ns : List (String × Value)}
    (h : sorted (keyed ms) = sorted (keyed ns)) (hns : ∀ n ∈ ns, sorted n.2 = n.2)
    {m : String × Value} (hm : m ∈ ms) (hself : sorted m.2 = m.2) : m ∈ ns := by
  have hfound := (mem_of_sorted_eq h _).mp (mem_sorted_keyed hm)
  rw [sortedMembers_eq_map, List.map_map, List.mem_map] at hfound
  obtain ⟨n, hn, heq⟩ := hfound
  obtain ⟨hkey, hvalue⟩ := Prod.mk.inj heq
  have hsame : n = m := by
    refine Prod.ext (Str.ofString_injective hkey) ?_
    rw [← hns n hn, ← hself]
    exact hvalue
  rwa [← hsame]

theorem sorted_array_map {γ : Type} {f : γ → Value} (h : ∀ a, sorted (f a) = f a) (xs : List γ) :
    sorted (.array (xs.map f)) = .array (xs.map f) := by
  rw [sorted, sortedItems_eq_map, List.map_map]
  exact congrArg Value.array (List.map_congr_left fun a _ => h a)

theorem loadableItems_iff {xs : List Value} :
    LoadableItems readFloat xs ↔ ∀ x ∈ xs, Loadable readFloat x := by
  induction xs with
  | nil => simp [LoadableItems]
  | cons x xs ih => simp only [LoadableItems, ih, List.forall_mem_cons]

end Sorting

section Surrogates

-- no high surrogate stands directly before a low one
def Unpaired (s : Str) : Prop :=
  s.IsChain fun c d =>
    ¬ (CodePoint.isHighSurrogate c.val = true ∧ CodePoint.isLowSurrogate d.val = true)

theorem joinPairs_of_unpaired {s : Str} (h : Unpaired s) : joinPairs s = s := by
  induction s with
  | nil => rfl
  | cons c s ih =>
    have htail : Unpaired s := List.IsChain.tail h
    rw [joinPairs_cons, ih htail]
    cases hhigh : CodePoint.isHighSurrogate c.val with
    | false => exact .inl rfl
    | true =>
      right
      intro d t hs
      subst hs
      have hpair := (List.isChain_cons_cons.mp h).1
      simpa [hhigh] using hpair

def IsText (s : Str) : Prop := ∀ c ∈ s, c.toChar?.isSome = true

theorem isText_ofString (text : String) : IsText (.ofString text) := by
  intro c hc
  obtain ⟨d, -, rfl⟩ := List.mem_map.mp hc
  rw [toChar?_ofChar, Option.isSome_some]

theorem not_high_of_toChar? {c : CodePoint} (h : c.toChar?.isSome = true) :
    CodePoint.isHighSurrogate c.val = false := by
  obtain ⟨d, hd⟩ := Option.isSome_iff_exists.mp h
  have hvalid : d.toNat.isValidChar := d.valid
  have hval : c.val = d.toNat := by rw [← ofChar_of_toChar? hd]; rfl
  simp only [CodePoint.isHighSurrogate, hval, Bool.and_eq_false_iff, decide_eq_false_iff_not]
  rcases hvalid with h | ⟨h, -⟩ <;> omega

theorem unpaired_of_isText {s : Str} (h : IsText s) : Unpaired s := by
  induction s with
  | nil => exact .nil
  | cons c s ih =>
    have hc := not_high_of_toChar? (h c (List.mem_cons_self ..))
    refine List.isChain_cons.mpr ⟨?_, ih fun d hd => h d (List.mem_cons_of_mem c hd)⟩
    intro d _ hpair
    rw [hc] at hpair
    cases hpair.1

theorem joinPairs_of_isText {s : Str} (h : IsText s) : joinPairs s = s :=
  joinPairs_of_unpaired (unpaired_of_isText h)

theorem joinPairs_ofString (text : String) : joinPairs (Str.ofString text) = Str.ofString text :=
  joinPairs_of_isText (isText_ofString text)

end Surrogates

end PythonJson
