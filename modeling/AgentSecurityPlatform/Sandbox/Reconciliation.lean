import AgentSecurityPlatform.Sandbox.Allowlist
import AgentSecurityPlatform.Sandbox.Capability

namespace AgentSecurityPlatform

def SameMembers {α : Type} (xs ys : List α) : Prop := ∀ x, x ∈ xs ↔ x ∈ ys

section Lists

theorem mapM_forall₂ {α β : Type} {f : α → Option β} {xs : List α} {ys : List β}
    (h : xs.mapM f = some ys) : List.Forall₂ (fun x y => f x = some y) xs ys := by
  induction xs generalizing ys with
  | nil =>
    cases h
    exact .nil
  | cons x xs ih =>
    rw [List.mapM_cons] at h
    obtain ⟨y, hy, h⟩ := Option.bind_eq_some_iff.mp h
    obtain ⟨zs, hzs, h⟩ := Option.bind_eq_some_iff.mp h
    cases h
    exact .cons hy (ih hzs)

theorem forall₂_mem_left {α β : Type} {R : α → β → Prop} {xs : List α} {ys : List β}
    (h : List.Forall₂ R xs ys) {x : α} (hx : x ∈ xs) : ∃ y ∈ ys, R x y := by
  induction h with
  | nil => cases hx
  | cons hr _ ih =>
    rcases List.mem_cons.mp hx with rfl | hx
    · exact ⟨_, by simp, hr⟩
    · obtain ⟨y, hy, hxy⟩ := ih hx
      exact ⟨y, by simp [hy], hxy⟩

theorem nodup_eraseDups : ∀ xs : List String, xs.eraseDups.Nodup
  | [] => by simp
  | x :: xs => by
    rw [List.eraseDups_cons, List.nodup_cons]
    refine ⟨?_, nodup_eraseDups (xs.filter (fun y => !y == x))⟩
    simp
termination_by xs => xs.length
decreasing_by exact Nat.lt_succ_of_le (List.length_filter_le _ _)

theorem sortedTexts_eq {xs ys : List String} (h : SameMembers (sortedTexts xs) (sortedTexts ys)) :
    sortedTexts xs = sortedTexts ys := by
  have hnodup (zs : List String) : (sortedTexts zs).Nodup :=
    ((List.perm_insertionSort _ _).nodup_iff).mpr (nodup_eraseDups zs)
  have hperm := (List.perm_ext_iff_of_nodup (hnodup xs) (hnodup ys)).mpr h
  exact hperm.eq_of_pairwise' (List.pairwise_insertionSort (· ≤ ·) _)
    (List.pairwise_insertionSort (· ≤ ·) _)

end Lists

section Destinations

variable {u : UnicodeData}

theorem NetworkDestination.ext_fields {d e : NetworkDestination u} (hh : d.host = e.host)
    (hp : d.port = e.port) : d = e := by
  cases d
  cases e
  simp_all

theorem construct_self (d : NetworkDestination u) :
    NetworkDestination.construct u d.host d.port = some d := by
  have hok : d.host ≠ "" ∧ u.normal d.host ≠ "" ∧
      ('\x00' ∉ (u.normal d.host).toList ∧ ' ' ∉ (u.normal d.host).toList) ∧
      (1 ≤ (d.port : Int).toNat ∧ (d.port : Int).toNat ≤ 65535) := by
    rw [d.host_normal]
    exact ⟨d.host_ne, d.host_ne, d.host_plain, by simpa using d.port_range⟩
  simp only [NetworkDestination.construct, dif_pos hok]
  exact congrArg some (NetworkDestination.ext_fields d.host_normal (by simp))

theorem mapM_construct (ds : List (NetworkDestination u)) :
    (ds.map (fun d => (d.host, (d.port : Int)))).mapM
      (fun d => NetworkDestination.construct u d.1 d.2) = some ds := by
  induction ds with
  | nil => rfl
  | cons d ds ih =>
    simp only [List.map_cons, List.mapM_cons, construct_self, ih]
    rfl

theorem toText_injective : Function.Injective (NetworkDestination.toText (u := u)) := by
  intro d e h
  have hlist := congrArg String.toList h
  have hcolon : ":".toList = [':'] := rfl
  simp only [NetworkDestination.toText, String.toList_append, hcolon, List.append_assoc,
    List.singleton_append] at hlist
  obtain ⟨hhost, hport⟩ := Text.last_field_injective ':' (Text.notMem_repr (by decide) d.port)
    (Text.notMem_repr (by decide) e.port) hlist
  exact NetworkDestination.ext_fields (String.toList_inj.mp hhost)
    (Text.repr_injective (String.toList_inj.mp hport))

theorem readGrouped_digits (u : UnicodeData) {cs : List Char} (hcs : ∀ c ∈ cs, c.isDigit = true)
    (ready : Bool) (hready : ready = true ∨ cs ≠ []) (acc : Nat) :
    readGrouped u.decimal 10 ready acc cs = some (Nat.ofDigitChars 10 cs acc) := by
  induction cs generalizing ready acc with
  | nil => simpa [readGrouped] using hready
  | cons c cs ih =>
    have hc := hcs c (by simp)
    have hunder : c ≠ '_' := by
      rintro rfl
      cases hc
    rw [readGrouped, u.decimal_ascii c hc, Nat.ofDigitChars_cons]
    · simp only
      rw [ih (fun d hd => hcs d (by simp [hd])) true (.inl rfl), Nat.mul_comm]
      rfl
    · exact hunder

theorem readInt_port (u : UnicodeData) (n : Nat) : readInt u n.repr.toList = some (n : Int) := by
  have hdigits : ∀ c ∈ n.repr.toList, c.isDigit = true := by
    intro c hc
    rw [Nat.toList_repr] at hc
    exact Nat.isDigit_of_mem_toDigits (by decide) (by decide) hc
  have hrange : ∀ c : Char, c.isDigit = true → 48 ≤ c.toNat ∧ c.toNat ≤ 57 := by
    intro c hc
    simpa [Char.isDigit, UInt32.le_iff_toNat_le] using hc
  have hspace : ∀ c ∈ n.repr.toList, Text.isSpace c = false := by
    intro c hc
    have hbounds := hrange c (hdigits c hc)
    simp only [Text.isSpace, Bool.or_eq_false_iff, Bool.and_eq_false_iff, decide_eq_false_iff_not]
    omega
  have hstrip : Text.stripChars Text.isSpace n.repr.toList = n.repr.toList :=
    Text.stripChars_eq_self (fun c hc => hspace c (List.mem_of_mem_head? hc))
      (fun c hc => hspace c (List.mem_of_mem_getLast? hc))
  have hread : readGrouped u.decimal 10 false 0 n.repr.toList = some n := by
    rw [readGrouped_digits u hdigits false (.inr (by simp [Nat.repr])), Nat.toList_repr,
      Nat.ofDigitChars_ten_toDigits]
  simp only [readInt, hstrip]
  split
  · rename_i digits heq
    have hc := hdigits '-' (by simp [heq])
    cases hc
  · rename_i digits heq
    have hc := hdigits '+' (by simp [heq])
    cases hc
  · rw [hread]
    rfl

-- an allowed string that a destination spells is read back as that destination
theorem splitDestination_toText {d e : NetworkDestination u}
    (h : NetworkInput.splitDestination u d.toText = some e) : e = d := by
  have hparts : d.toText.toList.splitOn ':' =
      d.host.toList.splitOn ':' ++ [d.port.repr.toList] := by
    have hport : ':' ∉ d.port.repr.toList := Text.notMem_repr (by decide) d.port
    have htext : d.toText.toList = d.host.toList ++ ':' :: d.port.repr.toList := by
      simp [NetworkDestination.toText]
    rw [htext, List.splitOn_append_cons_self, List.splitOn_eq_singleton hport]
  simp only [NetworkInput.splitDestination, hparts] at h
  split at h
  · rename_i host port heq
    have hcat : d.host.toList.splitOn ':' ++ [d.port.repr.toList] = [host] ++ [port] := heq
    obtain ⟨hhost, hport⟩ := List.append_inj' hcat rfl
    obtain rfl : port = d.port.repr.toList := by simpa using hport.symm
    have hself : host = d.host.toList := by
      have hjoin : [':'].intercalate (d.host.toList.splitOn ':') = d.host.toList :=
        List.intercalate_splitOn ':'
      rw [hhost] at hjoin
      simpa using hjoin
    rw [readInt_port, Option.bind_some, hself, String.ofList_toList, construct_self] at h
    exact (Option.some.inj h).symm
  · cases h

end Destinations

namespace NetworkInput

variable {u : UnicodeData} {i : NetworkInput u} {n : CapabilityNetwork u}

def Spells (text : String) (d : NetworkDestination u) : Prop :=
  text = d.toText ∨ splitDestination u text = some d

theorem Spells.unique {text : String} {d e : NetworkDestination u} (hd : Spells text d)
    (he : Spells text e) : d = e := by
  rcases hd with rfl | hd
  · rcases he with he | he
    · exact toText_injective he
    · exact (splitDestination_toText he).symm
  · rcases he with rfl | he
    · exact splitDestination_toText hd
    · exact Option.some.inj (hd.symm.trans he)

structure Synced (allowed : List String) (destinations : List (NetworkDestination u)) : Prop where
  spelled : ∀ text ∈ allowed, ∃ d ∈ destinations, Spells text d
  listed : ∀ d ∈ destinations, ∃ text ∈ allowed, Spells text d

theorem Synced.subset {allowed allowed' : List String} {ds ds' : List (NetworkDestination u)}
    (h : Synced allowed ds) (h' : Synced allowed' ds') (hsame : SameMembers allowed allowed') :
    ∀ d ∈ ds, d ∈ ds' := by
  intro d hd
  obtain ⟨text, htext, hspells⟩ := h.listed d hd
  obtain ⟨e, he, hspells'⟩ := h'.spelled text ((hsame text).mp htext)
  rw [hspells.unique hspells']
  exact he

theorem synced_of_toText {allowed : List String} {ds : List (NetworkDestination u)}
    (h : SameMembers allowed (ds.map (·.toText))) : Synced allowed ds := by
  constructor
  · intro text htext
    obtain ⟨d, hd, hspell⟩ := List.mem_map.mp ((h text).mp htext)
    exact ⟨d, hd, .inl hspell.symm⟩
  · intro d hd
    exact ⟨d.toText, (h _).mpr (List.mem_map_of_mem hd), .inl rfl⟩

theorem synced_of_split {allowed : List String} {ds : List (NetworkDestination u)}
    (h : allowed.mapM (splitDestination u) = some ds) : Synced allowed ds := by
  have hall := mapM_forall₂ h
  constructor
  · intro text htext
    obtain ⟨d, hd, hsplit⟩ := forall₂_mem_left hall htext
    exact ⟨d, hd, .inr hsplit⟩
  · intro d hd
    obtain ⟨text, htext, hsplit⟩ := forall₂_mem_left hall.flip hd
    exact ⟨text, htext, .inr hsplit⟩

-- no destination string is given beside the destination objects without one of them spelling it
def Reconciled (i : NetworkInput u) : Prop :=
  i.destinations = [] ∨ ∀ items, i.allowedDestinations = some items → ∀ item ∈ items, ∀ text,
    normalizeAllowed item = some text →
      ∃ source ∈ i.destinations, ∃ d, normalizeDestination source = some d ∧ d.toText = text

theorem mem_sortedTexts {xs : List String} {x : String} : x ∈ sortedTexts xs ↔ x ∈ xs := by
  rw [sortedTexts, List.mem_insertionSort, List.mem_eraseDups]

structure Accepts (i : NetworkInput u) (n : CapabilityNetwork u)
    (given : List (NetworkDestination u)) (allowed : List String) : Prop where
  normalized : i.destinations.mapM normalizeDestination = some given
  validated : validateAllowed i.mode given i.allowedDestinations = some allowed
  synced : postInit given allowed = some (n.destinations, n.allowedDestinations)

theorem construct_cases (h : i.construct = some n) :
    ∃ given allowed, Accepts i n given allowed := by
  simp only [construct] at h
  split at h
  · cases h
  · rename_i given hgiven
    split at h
    · cases h
    · rename_i allowed hallowed
      obtain ⟨synced, hsynced, rfl⟩ := Option.map_eq_some_iff.mp h
      exact ⟨given, allowed, hgiven, hallowed, hsynced⟩

theorem postInit_cases {given ds : List (NetworkDestination u)} {allowed texts : List String}
    (h : postInit given allowed = some (ds, texts)) :
    texts.mapM (splitDestination u) = some ds ∨
      (ds = given ∧ texts = given.map (·.toText)) ∨
      (ds = given ∧ texts = allowed ∧ given ≠ [] ∧ allowed ≠ []) := by
  simp only [postInit] at h
  split at h
  · obtain ⟨objs, hobjs, hpair⟩ := Option.map_eq_some_iff.mp h
    cases hpair
    exact .inl hobjs
  · rename_i hleft
    obtain ⟨rfl, rfl⟩ | ⟨hne, hds, htexts⟩ :
        (ds = given ∧ texts = given.map (·.toText)) ∨
          (given ≠ [] ∧ ds = given ∧ texts = allowed) := by
      split at h
      · exact .inl (Prod.mk.inj (Option.some.inj h.symm))
      · rename_i hright
        obtain ⟨rfl, rfl⟩ := Prod.mk.inj (Option.some.inj h)
        by_cases hgiven : given = []
        · refine .inl ⟨rfl, ?_⟩
          rw [hgiven, List.map_nil]
          by_contra hne
          exact hleft ⟨hne, hgiven⟩
        · exact .inr ⟨hgiven, rfl, rfl⟩
    · exact .inr (.inl ⟨rfl, rfl⟩)
    · by_cases hallowed : allowed = []
      · rw [if_pos ⟨hne, hallowed⟩] at h
        exact .inr (.inl (Prod.mk.inj (Option.some.inj h.symm)))
      · exact .inr (.inr ⟨hds, htexts, hne, hallowed⟩)

theorem allowed_of_no_destinations (h : i.construct = some n) (hempty : n.destinations = []) :
    n.allowedDestinations = [] := by
  obtain ⟨given, allowed, haccepts⟩ := construct_cases h
  rcases postInit_cases haccepts.synced with hsplit | ⟨hds, htexts⟩ | ⟨hds, -, hne, -⟩
  · have hlen := (mapM_forall₂ hsplit).length_eq
    rw [hempty] at hlen
    exact List.length_eq_zero_iff.mp hlen
  · rw [htexts, ← hds, hempty, List.map_nil]
  · exact absurd (hds.symm.trans hempty) hne

theorem validateAllowed_members {mode : NetworkEgressMode} {given : List (NetworkDestination u)}
    {items : Option (List (AllowedInput u))} {allowed : List String}
    (h : validateAllowed mode given items = some allowed) (hne : allowed ≠ []) :
    ∃ list texts, items = some list ∧ list.mapM normalizeAllowed = some texts ∧
      ∀ text, text ∈ allowed ↔ text ∈ texts ∨ text ∈ given.map (·.toText) := by
  cases items with
  | none =>
    cases h
    exact absurd rfl hne
  | some list =>
    obtain ⟨texts, htexts, hsync⟩ := Option.bind_eq_some_iff.mp h
    refine ⟨list, texts, rfl, htexts, fun text => ?_⟩
    simp only [syncAndValidate] at hsync
    split at hsync
    · cases hsync
    · split at hsync
      · cases hsync
      · rw [← Option.some.inj hsync, mem_sortedTexts, List.mem_append]

theorem synced_of_reconciled (h : i.construct = some n) (hrec : i.Reconciled) :
    Synced n.allowedDestinations n.destinations := by
  obtain ⟨given, allowed, hgiven, hallowed, hpost⟩ := construct_cases h
  rcases postInit_cases hpost with hsplit | ⟨hds, htexts⟩ | ⟨hds, htexts, hne, hsome⟩
  · exact synced_of_split hsplit
  · rw [hds, htexts]
    exact synced_of_toText (fun _ => Iff.rfl)
  · rw [hds, htexts]
    obtain ⟨list, texts, hlist, hnormal, hmem⟩ := validateAllowed_members hallowed hsome
    apply synced_of_toText
    intro text
    rw [hmem]
    refine ⟨fun hor => hor.elim (fun htext => ?_) id, .inr⟩
    obtain ⟨item, hitem, htext⟩ := forall₂_mem_left (mapM_forall₂ hnormal).flip htext
    rcases hrec with hrec | hrec
    · rw [hrec] at hgiven
      cases hgiven
      exact absurd rfl hne
    · obtain ⟨source, hsource, d, hd, rfl⟩ := hrec list hlist item hitem text htext
      obtain ⟨e, he, hnorm⟩ := forall₂_mem_left (mapM_forall₂ hgiven) hsource
      rw [hd] at hnorm
      cases hnorm
      exact List.mem_map_of_mem he

end NetworkInput

end AgentSecurityPlatform
