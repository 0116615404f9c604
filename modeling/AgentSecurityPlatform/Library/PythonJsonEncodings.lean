import AgentSecurityPlatform.Library.PythonJsonFloats
import AgentSecurityPlatform.Library.PythonJsonSorting

namespace PythonJson

mutual

-- the code points of every string of a value, the keys included
def codePoints : Value → List CodePoint
  | .str s => s
  | .array xs => codePointsItems xs
  | .object ms => codePointsMembers ms
  | _ => []

def codePointsItems : List Value → List CodePoint
  | [] => []
  | x :: xs => codePoints x ++ codePointsItems xs

def codePointsMembers : List (Str × Value) → List CodePoint
  | [] => []
  | (k, x) :: ms => k ++ codePoints x ++ codePointsMembers ms

end

theorem mem_codePointsMembers {c : CodePoint} {ms : List (Str × Value)} :
    c ∈ codePointsMembers ms ↔ ∃ m ∈ ms, c ∈ m.1 ∨ c ∈ codePoints m.2 := by
  induction ms with
  | nil => simp [codePointsMembers]
  | cons m ms ih => simp only [codePointsMembers, List.mem_append, List.exists_mem_cons_iff, ih]

section Escapes

mutual

theorem codePoints_sorted (c : CodePoint) : ∀ v : Value,
    c ∈ codePoints (sorted v) ↔ c ∈ codePoints v
  | .null => Iff.rfl
  | .bool _ => Iff.rfl
  | .int _ => Iff.rfl
  | .float _ => Iff.rfl
  | .nan => Iff.rfl
  | .infinity _ => Iff.rfl
  | .str _ => Iff.rfl
  | .array xs => by
    simp only [sorted, codePoints]
    exact codePointsItems_sorted c xs
  | .object ms => by
    simp only [sorted, codePoints, mem_codePointsMembers, List.mem_insertionSort]
    rw [← mem_codePointsMembers, ← mem_codePointsMembers]
    exact codePointsMembers_sorted c ms

theorem codePointsItems_sorted (c : CodePoint) : ∀ xs : List Value,
    c ∈ codePointsItems (sortedItems xs) ↔ c ∈ codePointsItems xs
  | [] => Iff.rfl
  | x :: xs => by
    simp only [sortedItems, codePointsItems, List.mem_append, codePoints_sorted c x,
      codePointsItems_sorted c xs]

theorem codePointsMembers_sorted (c : CodePoint) : ∀ ms : List (Str × Value),
    c ∈ codePointsMembers (sortedMembers ms) ↔ c ∈ codePointsMembers ms
  | [] => Iff.rfl
  | (k, x) :: ms => by
    simp only [sortedMembers, codePointsMembers, List.mem_append, codePoints_sorted c x,
      codePointsMembers_sorted c ms]

end

theorem unicodeEscape_length (n : Nat) : (unicodeEscape n).length = 6 := rfl

theorem shortEscape_small {n : Nat} {letter : Char} (h : shortEscape n = some letter) : n ≤ 92 := by
  simp only [shortEscape] at h
  split_ifs at h <;> omega

theorem escapeAscii_eq_raw {c : CodePoint} (h : c.val ≤ 126) :
    (escapeAscii c).map CodePoint.ofChar = escapeRaw c := by
  simp only [escapeAscii, escapeRaw]
  cases shortEscape c.val with
  | some letter => rfl
  | none =>
    by_cases hcontrol : c.val < 32
    · have hplain : ¬ (32 ≤ c.val ∧ c.val ≤ 126) := by omega
      have hsmall : c.val < 0x10000 := by omega
      simp only [if_neg hplain, if_pos hsmall, if_pos hcontrol]
    · have hplain : 32 ≤ c.val ∧ c.val ≤ 126 := by omega
      have hval : (Char.ofNat c.val).toNat = c.val := by
        rw [Char.toNat_ofNat, if_pos]
        exact Or.inl (by omega)
      simp only [if_pos hplain, if_neg hcontrol, List.map_cons, List.map_nil]
      exact congrArg (fun d => [d]) (Fin.ext hval)

theorem shortEscape_large {n : Nat} (h : 92 < n) : shortEscape n = none := by
  cases hs : shortEscape n with
  | none => rfl
  | some letter =>
    have := shortEscape_small hs
    omega

theorem escapeRaw_eq_self {c : CodePoint} (h : 126 < c.val) : escapeRaw c = [c] := by
  have hcontrol : ¬ c.val < 32 := by omega
  simp only [escapeRaw, shortEscape_large (show 92 < c.val by omega), if_neg hcontrol]

theorem escapeRaw_length_lt {c : CodePoint} (h : 126 < c.val) :
    (escapeRaw c).length < (escapeAscii c).length := by
  have hplain : ¬ (32 ≤ c.val ∧ c.val ≤ 126) := by omega
  simp only [escapeRaw_eq_self h, escapeAscii, shortEscape_large (show 92 < c.val by omega),
    if_neg hplain]
  split_ifs
  · simp [unicodeEscape_length]
  · simp [unicodeEscape_length]

theorem escapeRaw_length_le (c : CodePoint) :
    (escapeRaw c).length ≤ (escapeAscii c).length := by
  by_cases h : c.val ≤ 126
  · rw [← escapeAscii_eq_raw h, List.length_map]
  · exact Nat.le_of_lt (escapeRaw_length_lt (by omega))

end Escapes

section Rewriting

variable {α β : Type} {literal : Char → α} {literal' : Char → β} {escape : CodePoint → List α}
  {escape' : CodePoint → List β} {f : α → List β}

-- f turns the pieces of the one text into the pieces of the other
structure Rewrites (literal : Char → α) (escape : CodePoint → List α) (literal' : Char → β)
    (escape' : CodePoint → List β) (f : α → List β) : Prop where
  literals : ∀ c, c.toNat ≤ 126 → f (literal c) = [literal' c]
  escapes : ∀ c, (escape c).flatMap f = escape' c

theorem literals_flatMap (hf : ∀ c, c.toNat ≤ 126 → f (literal c) = [literal' c]) {cs : List Char}
    (hcs : ∀ c ∈ cs, c.toNat ≤ 126) : (cs.map literal).flatMap f = cs.map literal' := by
  induction cs with
  | nil => rfl
  | cons c cs ih =>
    rw [List.map_cons, List.flatMap_cons, hf c (hcs c (List.mem_cons_self ..)),
      ih fun d hd => hcs d (List.mem_cons_of_mem c hd)]
    rfl

theorem space_ascii {space : List Char} (hspace : ∀ c ∈ space, isSpace c = true) :
    ∀ c ∈ space, c.toNat ≤ 126 := by
  intro c hc
  have hblank := hspace c hc
  simp only [isSpace, Bool.or_eq_true, decide_eq_true_eq] at hblank
  rcases hblank with ((rfl | rfl) | rfl) | rfl
  · decide
  · decide
  · decide
  · decide

variable (h : Rewrites literal escape literal' escape' f)
include h

theorem quote_flatMap (s : Str) :
    (quote literal escape s).flatMap f = quote literal' escape' s := by
  have hquote := h.literals '"' (by decide)
  have hbody : (quoteBody literal escape s).flatMap f = quoteBody literal' escape' s := by
    induction s with
    | nil => simp [quoteBody, hquote]
    | cons c s ih => rw [quoteBody, List.flatMap_append, ih, h.escapes, quoteBody]
  rw [quote, List.flatMap_cons, hbody, hquote]
  rfl

variable (seps : Separators)

theorem item_flatMap : (seps.item.map literal).flatMap f = seps.item.map literal' := by
  obtain ⟨space, hitem, hblank⟩ := seps.itemSpace
  rw [hitem]
  exact literals_flatMap h.literals (List.forall_mem_cons.mpr ⟨by decide, space_ascii hblank⟩)

theorem key_flatMap : (seps.key.map literal).flatMap f = seps.key.map literal' := by
  obtain ⟨space, hkey, hblank⟩ := seps.keySpace
  rw [hkey]
  exact literals_flatMap h.literals (List.forall_mem_cons.mpr ⟨by decide, space_ascii hblank⟩)

mutual

theorem renderWith_flatMap : ∀ v : Value,
    (renderWith literal escape seps v).flatMap f = renderWith literal' escape' seps v
  | .null => literals_flatMap h.literals (by simp)
  | .bool true => literals_flatMap h.literals (by simp)
  | .bool false => literals_flatMap h.literals (by simp)
  | .int n => by simp only [renderWith, literals_flatMap h.literals (repr_ascii n)]
  | .float t => by simp only [renderWith, literals_flatMap h.literals t.text_ascii]
  | .nan => literals_flatMap h.literals (by simp)
  | .infinity false => literals_flatMap h.literals (by simp)
  | .infinity true => literals_flatMap h.literals (by simp)
  | .str s => by simp only [renderWith, quote_flatMap h]
  | .array [] => literals_flatMap h.literals (by simp)
  | .array (x :: xs) => by
    have hbracket := h.literals '[' (by decide)
    simp only [renderWith, List.flatMap_cons, List.flatMap_append, renderWith_flatMap x,
      renderItems_flatMap xs, hbracket, List.cons_append, List.nil_append]
  | .object [] => literals_flatMap h.literals (by simp)
  | .object ((k, x) :: ms) => by
    have hbrace := h.literals '{' (by decide)
    simp only [renderWith, List.flatMap_cons, List.flatMap_append, renderWith_flatMap x,
      renderMembers_flatMap ms, quote_flatMap h, key_flatMap h, hbrace, List.cons_append,
      List.nil_append]

theorem renderItems_flatMap : ∀ xs : List Value,
    (renderItems literal escape seps xs).flatMap f = renderItems literal' escape' seps xs
  | [] => by simp [renderItems, h.literals ']' (by decide)]
  | x :: xs => by
    simp only [renderItems, List.flatMap_append, renderWith_flatMap x, renderItems_flatMap xs,
      item_flatMap h]

theorem renderMembers_flatMap : ∀ ms : List (Str × Value),
    (renderMembers literal escape seps ms).flatMap f = renderMembers literal' escape' seps ms
  | [] => by simp [renderMembers, h.literals '}' (by decide)]
  | (k, x) :: ms => by
    simp only [renderMembers, List.flatMap_append, renderWith_flatMap x, renderMembers_flatMap ms,
      quote_flatMap h, item_flatMap h, key_flatMap h]

end

end Rewriting

section Tokens

variable (seps : Separators)

-- a text with its strings not yet written out: syntax on the left, code points on the right
def tokens (v : Value) : List (Char ⊕ CodePoint) := renderWith .inl (fun c => [.inr c]) seps v

def tokensItems (xs : List Value) : List (Char ⊕ CodePoint) :=
  renderItems .inl (fun c => [.inr c]) seps xs

def tokensMembers (ms : List (Str × Value)) : List (Char ⊕ CodePoint) :=
  renderMembers .inl (fun c => [.inr c]) seps ms

variable {α : Type} (literal : Char → α) (escape : CodePoint → List α)

def written : Char ⊕ CodePoint → List α := Sum.elim (fun c => [literal c]) escape

theorem rewrites_written :
    Rewrites Sum.inl (fun c => [Sum.inr c]) literal escape (written literal escape) :=
  ⟨fun _ _ => rfl, fun _ => by simp [written]⟩

theorem renderWith_written (v : Value) :
    (tokens seps v).flatMap (written literal escape) = renderWith literal escape seps v :=
  renderWith_flatMap (rewrites_written literal escape) seps v

theorem notMem_literals (c : CodePoint) (cs : List Char) :
    (.inr c : Char ⊕ CodePoint) ∈ cs.map Sum.inl ↔ False := by simp

theorem mem_quote_tokens (c : CodePoint) (s : Str) :
    .inr c ∈ quote Sum.inl (fun c => [Sum.inr c]) s ↔ c ∈ s := by
  have hbody : .inr c ∈ quoteBody Sum.inl (fun c => [Sum.inr c]) s ↔ c ∈ s := by
    induction s with
    | nil => simp [quoteBody]
    | cons d s ih => simp [quoteBody, ih]
  simp [quote, hbody]

mutual

theorem mem_tokens (c : CodePoint) : ∀ v : Value, .inr c ∈ tokens seps v ↔ c ∈ codePoints v
  | .null => by simp [tokens, renderWith, codePoints]
  | .bool true => by simp [tokens, renderWith, codePoints]
  | .bool false => by simp [tokens, renderWith, codePoints]
  | .int n => by simp [tokens, renderWith, codePoints]
  | .float t => by simp [tokens, renderWith, codePoints]
  | .nan => by simp [tokens, renderWith, codePoints]
  | .infinity false => by simp [tokens, renderWith, codePoints]
  | .infinity true => by simp [tokens, renderWith, codePoints]
  | .str s => by simp only [tokens, renderWith, codePoints, mem_quote_tokens]
  | .array [] => by simp [tokens, renderWith, codePoints, codePointsItems]
  | .array (x :: xs) => by
    have hx := mem_tokens c x
    have hxs := mem_tokensItems c xs
    simp only [tokens, tokensItems] at hx hxs
    simp only [tokens, renderWith, codePoints, codePointsItems, List.mem_cons, List.mem_append,
      reduceCtorEq, false_or, hx, hxs]
  | .object [] => by simp [tokens, renderWith, codePoints, codePointsMembers]
  | .object ((k, x) :: ms) => by
    have hx := mem_tokens c x
    have hms := mem_tokensMembers c ms
    simp only [tokens, tokensMembers] at hx hms
    simp only [tokens, renderWith, codePoints, codePointsMembers, List.mem_cons, List.mem_append,
      reduceCtorEq, false_or, or_false, hx, hms, mem_quote_tokens, notMem_literals]

theorem mem_tokensItems (c : CodePoint) : ∀ xs : List Value,
    .inr c ∈ tokensItems seps xs ↔ c ∈ codePointsItems xs
  | [] => by simp [tokensItems, renderItems, codePointsItems]
  | x :: xs => by
    have hx := mem_tokens c x
    have hxs := mem_tokensItems c xs
    simp only [tokens, tokensItems] at hx hxs
    simp only [tokensItems, renderItems, codePointsItems, List.mem_append, false_or, hx, hxs,
      notMem_literals]

theorem mem_tokensMembers (c : CodePoint) : ∀ ms : List (Str × Value),
    .inr c ∈ tokensMembers seps ms ↔ c ∈ codePointsMembers ms
  | [] => by simp [tokensMembers, renderMembers, codePointsMembers]
  | (k, x) :: ms => by
    have hx := mem_tokens c x
    have hms := mem_tokensMembers c ms
    simp only [tokens, tokensMembers] at hx hms
    simp only [tokensMembers, renderMembers, codePointsMembers, List.mem_append, false_or,
      or_false, hx, hms, mem_quote_tokens, notMem_literals]

end

end Tokens

-- the two encodings of a value are one text exactly where its strings are printable ASCII or
-- control characters below DEL
theorem render_eq_raw_iff (seps : Separators) (v : Value) :
    (render seps v).map CodePoint.ofChar = renderRaw seps v ↔ ∀ c ∈ codePoints v, c.val ≤ 126 := by
  simp only [render, renderRaw, ← renderWith_written seps _ _ v]
  constructor
  · intro hsame c hc
    by_contra hbig
    have hlength := congrArg List.length hsame
    rw [List.length_map, List.length_flatMap, List.length_flatMap] at hlength
    have hlt := List.sum_lt_sum (l := tokens seps v)
      (fun t => (written CodePoint.ofChar escapeRaw t).length)
      (fun t => (written id escapeAscii t).length)
      (fun t _ => by
        cases t with
        | inl d => exact Nat.le_refl _
        | inr d => exact escapeRaw_length_le d)
      ⟨.inr c, (mem_tokens seps c v).mpr hc, escapeRaw_length_lt (by omega)⟩
    omega
  · intro hsmall
    rw [List.map_flatMap]
    refine List.flatMap_congr ?_
    intro t ht
    cases t with
    | inl d => rfl
    | inr d => exact escapeAscii_eq_raw (hsmall d ((mem_tokens seps d v).mp ht))

section Injectivity

-- what json.dumps writes for a code point of the text with ensure_ascii=False
def toAscii (c : CodePoint) : List Char :=
  if c.val ≤ 126 then [Char.ofNat c.val] else escapeAscii c

theorem toAscii_ofChar (c : Char) (h : c.toNat ≤ 126) : toAscii (.ofChar c) = [c] := by
  have hval : (CodePoint.ofChar c).val = c.toNat := rfl
  rw [toAscii, hval, if_pos h, Char.ofNat_toNat]

theorem hexDigit_ascii {n : Nat} (h : n < 16) : (hexDigit n).toNat ≤ 126 := by
  interval_cases n <;> decide

theorem unicodeEscape_ascii (n : Nat) : ∀ c ∈ unicodeEscape n, c.toNat ≤ 126 := by
  have hdigit (m : Nat) : (hexDigit (m % 16)).toNat ≤ 126 :=
    hexDigit_ascii (Nat.mod_lt m (by decide))
  simp [unicodeEscape, hdigit]

theorem shortEscape_ascii {n : Nat} {letter : Char} (h : shortEscape n = some letter) :
    letter.toNat ≤ 126 := by
  simp only [shortEscape] at h
  split_ifs at h <;> cases h <;> decide

theorem escapeAscii_ascii (c : CodePoint) : ∀ d ∈ escapeAscii c, d.toNat ≤ 126 := by
  rw [escapeAscii]
  cases hshort : shortEscape c.val with
  | some letter => simp [shortEscape_ascii hshort]
  | none =>
    dsimp only
    split_ifs with hplain hsmall
    · have hval : (Char.ofNat c.val).toNat = c.val := by
        rw [Char.toNat_ofNat, if_pos]
        exact Or.inl (by omega)
      simp [hval, hplain.2]
    · exact unicodeEscape_ascii _
    · exact List.forall_mem_append.mpr ⟨unicodeEscape_ascii _, unicodeEscape_ascii _⟩

theorem escapeRaw_toAscii (c : CodePoint) : (escapeRaw c).flatMap toAscii = escapeAscii c := by
  by_cases hsmall : c.val ≤ 126
  · rw [← escapeAscii_eq_raw hsmall, literals_flatMap toAscii_ofChar (escapeAscii_ascii c),
      List.map_id']
  · have hplain : escapeRaw c = [c] := escapeRaw_eq_self (by omega)
    rw [hplain, List.flatMap_singleton, toAscii, if_neg hsmall]

variable (seps : Separators)

theorem renderRaw_toAscii (v : Value) : (renderRaw seps v).flatMap toAscii = render seps v :=
  renderWith_flatMap ⟨toAscii_ofChar, escapeRaw_toAscii⟩ seps v

theorem isText_escapeRaw {c : CodePoint} (h : c.toChar?.isSome = true) : IsText (escapeRaw c) := by
  have hliteral (cs : List Char) : IsText (cs.map .ofChar) := by
    intro d hd
    obtain ⟨e, -, rfl⟩ := List.mem_map.mp hd
    rw [toChar?_ofChar, Option.isSome_some]
  rw [escapeRaw]
  cases shortEscape c.val with
  | some letter => exact hliteral ['\\', letter]
  | none =>
    dsimp only
    split_ifs
    · exact hliteral _
    · exact List.forall_mem_singleton.mpr h

theorem isText_renderRaw {v : Value} (h : IsText (codePoints v)) : IsText (renderRaw seps v) := by
  intro p hp
  rw [renderRaw, ← renderWith_written, List.mem_flatMap] at hp
  obtain ⟨t, ht, hp⟩ := hp
  cases t with
  | inl c =>
    obtain rfl := List.mem_singleton.mp hp
    rw [toChar?_ofChar, Option.isSome_some]
  | inr c => exact isText_escapeRaw (h c ((mem_tokens seps c v).mp ht)) p hp

-- a value that its texts determine
structure Recoverable (v : Value) : Prop where
  loadable : Loadable FloatText.read v
  text : IsText (codePoints v)

theorem Recoverable.sorted {v : Value} (h : Recoverable v) : Recoverable (sorted v) :=
  ⟨loadable_sorted v h.loadable, fun c hc => h.text c ((codePoints_sorted c v).mp hc)⟩

theorem Recoverable.str {s : Str} (h : IsText s) : Recoverable (.str s) :=
  ⟨joinPairs_of_isText h, h⟩

theorem recoverable_null : Recoverable .null := ⟨trivial, nofun⟩

theorem recoverable_bool (b : Bool) : Recoverable (.bool b) := ⟨trivial, nofun⟩

theorem recoverable_int (n : Int) : Recoverable (.int n) := ⟨trivial, nofun⟩

theorem recoverable_float (t : FloatText) : Recoverable (.float t) := ⟨t.read_text, nofun⟩

theorem recoverable_str (text : String) : Recoverable (.str (.ofString text)) :=
  .str (isText_ofString text)

theorem recoverable_array {xs : List Value} (h : ∀ x ∈ xs, Recoverable x) :
    Recoverable (.array xs) := by
  refine ⟨loadableItems_iff.mpr fun x hx => (h x hx).loadable, ?_⟩
  induction xs with
  | nil => exact nofun
  | cons x xs ih =>
    exact List.forall_mem_append.mpr
      ⟨(h x (List.mem_cons_self ..)).text, ih fun y hy => h y (List.mem_cons_of_mem x hy)⟩

theorem recoverable_keyed {ms : List (String × Value)} (hkeys : (ms.map Prod.fst).Nodup)
    (h : ∀ m ∈ ms, Recoverable m.2) : Recoverable (keyed ms) := by
  refine ⟨⟨keyed_keys hkeys, loadableMembers_iff.mpr fun m hm => ?_⟩, fun c hc => ?_⟩
  · obtain ⟨n, hn, rfl⟩ := List.mem_map.mp hm
    exact ⟨joinPairs_ofString n.1, (h n hn).loadable⟩
  · obtain ⟨m, hm, hc⟩ := mem_codePointsMembers.mp hc
    obtain ⟨n, hn, rfl⟩ := List.mem_map.mp hm
    rcases hc with hc | hc
    · exact isText_ofString n.1 c hc
    · exact (h n hn).text c hc

theorem renderRaw_injective {v w : Value} (hv : Recoverable v) (hw : Recoverable w)
    (h : renderRaw seps v = renderRaw seps w) : v = w := by
  refine dumps_injective seps hv.loadable hw.loadable ?_
  rw [dumps, dumps, ← renderRaw_toAscii, ← renderRaw_toAscii, h]

end Injectivity

end PythonJson
