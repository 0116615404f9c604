import AgentSecurityPlatform.Library.PythonJsonReader

namespace PythonJson

section Strings

theorem hexValue_hexDigit {n : Nat} (h : n < 16) : hexValue (hexDigit n) = some n := by
  interval_cases n <;> decide

theorem readHex_digits {n : Nat} (h : n < 0x10000) :
    readHex (hexDigit (n / 0x1000 % 16)) (hexDigit (n / 0x100 % 16)) (hexDigit (n / 0x10 % 16))
      (hexDigit (n % 16)) = some n := by
  have hdigit (m : Nat) : hexValue (hexDigit (m % 16)) = some (m % 16) :=
    hexValue_hexDigit (Nat.mod_lt _ (by decide))
  simp only [readHex, hdigit, Option.some.injEq]
  omega

theorem readUnits_unicode {n : Nat} (h : n < 0x10000) (r : List Char) :
    readUnits (unicodeEscape n ++ r) =
      (readUnits r).map (fun p => (codePoint n :: p.1, p.2)) := by
  simp only [unicodeEscape, List.cons_append, List.nil_append, readUnits, readHex_digits h]

theorem readShort_shortEscape {n : Nat} {letter : Char} (h : shortEscape n = some letter) :
    readShort letter = some (codePoint n) ∧ letter ≠ 'u' := by
  simp only [shortEscape] at h
  split_ifs at h with h1 h2 h3 h4 h5 h6 h7 <;> cases h <;> subst_vars <;> exact ⟨rfl, by decide⟩

theorem readUnits_short {letter : Char} {short : CodePoint} (h : readShort letter = some short)
    (hu : letter ≠ 'u') (r : List Char) :
    readUnits ('\\' :: letter :: r) = (readUnits r).map (fun p => (short :: p.1, p.2)) := by
  rw [readUnits.eq_def]
  split
  · simp_all
  · simp_all
  · simp_all
  · rename_i hnot heq
    obtain ⟨rfl, rfl⟩ := List.cons.inj heq
    exact absurd rfl (hnot letter r rfl)
  · simp_all

theorem readUnits_plain {c : Char} (hquote : c ≠ '"') (hslash : c ≠ '\\') (h : 32 ≤ c.toNat)
    (r : List Char) :
    readUnits (c :: r) = (readUnits r).map (fun p => (CodePoint.ofChar c :: p.1, p.2)) := by
  rw [readUnits.eq_def]
  split <;> simp_all

def toUnits (c : CodePoint) : Str :=
  if c.val < 0x10000 then [c]
  else [codePoint (0xd800 + (c.val - 0x10000) / 0x400),
    codePoint (0xdc00 + (c.val - 0x10000) % 0x400)]

theorem codePoint_val (c : CodePoint) : codePoint c.val = c := Fin.ofNat_val_eq_self c

theorem readUnits_escapeAscii (c : CodePoint) (r : List Char) :
    readUnits (escapeAscii c ++ r) =
      (readUnits r).map (fun p => (toUnits c ++ p.1, p.2)) := by
  have hc := c.isLt
  cases hshort : shortEscape c.val with
  | some letter =>
    obtain ⟨hread, hu⟩ := readShort_shortEscape hshort
    have hsmall : c.val < 0x10000 := by
      simp only [shortEscape] at hshort
      split_ifs at hshort <;> omega
    simp only [escapeAscii, hshort, List.cons_append, List.nil_append, readUnits_short hread hu,
      toUnits, if_pos hsmall, codePoint_val]
  | none =>
    simp only [escapeAscii, hshort, toUnits]
    split_ifs with hplain hsmall hbig
    · have hval : (Char.ofNat c.val).toNat = c.val := by
        rw [Char.toNat_ofNat, if_pos]
        exact Or.inl (by omega)
      have hself : CodePoint.ofChar (Char.ofNat c.val) = c := Fin.ext hval
      have hne : c.val ≠ 34 ∧ c.val ≠ 92 := by
        simp only [shortEscape] at hshort
        split_ifs at hshort with h1 h2
        exact ⟨h1, h2⟩
      rw [List.singleton_append, readUnits_plain, hself]
      · rfl
      · intro h
        exact hne.1 (by rw [← hval, h]; rfl)
      · intro h
        exact hne.2 (by rw [← hval, h]; rfl)
      · omega
    · omega
    · simp only [readUnits_unicode hbig, codePoint_val]
      rfl
    · rw [List.append_assoc, readUnits_unicode (by omega), readUnits_unicode (by omega),
        Option.map_map]
      rfl

theorem readUnits_quoteBody (s : Str) (r : List Char) :
    readUnits (quoteBody id escapeAscii s ++ r) = some (s.flatMap toUnits, r) := by
  induction s with
  | nil => rfl
  | cons c s ih =>
    rw [quoteBody, List.append_assoc, readUnits_escapeAscii, ih]
    rfl

theorem joinPairs_cons {c : CodePoint} {r : Str}
    (h : CodePoint.isHighSurrogate c.val = false ∨
      ∀ d t, r = d :: t → CodePoint.isLowSurrogate d.val = false) :
    joinPairs (c :: r) = c :: joinPairs r := by
  cases r with
  | nil => rfl
  | cons d t =>
    have hpair : (CodePoint.isHighSurrogate c.val && CodePoint.isLowSurrogate d.val) = false := by
      rcases h with h | h
      · rw [h, Bool.false_and]
      · rw [h d t rfl, Bool.and_false]
    simp only [joinPairs, hpair, Bool.false_eq_true, ↓reduceIte]

theorem joinPairs_units {c : CodePoint} (h : ¬ c.val < 0x10000) (r : Str) :
    joinPairs (toUnits c ++ r) = c :: joinPairs r := by
  have hc := c.isLt
  have hhigh : (codePoint (0xd800 + (c.val - 0x10000) / 0x400)).val =
      0xd800 + (c.val - 0x10000) / 0x400 := Nat.mod_eq_of_lt (by omega)
  have hlow : (codePoint (0xdc00 + (c.val - 0x10000) % 0x400)).val =
      0xdc00 + (c.val - 0x10000) % 0x400 := Nat.mod_eq_of_lt (by omega)
  have hjoin : joinSurrogates (0xd800 + (c.val - 0x10000) / 0x400)
      (0xdc00 + (c.val - 0x10000) % 0x400) = c := by
    have hsum : 0x10000 + (0xd800 + (c.val - 0x10000) / 0x400 - 0xd800) * 0x400 +
        (0xdc00 + (c.val - 0x10000) % 0x400 - 0xdc00) = c.val := by omega
    rw [joinSurrogates, hsum, codePoint_val]
  have hpair : (CodePoint.isHighSurrogate (0xd800 + (c.val - 0x10000) / 0x400) &&
      CodePoint.isLowSurrogate (0xdc00 + (c.val - 0x10000) % 0x400)) = true := by
    simp only [CodePoint.isHighSurrogate, CodePoint.isLowSurrogate, Bool.and_eq_true,
      decide_eq_true_eq]
    omega
  simp only [toUnits, if_neg h, List.cons_append, List.nil_append, joinPairs, hhigh, hlow, hpair,
    ↓reduceIte, hjoin]

theorem head_toUnits_not_low {c : CodePoint} (h : CodePoint.isLowSurrogate c.val = false)
    {r t : Str} {d : CodePoint} (hd : toUnits c ++ r = d :: t) :
    CodePoint.isLowSurrogate d.val = false := by
  have hc := c.isLt
  simp only [toUnits] at hd
  split_ifs at hd with hsmall
  · obtain ⟨rfl, -⟩ := List.cons.inj hd
    exact h
  · obtain ⟨rfl, -⟩ := List.cons.inj hd
    have hval : (codePoint (0xd800 + (c.val - 0x10000) / 0x400)).val =
        0xd800 + (c.val - 0x10000) / 0x400 := Nat.mod_eq_of_lt (by omega)
    simp only [CodePoint.isLowSurrogate, hval, Bool.and_eq_false_iff, decide_eq_false_iff_not]
    omega

theorem joinPairs_flatMap_toUnits (s : Str) : joinPairs (s.flatMap toUnits) = joinPairs s := by
  induction s using joinPairs.induct with
  | case1 high low r hpair ih =>
    have hsmall : high.val < 0x10000 ∧ low.val < 0x10000 := by
      simp only [CodePoint.isHighSurrogate, CodePoint.isLowSurrogate, Bool.and_eq_true,
        decide_eq_true_eq] at hpair
      omega
    simp only [List.flatMap_cons, toUnits, if_pos hsmall.1, if_pos hsmall.2, List.cons_append,
      List.nil_append, joinPairs, hpair, ↓reduceIte, List.cons.injEq, true_and]
    exact ih
  | case2 high low r hpair ih =>
    have hright : joinPairs (high :: low :: r) = high :: joinPairs (low :: r) := by
      simp only [joinPairs, hpair, Bool.false_eq_true, ↓reduceIte]
    rw [hright, ← ih, List.flatMap_cons]
    by_cases hsmall : high.val < 0x10000
    · rw [toUnits, if_pos hsmall, List.singleton_append, joinPairs_cons]
      rw [Bool.not_eq_true, Bool.and_eq_false_iff] at hpair
      exact hpair.imp id fun hlow d t hd => head_toUnits_not_low hlow hd
    · exact joinPairs_units hsmall _
  | case3 r hshort =>
    match r with
    | [] => rfl
    | [c] =>
      rw [List.flatMap_cons, List.flatMap_nil]
      by_cases hsmall : c.val < 0x10000
      · rw [toUnits, if_pos hsmall]
        rfl
      · exact joinPairs_units hsmall []
    | high :: low :: r => exact absurd rfl (hshort high low r)

theorem readString_quoteBody (s : Str) (r : List Char) :
    readString (quoteBody id escapeAscii s ++ r) = some (joinPairs s, r) := by
  rw [readString, readUnits_quoteBody, Option.map_some, joinPairs_flatMap_toUnits]

end Strings

section Numbers

def continuesNumber (c : Char) : Bool :=
  c.isDigit || c = '.' || c = 'e' || c = 'E' || c = '+' || c = '-'

def Stops (r : List Char) : Prop := ∀ c t, r = c :: t → continuesNumber c = false

theorem Stops.cons {c : Char} {r : List Char} (h : continuesNumber c = false) : Stops (c :: r) := by
  intro d t hd
  obtain ⟨rfl, -⟩ := List.cons.inj hd
  exact h

variable {r : List Char}

theorem Stops.head (hr : Stops r) : r = [] ∨ ∃ c t, r = c :: t ∧ c.isDigit = false ∧ c ≠ '.' ∧
    c ≠ 'e' ∧ c ≠ 'E' ∧ c ≠ '+' ∧ c ≠ '-' := by
  cases r with
  | nil => exact Or.inl rfl
  | cons c t =>
    have hc := hr c t rfl
    simp only [continuesNumber, Bool.or_eq_false_iff, decide_eq_false_iff_not] at hc
    exact Or.inr ⟨c, t, rfl, by tauto⟩

def NoDigit (r : List Char) : Prop := ∀ c t, r = c :: t → c.isDigit = false

theorem NoDigit.cons {c : Char} {r : List Char} (h : c.isDigit = false) : NoDigit (c :: r) := by
  intro d t hd
  obtain ⟨rfl, -⟩ := List.cons.inj hd
  exact h

theorem Stops.noDigit (hr : Stops r) : NoDigit r := by
  intro c t hc
  have hstop := hr c t hc
  simp only [continuesNumber, Bool.or_eq_false_iff] at hstop
  exact hstop.1.1.1.1.1

theorem while_append (hr : NoDigit r) (cs : List Char) :
    (cs ++ r).takeWhile Char.isDigit = cs.takeWhile Char.isDigit ∧
      (cs ++ r).dropWhile Char.isDigit = cs.dropWhile Char.isDigit ++ r := by
  induction cs with
  | nil =>
    cases r with
    | nil => exact ⟨rfl, rfl⟩
    | cons c t => simp [hr c t rfl]
  | cons c cs ih =>
    by_cases hc : c.isDigit
    · simp [hc, ih]
    · simp [hc]

theorem scanInteger_append (hr : NoDigit r) {cs digits rest : List Char}
    (h : scanInteger cs = some (digits, rest)) :
    scanInteger (cs ++ r) = some (digits, rest ++ r) := by
  cases cs with
  | nil => cases h
  | cons c cs =>
    by_cases hzero : c = '0'
    · subst hzero
      cases h
      rfl
    · rw [scanInteger.eq_2 c cs hzero] at h
      rw [List.cons_append, scanInteger.eq_2 c (cs ++ r) hzero, (while_append hr cs).1,
        (while_append hr cs).2]
      split_ifs at h ⊢
      cases h
      rfl

theorem scanSigned_append (hr : NoDigit r) {cs digits rest : List Char}
    (h : scanSigned cs = some (digits, rest)) :
    scanSigned (cs ++ r) = some (digits, rest ++ r) := by
  cases cs with
  | nil => cases h
  | cons c cs =>
    by_cases hminus : c = '-'
    · subst hminus
      obtain ⟨⟨ds, t⟩, hds, heq⟩ := Option.map_eq_some_iff.mp h
      cases heq
      simp only [List.cons_append, scanSigned, scanInteger_append hr hds, Option.map_some]
    · have hleft : scanSigned (c :: cs) = scanInteger (c :: cs) := by
        rw [scanSigned.eq_2]
        rintro t heq
        exact hminus (List.cons.inj heq).1
      have hright : scanSigned (c :: cs ++ r) = scanInteger (c :: cs ++ r) := by
        rw [scanSigned.eq_2]
        rintro t heq
        exact hminus (List.cons.inj heq).1
      rw [hleft] at h
      rw [hright, scanInteger_append hr h]

theorem scanFraction_of_ne {c : Char} (h : c ≠ '.') (cs : List Char) :
    scanFraction (c :: cs) = ([], c :: cs) := by
  rw [scanFraction.eq_2]
  rintro d u heq
  exact h (List.cons.inj heq).1

theorem scanFraction_append (hr : Stops r) (cs : List Char) :
    scanFraction (cs ++ r) = ((scanFraction cs).1, (scanFraction cs).2 ++ r) := by
  cases cs with
  | nil =>
    rcases hr.head with rfl | ⟨c, t, rfl, -, hdot, -⟩
    · rfl
    · exact scanFraction_of_ne hdot t
  | cons c cs =>
    by_cases hdot : c = '.'
    · subst hdot
      cases cs with
      | nil =>
        rcases hr.head with rfl | ⟨c, t, rfl, hc, -⟩
        · rfl
        · simp [scanFraction, hc]
      | cons d cs =>
        simp only [List.cons_append, scanFraction, while_append hr.noDigit cs]
        split_ifs
        · rfl
        · rfl
    · rw [List.cons_append, scanFraction_of_ne hdot, scanFraction_of_ne hdot]
      rfl

theorem scanSign_append (hr : Stops r) (cs : List Char) :
    scanSign (cs ++ r) = ((scanSign cs).1, (scanSign cs).2 ++ r) := by
  cases cs with
  | nil =>
    rcases hr.head with rfl | ⟨c, t, rfl, -, -, -, -, hplus, hminus⟩
    · rfl
    · simp [scanSign, hplus, hminus]
  | cons c cs =>
    by_cases hplus : c = '+'
    · subst hplus
      rfl
    · by_cases hminus : c = '-'
      · subst hminus
        rfl
      · simp [scanSign, hplus, hminus]

theorem scanExponent_append (hr : Stops r) (cs : List Char) :
    scanExponent (cs ++ r) = ((scanExponent cs).1, (scanExponent cs).2 ++ r) := by
  cases cs with
  | nil =>
    rcases hr.head with rfl | ⟨c, t, rfl, -, -, he, hE, -⟩
    · rfl
    · simp [scanExponent, he, hE]
  | cons c cs =>
    simp only [List.cons_append, scanExponent, scanSign_append hr cs,
      while_append hr.noDigit (scanSign cs).2]
    split_ifs
    · rfl
    · rfl
    · rfl

theorem scanNumber_append (hr : Stops r) {cs : List Char} {s : Scanned}
    (h : scanNumber cs = some s) :
    scanNumber (cs ++ r) = some { s with rest := s.rest ++ r } := by
  obtain ⟨⟨digits, t⟩, hsigned, rfl⟩ := Option.map_eq_some_iff.mp h
  simp only [scanNumber, scanSigned_append hr.noDigit hsigned, Option.map_some,
    scanFraction_append hr t, scanExponent_append hr (scanFraction t).2]

theorem toDigits_head {n : Nat} (h : 0 < n) :
    ∃ c t, Nat.toDigits 10 n = c :: t ∧ c ≠ '0' := by
  induction n using Nat.strong_induction_on with
  | _ n ih =>
    by_cases hsmall : n < 10
    · refine ⟨n.digitChar, [], Nat.toDigits_of_lt_base hsmall, ?_⟩
      interval_cases n <;> decide
    · obtain ⟨c, t, ht, hc⟩ := ih (n / 10) (by omega) (by omega)
      refine ⟨c, t ++ [(n % 10).digitChar], ?_, hc⟩
      rw [Nat.toDigits_of_base_le (by decide) (by omega), ht]
      rfl

theorem repr_digits (n : Nat) : ∀ c ∈ n.repr.toList, c.isDigit = true := by
  intro c hc
  rw [Nat.toList_repr] at hc
  exact Nat.isDigit_of_mem_toDigits (by decide) (by decide) hc

theorem scanInteger_repr (n : Nat) : scanInteger n.repr.toList = some (n.repr.toList, []) := by
  by_cases hzero : n = 0
  · subst hzero
    rfl
  · obtain ⟨c, t, ht, hc⟩ := toDigits_head (Nat.pos_of_ne_zero hzero)
    have hdigits := repr_digits n
    rw [Nat.toList_repr, ht] at hdigits ⊢
    have htail : ∀ d ∈ t, d.isDigit = true := fun d hd => hdigits d (List.mem_cons_of_mem c hd)
    have htake : t.takeWhile Char.isDigit = t := List.takeWhile_eq_self_iff.mpr htail
    have hdrop : t.dropWhile Char.isDigit = [] := by
      have hsplit := List.takeWhile_append_dropWhile (p := Char.isDigit) (l := t)
      rwa [htake, List.append_right_eq_self] at hsplit
    rw [scanInteger.eq_2 c t hc, if_pos (hdigits c (List.mem_cons_self ..)), htake, hdrop]

theorem repr_ne_minus (n : Nat) (t : List Char) : n.repr.toList ≠ '-' :: t := by
  intro ht
  have hdigit := repr_digits n '-' (by rw [ht]; exact List.mem_cons_self ..)
  cases hdigit

theorem repr_negSucc (n : Nat) : (Int.negSucc n).repr.toList = '-' :: (n + 1).repr.toList := by
  simp [Int.repr]

theorem scanSigned_int (n : Int) : scanSigned n.repr.toList = some (n.repr.toList, []) := by
  cases n with
  | ofNat m =>
    have hrepr : (Int.ofNat m).repr.toList = m.repr.toList := rfl
    rw [hrepr, scanSigned.eq_2 _ (repr_ne_minus m), scanInteger_repr]
  | negSucc m =>
    rw [repr_negSucc, scanSigned, scanInteger_repr]
    rfl

theorem scanNumber_int (n : Int) : scanNumber n.repr.toList = some ⟨n.repr.toList, [], [], []⟩ :=
  congrArg (Option.map _) (scanSigned_int n)

theorem readInteger_repr (n : Int) : readInteger n.repr.toList = n := by
  have hread (m : Nat) : Nat.ofDigitChars 10 m.repr.toList 0 = m := by
    rw [Nat.toList_repr, Nat.ofDigitChars_ten_toDigits]
  cases n with
  | ofNat m =>
    have hrepr : (Int.ofNat m).repr.toList = m.repr.toList := rfl
    rw [hrepr, readInteger.eq_2 _ (repr_ne_minus m), hread]
  | negSucc m =>
    rw [repr_negSucc, readInteger, hread]
    rfl

variable {readFloat : List Char → Value}

theorem readNumber_int (hr : Stops r) (n : Int) :
    readNumber readFloat (n.repr.toList ++ r) = some (.int n, r) := by
  rw [readNumber, scanNumber_append hr (scanNumber_int n)]
  simp only [Option.map_some, List.append_nil, ↓reduceIte, readInteger_repr, List.nil_append]

theorem readNumber_float (hr : Stops r) {t : FloatText} (ht : readFloat t.text = .float t) :
    readNumber readFloat (t.text ++ r) = some (.float t, r) := by
  rw [readNumber, FloatText.text, scanNumber_append hr t.scanned]
  simp only [Option.map_some, if_neg t.float, List.nil_append]
  exact congrArg (fun v => some (v, r)) ht

theorem scanInteger_head {cs : List Char} {p : List Char × List Char}
    (h : scanInteger cs = some p) : ∃ c t, cs = c :: t ∧ c.isDigit = true := by
  cases cs with
  | nil => cases h
  | cons c cs =>
    refine ⟨c, cs, rfl, ?_⟩
    by_cases hzero : c = '0'
    · subst hzero
      rfl
    · rw [scanInteger.eq_2 c cs hzero] at h
      split_ifs at h with hc
      exact hc

def StartsNumber (cs : List Char) : Prop :=
  ∃ c t, cs = c :: t ∧ (c.isDigit = true ∨ (c = '-' ∧ ∃ d u, t = d :: u ∧ d.isDigit = true))

theorem scanNumber_head {cs : List Char} {s : Scanned} (h : scanNumber cs = some s) :
    StartsNumber cs := by
  obtain ⟨p, hsigned, -⟩ := Option.map_eq_some_iff.mp h
  cases cs with
  | nil => cases hsigned
  | cons c cs =>
    refine ⟨c, cs, rfl, ?_⟩
    by_cases hminus : c = '-'
    · subst hminus
      obtain ⟨q, hq, -⟩ := Option.map_eq_some_iff.mp hsigned
      exact Or.inr ⟨rfl, scanInteger_head hq⟩
    · have hleft : scanSigned (c :: cs) = scanInteger (c :: cs) := by
        rw [scanSigned.eq_2]
        rintro t heq
        exact hminus (List.cons.inj heq).1
      rw [hleft] at hsigned
      obtain ⟨d, t, heq, hd⟩ := scanInteger_head hsigned
      obtain ⟨rfl, -⟩ := List.cons.inj heq
      exact Or.inl hd

theorem StartsNumber.append {cs : List Char} (h : StartsNumber cs) (r : List Char) :
    StartsNumber (cs ++ r) := by
  obtain ⟨c, t, rfl, hdigit | ⟨hminus, d, u, rfl, hd⟩⟩ := h
  · exact ⟨c, t ++ r, rfl, Or.inl hdigit⟩
  · exact ⟨c, d :: u ++ r, rfl, Or.inr ⟨hminus, d, u ++ r, rfl, hd⟩⟩

theorem digit_ne {c d : Char} (hc : c.isDigit = true) (hd : d.isDigit = false) : c ≠ d := by
  rintro rfl
  rw [hc] at hd
  cases hd

theorem readValue_number {cs : List Char} (h : StartsNumber cs) (fuel : Nat) :
    readValue readFloat (fuel + 1) cs = readNumber readFloat cs := by
  obtain ⟨c, t, rfl, hdigit | ⟨rfl, d, u, rfl, hd⟩⟩ := h
  · have hquote := digit_ne (d := '"') hdigit (by decide)
    have hbrace := digit_ne (d := '{') hdigit (by decide)
    have hbracket := digit_ne (d := '[') hdigit (by decide)
    have hn := digit_ne (d := 'n') hdigit (by decide)
    have ht := digit_ne (d := 't') hdigit (by decide)
    have hf := digit_ne (d := 'f') hdigit (by decide)
    have hN := digit_ne (d := 'N') hdigit (by decide)
    have hI := digit_ne (d := 'I') hdigit (by decide)
    have hminus := digit_ne (d := '-') hdigit (by decide)
    simp only [readValue]
    split <;> simp_all
  · have hI := digit_ne (d := 'I') hd (by decide)
    simp only [readValue]
    split <;> simp_all

end Numbers

section Values

variable (readFloat : List Char → Value)

mutual

def Loadable : Value → Prop
  | .float t => readFloat t.text = .float t
  | .str s => joinPairs s = s
  | .array xs => LoadableItems xs
  | .object ms => (ms.map Prod.fst).Nodup ∧ LoadableMembers ms
  | _ => True

def LoadableItems : List Value → Prop
  | [] => True
  | x :: xs => Loadable x ∧ LoadableItems xs

def LoadableMembers : List (Str × Value) → Prop
  | [] => True
  | (k, x) :: ms => joinPairs k = k ∧ Loadable x ∧ LoadableMembers ms

end

variable (seps : Separators)

theorem skip_cons {c : Char} (h : isSpace c = false) (r : List Char) : skip (c :: r) = c :: r := by
  simp [skip, h]

theorem skip_blank {space : List Char} (h : ∀ c ∈ space, isSpace c = true) {c : Char}
    (hc : isSpace c = false) (r : List Char) : skip (space ++ c :: r) = c :: r := by
  induction space with
  | nil => exact skip_cons hc r
  | cons b space ih =>
    have hb := h b (List.mem_cons_self ..)
    simp only [skip, List.cons_append, List.dropWhile_cons, hb, ↓reduceIte]
    exact ih fun d hd => h d (List.mem_cons_of_mem b hd)

theorem render_head (v : Value) :
    ∃ c t, render seps v = c :: t ∧ isSpace c = false ∧ c ≠ ']' ∧ c ≠ '}' := by
  have hnumber {cs : List Char} (h : StartsNumber cs) :
      ∃ c t, cs = c :: t ∧ isSpace c = false ∧ c ≠ ']' ∧ c ≠ '}' := by
    obtain ⟨c, t, rfl, hdigit | ⟨rfl, -⟩⟩ := h
    · refine ⟨c, t, rfl, ?_, digit_ne hdigit (by decide), digit_ne hdigit (by decide)⟩
      simp only [isSpace, Bool.or_eq_false_iff, decide_eq_false_iff_not]
      exact ⟨⟨⟨digit_ne hdigit (by decide), digit_ne hdigit (by decide)⟩,
        digit_ne hdigit (by decide)⟩, digit_ne hdigit (by decide)⟩
    · exact ⟨'-', t, rfl, by decide, by decide, by decide⟩
  cases v with
  | null => exact ⟨'n', _, rfl, by decide, by decide, by decide⟩
  | bool b =>
    cases b with
    | true => exact ⟨'t', _, rfl, by decide, by decide, by decide⟩
    | false => exact ⟨'f', _, rfl, by decide, by decide, by decide⟩
  | int n =>
    have hrender : render seps (.int n) = n.repr.toList := by simp [render, renderWith]
    rw [hrender]
    exact hnumber (scanNumber_head (scanNumber_int n))
  | float t =>
    have hrender : render seps (.float t) = t.text := by simp [render, renderWith]
    rw [hrender]
    exact hnumber (scanNumber_head t.scanned)
  | nan => exact ⟨'N', _, rfl, by decide, by decide, by decide⟩
  | infinity negative =>
    cases negative with
    | false => exact ⟨'I', _, rfl, by decide, by decide, by decide⟩
    | true => exact ⟨'-', _, rfl, by decide, by decide, by decide⟩
  | str s => exact ⟨'"', _, rfl, by decide, by decide, by decide⟩
  | array xs => cases xs <;> exact ⟨'[', _, rfl, by decide, by decide, by decide⟩
  | object ms => cases ms <;> exact ⟨'{', _, rfl, by decide, by decide, by decide⟩

theorem putMember_fresh {k : Str} {d : List (Str × Value)} (h : k ∉ d.map Prod.fst) (x : Value) :
    putMember k x d = d ++ [(k, x)] := by
  induction d with
  | nil => rfl
  | cons m d ih =>
    simp only [List.map_cons, List.mem_cons, not_or] at h
    simp only [putMember, if_neg (Ne.symm h.1), ih h.2, List.cons_append]

theorem foldl_putMember {d ms : List (Str × Value)} (h : ((d ++ ms).map Prod.fst).Nodup) :
    ms.foldl (fun d m => putMember m.1 m.2 d) d = d ++ ms := by
  induction ms generalizing d with
  | nil => simp
  | cons m ms ih =>
    have hfresh : m.1 ∉ d.map Prod.fst := by
      rw [List.map_append, List.map_cons] at h
      intro hin
      exact (List.nodup_append.mp h).2.2 _ hin _ (List.mem_cons_self ..) rfl
    have hassoc : d ++ [(m.1, m.2)] ++ ms = d ++ m :: ms := by simp
    rw [List.foldl_cons, putMember_fresh hfresh, ih (by rwa [hassoc]), hassoc]

theorem dictOf_nodup {ms : List (Str × Value)} (h : (ms.map Prod.fst).Nodup) : dictOf ms = ms :=
  foldl_putMember h

variable {readFloat : List Char → Value}

theorem skip_item (v : Value) (r : List Char) :
    ∃ space, seps.item = ',' :: space ∧
      skip (space ++ (render seps v ++ r)) = render seps v ++ r := by
  obtain ⟨space, hitem, hblank⟩ := seps.itemSpace
  obtain ⟨c, t, ht, hc, -⟩ := render_head seps v
  refine ⟨space, hitem, ?_⟩
  rw [ht, List.cons_append]
  exact skip_blank hblank hc (t ++ r)

theorem skip_key (v : Value) (r : List Char) :
    ∃ space, seps.key = ':' :: space ∧
      skip (space ++ (render seps v ++ r)) = render seps v ++ r := by
  obtain ⟨space, hkey, hblank⟩ := seps.keySpace
  obtain ⟨c, t, ht, hc, -⟩ := render_head seps v
  refine ⟨space, hkey, ?_⟩
  rw [ht, List.cons_append]
  exact skip_blank hblank hc (t ++ r)

def Reads (readFloat : List Char → Value) (v : Value) : Prop :=
  ∀ fuel r, (render seps v).length ≤ fuel → Stops r →
    readValue readFloat fuel (render seps v ++ r) = some (v, r)

variable {seps}

theorem Reads.of_leaf {v : Value}
    (h : ∀ fuel r, Stops r → readValue readFloat (fuel + 1) (render seps v ++ r) = some (v, r)) :
    Reads seps readFloat v := by
  intro fuel r hfuel hr
  obtain ⟨c, t, ht, -⟩ := render_head seps v
  cases fuel with
  | zero => simp [ht] at hfuel
  | succ fuel => exact h fuel r hr

theorem reads_int (n : Int) : Reads seps readFloat (.int n) := by
  refine .of_leaf fun fuel r hr => ?_
  have hrender : render seps (.int n) = n.repr.toList := by simp [render, renderWith]
  rw [hrender, readValue_number ((scanNumber_head (scanNumber_int n)).append r),
    readNumber_int hr]

theorem reads_float {t : FloatText} (h : readFloat t.text = .float t) :
    Reads seps readFloat (.float t) := by
  refine .of_leaf fun fuel r hr => ?_
  have hrender : render seps (.float t) = t.text := by simp [render, renderWith]
  have hstart : StartsNumber t.text := scanNumber_head t.scanned
  rw [hrender, readValue_number (hstart.append r), readNumber_float hr h]

theorem reads_str {s : Str} (h : joinPairs s = s) : Reads seps readFloat (.str s) := by
  refine .of_leaf fun fuel r _ => ?_
  have hrender : render seps (.str s) = '"' :: quoteBody id escapeAscii s := by
    simp [render, renderWith, quote]
  rw [hrender, List.cons_append, readValue, readString_quoteBody, h, Option.map_some]

theorem reads_array {x : Value} {xs : List Value}
    (h : ∀ fuel r, (render seps x ++ renderItems id escapeAscii seps xs).length ≤ fuel →
      readItems readFloat fuel (render seps x ++ renderItems id escapeAscii seps xs ++ r) =
        some (x :: xs, r)) : Reads seps readFloat (.array (x :: xs)) := by
  intro fuel r hfuel _
  have hrender : render seps (.array (x :: xs)) =
      '[' :: (render seps x ++ renderItems id escapeAscii seps xs) := by
    simp [render, renderWith]
  rw [hrender] at hfuel ⊢
  cases fuel with
  | zero => simp at hfuel
  | succ fuel =>
    have hread := h fuel r (by simpa using hfuel)
    obtain ⟨c, t, ht, hc, hclose, -⟩ := render_head seps x
    simp only [ht, List.cons_append] at hread ⊢
    rw [readValue, skip_cons hc]
    split
    · rename_i r' heq
      exact absurd (List.cons.inj heq).1 hclose
    · rw [hread, Option.map_some]

theorem reads_object {k : Str} {x : Value} {ms : List (Str × Value)}
    (hnodup : (((k, x) :: ms).map Prod.fst).Nodup)
    (h : ∀ fuel r, (quote id escapeAscii k ++ seps.key.map id ++ render seps x ++
        renderMembers id escapeAscii seps ms).length ≤ fuel →
      readMembers readFloat fuel (quote id escapeAscii k ++ seps.key.map id ++ render seps x ++
        renderMembers id escapeAscii seps ms ++ r) = some ((k, x) :: ms, r)) :
    Reads seps readFloat (.object ((k, x) :: ms)) := by
  intro fuel r hfuel _
  have hrender : render seps (.object ((k, x) :: ms)) =
      '{' :: (quote id escapeAscii k ++ seps.key.map id ++ render seps x ++
        renderMembers id escapeAscii seps ms) := by
    simp [render, renderWith]
  rw [hrender] at hfuel ⊢
  cases fuel with
  | zero => simp at hfuel
  | succ fuel =>
    have hread := h fuel r (by simpa using hfuel)
    have hquote : quote id escapeAscii k = '"' :: quoteBody id escapeAscii k := rfl
    simp only [hquote, List.cons_append] at hread ⊢
    rw [readValue, skip_cons (by decide)]
    split
    · rename_i r' heq
      exact absurd (List.cons.inj heq).1 (by decide)
    · rw [hread, Option.map_some, dictOf_nodup hnodup]

theorem readItems_last {x : Value} (hx : Reads seps readFloat x) (fuel : Nat) (r : List Char)
    (h : (render seps x ++ renderItems id escapeAscii seps []).length ≤ fuel) :
    readItems readFloat fuel (render seps x ++ renderItems id escapeAscii seps [] ++ r) =
      some ([x], r) := by
  have hitems : renderItems id escapeAscii seps [] = [']'] := rfl
  rw [hitems, List.length_append, List.length_singleton] at h
  rw [hitems, List.append_assoc, List.singleton_append]
  cases fuel with
  | zero => omega
  | succ fuel =>
    rw [readItems, hx fuel _ (by omega) (Stops.cons (by decide))]
    simp only [skip_cons (show isSpace ']' = false by decide)]

theorem readItems_more {x y : Value} {ys : List Value} (hx : Reads seps readFloat x)
    (hys : ∀ fuel r, (render seps y ++ renderItems id escapeAscii seps ys).length ≤ fuel →
      readItems readFloat fuel (render seps y ++ renderItems id escapeAscii seps ys ++ r) =
        some (y :: ys, r)) (fuel : Nat) (r : List Char)
    (h : (render seps x ++ renderItems id escapeAscii seps (y :: ys)).length ≤ fuel) :
    readItems readFloat fuel (render seps x ++ renderItems id escapeAscii seps (y :: ys) ++ r) =
      some (x :: y :: ys, r) := by
  obtain ⟨space, hitem, hskip⟩ :=
    skip_item seps y (renderItems id escapeAscii seps ys ++ r)
  have hitems : renderItems id escapeAscii seps (y :: ys) =
      ',' :: (space ++ (render seps y ++ renderItems id escapeAscii seps ys)) := by
    simp [renderItems, render, hitem]
  rw [hitems] at h ⊢
  simp only [List.length_append, List.length_cons] at h
  cases fuel with
  | zero => omega
  | succ fuel =>
    have hread := hys fuel r (by rw [List.length_append]; omega)
    simp only [List.append_assoc, List.cons_append] at hread ⊢
    rw [readItems, hx fuel _ (by omega) (Stops.cons (by decide))]
    simp only [skip_cons (show isSpace ',' = false by decide), hskip, hread, Option.map_some]

-- one member, read where it ends the mapping and where another member follows
theorem readMembers_member {k : Str} (hk : joinPairs k = k) {x : Value}
    (hx : Reads seps readFloat x) {fuel : Nat} (h : (render seps x).length ≤ fuel)
    (r : List Char) :
    readMembers readFloat (fuel + 1)
        (quote id escapeAscii k ++ seps.key.map id ++ render seps x ++ '}' :: r) =
          some ([(k, x)], r) ∧
      readMembers readFloat (fuel + 1)
        (quote id escapeAscii k ++ seps.key.map id ++ render seps x ++ ',' :: r) =
          (readMembers readFloat fuel (skip r)).map (fun p => ((k, x) :: p.1, p.2)) := by
  have htext (s : List Char) : ∃ space, skip (space ++ (render seps x ++ s)) = render seps x ++ s ∧
      quote id escapeAscii k ++ seps.key.map id ++ render seps x ++ s =
        '"' :: (quoteBody id escapeAscii k ++ (':' :: (space ++ (render seps x ++ s)))) := by
    obtain ⟨space, hkey, hskip⟩ := skip_key seps x s
    exact ⟨space, hskip, by simp [quote, hkey]⟩
  have hread (s : List Char) (hs : Stops s) := hx fuel s h hs
  constructor
  · obtain ⟨space, hskip, htext⟩ := htext ('}' :: r)
    rw [htext, readMembers, readString_quoteBody, hk]
    simp only [skip_cons (show isSpace ':' = false by decide), hskip,
      hread ('}' :: r) (Stops.cons (by decide)), skip_cons (show isSpace '}' = false by decide)]
  · obtain ⟨space, hskip, htext⟩ := htext (',' :: r)
    rw [htext, readMembers, readString_quoteBody, hk]
    simp only [skip_cons (show isSpace ':' = false by decide), hskip,
      hread (',' :: r) (Stops.cons (by decide)), skip_cons (show isSpace ',' = false by decide)]

theorem readMembers_last {k : Str} (hk : joinPairs k = k) {x : Value}
    (hx : Reads seps readFloat x) (fuel : Nat) (r : List Char)
    (h : (quote id escapeAscii k ++ seps.key.map id ++ render seps x ++
      renderMembers id escapeAscii seps []).length ≤ fuel) :
    readMembers readFloat fuel (quote id escapeAscii k ++ seps.key.map id ++ render seps x ++
      renderMembers id escapeAscii seps [] ++ r) = some ([(k, x)], r) := by
  have hmembers : renderMembers id escapeAscii seps [] = ['}'] := rfl
  rw [hmembers] at h ⊢
  simp only [List.length_append, List.length_singleton] at h
  rw [List.append_assoc _ ['}'] r, List.singleton_append]
  cases fuel with
  | zero => omega
  | succ fuel =>
    exact (readMembers_member hk hx (by omega) r).1

theorem readMembers_more {k j : Str} (hk : joinPairs k = k) {x y : Value}
    {ms : List (Str × Value)} (hx : Reads seps readFloat x)
    (hms : ∀ fuel r, (quote id escapeAscii j ++ seps.key.map id ++ render seps y ++
        renderMembers id escapeAscii seps ms).length ≤ fuel →
      readMembers readFloat fuel (quote id escapeAscii j ++ seps.key.map id ++ render seps y ++
        renderMembers id escapeAscii seps ms ++ r) = some ((j, y) :: ms, r))
    (fuel : Nat) (r : List Char)
    (h : (quote id escapeAscii k ++ seps.key.map id ++ render seps x ++
      renderMembers id escapeAscii seps ((j, y) :: ms)).length ≤ fuel) :
    readMembers readFloat fuel (quote id escapeAscii k ++ seps.key.map id ++ render seps x ++
      renderMembers id escapeAscii seps ((j, y) :: ms) ++ r) =
        some ((k, x) :: (j, y) :: ms, r) := by
  obtain ⟨space, hitem, hblank⟩ := seps.itemSpace
  have hmembers : renderMembers id escapeAscii seps ((j, y) :: ms) =
      ',' :: (space ++ (quote id escapeAscii j ++ seps.key.map id ++ render seps y ++
        renderMembers id escapeAscii seps ms)) := by
    simp [renderMembers, render, hitem]
  rw [hmembers] at h ⊢
  rw [List.append_assoc _ (',' :: _) r, List.cons_append]
  simp only [List.length_append, List.length_cons] at h
  cases fuel with
  | zero => omega
  | succ fuel =>
    rw [(readMembers_member hk hx (by omega) _).2]
    have hread := hms fuel r (by simp only [List.length_append]; omega)
    have hquote : quote id escapeAscii j = '"' :: quoteBody id escapeAscii j := rfl
    simp only [hquote, List.cons_append, List.append_assoc] at hread ⊢
    rw [skip_blank hblank (show isSpace '"' = false by decide), hread, Option.map_some]

variable (seps)

mutual

theorem reads_of_loadable : ∀ v : Value, Loadable readFloat v → Reads seps readFloat v
  | .null, _ => .of_leaf fun _ _ _ => rfl
  | .bool true, _ => .of_leaf fun _ _ _ => rfl
  | .bool false, _ => .of_leaf fun _ _ _ => rfl
  | .int n, _ => reads_int n
  | .float _, h => reads_float h
  | .nan, _ => .of_leaf fun _ _ _ => rfl
  | .infinity false, _ => .of_leaf fun _ _ _ => rfl
  | .infinity true, _ => .of_leaf fun _ _ _ => rfl
  | .str _, h => reads_str h
  | .array [], _ => .of_leaf fun _ _ _ => rfl
  | .array (x :: xs), h =>
    reads_array (readItems_render xs h.2 x (reads_of_loadable x h.1))
  | .object [], _ => .of_leaf fun _ _ _ => rfl
  | .object ((k, x) :: ms), h =>
    reads_object h.1 (readMembers_render ms h.2.2.2 k x h.2.1 (reads_of_loadable x h.2.2.1))

theorem readItems_render : ∀ xs : List Value, LoadableItems readFloat xs →
    ∀ x, Reads seps readFloat x → ∀ fuel r,
      (render seps x ++ renderItems id escapeAscii seps xs).length ≤ fuel →
      readItems readFloat fuel (render seps x ++ renderItems id escapeAscii seps xs ++ r) =
        some (x :: xs, r)
  | [], _ => fun _ hx => readItems_last hx
  | y :: ys, h => fun _ hx =>
    readItems_more hx (readItems_render ys h.2 y (reads_of_loadable y h.1))

theorem readMembers_render : ∀ ms : List (Str × Value), LoadableMembers readFloat ms →
    ∀ k x, joinPairs k = k → Reads seps readFloat x → ∀ fuel r,
      (quote id escapeAscii k ++ seps.key.map id ++ render seps x ++
        renderMembers id escapeAscii seps ms).length ≤ fuel →
      readMembers readFloat fuel (quote id escapeAscii k ++ seps.key.map id ++ render seps x ++
        renderMembers id escapeAscii seps ms ++ r) = some ((k, x) :: ms, r)
  | [], _ => fun _ _ hk hx => readMembers_last hk hx
  | (j, y) :: ms, h => fun _ _ hk hx =>
    readMembers_more hk hx
      (readMembers_render ms h.2.2 j y h.1 (reads_of_loadable y h.2.1))

end

theorem loads_dumps {v : Value} (h : Loadable readFloat v) :
    loads readFloat (dumps seps v) = some v := by
  have hread := reads_of_loadable seps v h ((render seps v).length + 1) [] (by omega) nofun
  obtain ⟨c, t, ht, hc, -⟩ := render_head seps v
  have hskip : skip (render seps v) = render seps v := by
    rw [ht]
    exact skip_cons hc t
  rw [List.append_nil] at hread
  simp only [loads, dumps, String.toList_ofList, load, hskip, hread]
  rfl

theorem dumps_injective {v w : Value} (hv : Loadable readFloat v) (hw : Loadable readFloat w)
    (h : dumps seps v = dumps seps w) : v = w := by
  have hread := loads_dumps seps hv
  rw [h, loads_dumps seps hw] at hread
  exact (Option.some.inj hread).symm

end Values

end PythonJson
