import AgentSecurityPlatform.Library.PythonJsonRoundTrip

namespace PythonJson

section Ascii

theorem digit_ascii {c : Char} (h : c.isDigit = true) : c.toNat ≤ 126 := by
  simp only [Char.isDigit, Bool.and_eq_true, decide_eq_true_eq, UInt32.le_iff_toNat_le] at h
  have hle : c.toNat ≤ 57 := h.2
  omega

theorem takeWhile_ascii (cs : List Char) : ∀ c ∈ cs.takeWhile Char.isDigit, c.toNat ≤ 126 :=
  fun _ hc => digit_ascii (List.mem_takeWhile_imp hc)

theorem scanInteger_ascii {cs : List Char} {p : List Char × List Char}
    (h : scanInteger cs = some p) : ∀ c ∈ p.1, c.toNat ≤ 126 := by
  cases cs with
  | nil => cases h
  | cons c cs =>
    by_cases hzero : c = '0'
    · subst hzero
      cases h
      simp
    · rw [scanInteger.eq_2 c cs hzero] at h
      split_ifs at h with hdigit
      cases h
      exact List.forall_mem_cons.mpr ⟨digit_ascii hdigit, takeWhile_ascii cs⟩

theorem scanSigned_ascii {cs : List Char} {p : List Char × List Char}
    (h : scanSigned cs = some p) : ∀ c ∈ p.1, c.toNat ≤ 126 := by
  rw [scanSigned.eq_def] at h
  split at h
  · obtain ⟨q, hq, rfl⟩ := Option.map_eq_some_iff.mp h
    exact List.forall_mem_cons.mpr ⟨by decide, scanInteger_ascii hq⟩
  · exact scanInteger_ascii h

theorem scanFraction_ascii (cs : List Char) : ∀ c ∈ (scanFraction cs).1, c.toNat ≤ 126 := by
  rw [scanFraction.eq_def]
  split
  · split_ifs with hdigit
    · exact List.forall_mem_cons.mpr
        ⟨by decide, List.forall_mem_cons.mpr ⟨digit_ascii hdigit, takeWhile_ascii _⟩⟩
    · simp
  · simp

theorem scanSign_ascii (cs : List Char) : ∀ c ∈ (scanSign cs).1, c.toNat ≤ 126 := by
  rw [scanSign.eq_def]
  split
  · simp
  · simp
  · simp

theorem scanExponent_ascii (cs : List Char) : ∀ c ∈ (scanExponent cs).1, c.toNat ≤ 126 := by
  cases cs with
  | nil => simp [scanExponent]
  | cons c cs =>
    simp only [scanExponent]
    split_ifs with hletter hempty
    · simp
    · have hc : c.toNat ≤ 126 := by
        rcases hletter with rfl | rfl
        · decide
        · decide
      rw [List.cons_append]
      exact List.forall_mem_cons.mpr
        ⟨hc, List.forall_mem_append.mpr ⟨scanSign_ascii cs, takeWhile_ascii _⟩⟩
    · simp

theorem repr_ascii (n : Int) : ∀ c ∈ n.repr.toList, c.toNat ≤ 126 :=
  scanSigned_ascii (scanSigned_int n)

theorem FloatText.text_ascii (t : FloatText) : ∀ c ∈ t.text, c.toNat ≤ 126 := by
  obtain ⟨p, hsigned, hscanned⟩ := Option.map_eq_some_iff.mp t.scanned
  obtain ⟨hinteger, hfraction, hexponent, -⟩ := Scanned.mk.inj hscanned
  rw [FloatText.text, List.forall_mem_append, List.forall_mem_append, ← hinteger, ← hfraction,
    ← hexponent]
  exact ⟨⟨scanSigned_ascii hsigned, scanFraction_ascii _⟩, scanExponent_ascii _⟩

end Ascii

namespace FloatText

theorem read_text (t : FloatText) : read t.text = .float t := by
  simp only [read, text, t.scanned]
  exact dif_pos ⟨trivial, t.float⟩

theorem scan_append (n : Int) {r fraction exponent : List Char} (hr : NoDigit r)
    (hfraction : (scanFraction r).1 = fraction)
    (hexponent : scanExponent (scanFraction r).2 = (exponent, [])) :
    scanNumber (n.repr.toList ++ r) = some ⟨n.repr.toList, fraction, exponent, []⟩ := by
  have hsigned := scanSigned_append hr (scanSigned_int n)
  simp only [scanNumber, hsigned, Option.map_some, List.nil_append, hfraction, hexponent]

-- repr of a float of whole seconds
def ofSeconds (n : Int) : FloatText :=
  ⟨n.repr.toList, ['.', '0'], [], by
    rw [List.append_nil]
    exact scan_append n (.cons (by decide)) rfl rfl, by simp⟩

def ofMillionths (n : Int) : FloatText :=
  ⟨n.repr.toList, [], ['e', '-', '0', '6'], by
    rw [List.append_nil]
    exact scan_append n (.cons (by decide)) rfl rfl, by simp⟩

def ofMicroseconds (n : Int) : FloatText :=
  if n % 1000000 = 0 then ofSeconds (n / 1000000) else ofMillionths n

theorem ofMicroseconds_injective : Function.Injective ofMicroseconds := by
  intro m n h
  have hrepr {i j : Int} (hij : i.repr.toList = j.repr.toList) : i = j :=
    Int.repr_injective (String.toList_inj.mp hij)
  simp only [ofMicroseconds] at h
  split_ifs at h with hm hn hn
  · have hseconds := hrepr (congrArg integer h)
    omega
  · have hfraction := congrArg fraction h
    cases hfraction
  · have hfraction := congrArg fraction h
    cases hfraction
  · exact hrepr (congrArg integer h)

end FloatText

end PythonJson
