import AgentSecurityPlatform.Library.Text

-- the Unicode tables behind str.lower, str.isdigit and int
structure UnicodeData where
  lower : String → String
  isDigit : Char → Bool
  decimal : Char → Option Nat
  lower_lower : ∀ s, lower (lower s) = lower s
  lower_strip : ∀ s, Text.strip (lower s) = lower (Text.strip s)
  lower_ascii : ∀ s, (∀ c ∈ s.toList, c.toNat < 128) → lower s = s.map Char.toLower
  isDigit_ascii : ∀ c, c.toNat < 128 → isDigit c = c.isDigit
  decimal_ascii : ∀ c, c.isDigit = true → decimal c = some (c.toNat - 48)

namespace Text

def stripChars (p : Char → Bool) (cs : List Char) : List Char :=
  ((cs.dropWhile p).reverse.dropWhile p).reverse

theorem strip_eq (s : String) : strip s = String.ofList (stripChars isSpace s.toList) := rfl

theorem stripChars_eq_self {p : Char → Bool} {cs : List Char} (hhead : ∀ c ∈ cs.head?, p c = false)
    (hlast : ∀ c ∈ cs.getLast?, p c = false) : stripChars p cs = cs := by
  have hdrop {l : List Char} (hl : ∀ c ∈ l.head?, p c = false) : l.dropWhile p = l := by
    cases l with
    | nil => rfl
    | cons a l => simp [hl a (by simp)]
  rw [stripChars, hdrop hhead, hdrop (by simpa using hlast), List.reverse_reverse]

theorem head?_dropWhile {p : Char → Bool} {cs : List Char} {c : Char}
    (h : c ∈ (cs.dropWhile p).head?) : p c = false := by
  induction cs with
  | nil => cases h
  | cons a cs ih =>
    by_cases ha : p a = true
    · exact ih (by simpa [ha] using h)
    · simp only [Bool.not_eq_true] at ha
      simp [ha] at h
      exact h ▸ ha

theorem stripChars_idem (p : Char → Bool) (cs : List Char) :
    stripChars p (stripChars p cs) = stripChars p cs := by
  have hsuffix : (stripChars p cs) <+: cs.dropWhile p := by
    rw [stripChars, ← List.reverse_suffix, List.reverse_reverse]
    exact List.dropWhile_suffix p
  apply stripChars_eq_self
  · intro c hc
    obtain ⟨rest, hrest⟩ := hsuffix
    have hhead : c ∈ (cs.dropWhile p).head? := by
      rw [← hrest, List.head?_append]
      simp [Option.mem_def.mp hc]
    exact head?_dropWhile hhead
  · intro c hc
    simp only [stripChars, List.getLast?_reverse] at hc
    exact head?_dropWhile hc

theorem strip_strip (s : String) : strip (strip s) = strip s := by
  rw [strip_eq (strip s), strip_eq s, String.toList_ofList, stripChars_idem]

end Text

namespace UnicodeData

variable (u : UnicodeData)

def normal (s : String) : String := u.lower (Text.strip s)

theorem normal_normal (s : String) : u.normal (u.normal s) = u.normal s := by
  rw [normal, normal, u.lower_strip, u.lower_lower, Text.strip_strip]

theorem lower_normal (s : String) : u.lower (u.normal s) = u.normal s := u.lower_lower _

theorem toNat_toLower (c : Char) :
    c.toLower.toNat = if 65 ≤ c.toNat ∧ c.toNat ≤ 90 then c.toNat + 32 else c.toNat := by
  have hrange : (c.val ≥ 'A'.val ∧ c.val ≤ 'Z'.val) ↔ 65 ≤ c.toNat ∧ c.toNat ≤ 90 := by
    simp only [ge_iff_le, UInt32.le_iff_toNat_le]
    rfl
  delta Char.toLower
  split
  · rename_i h
    rw [if_pos (hrange.mp h)]
    have hbound := (hrange.mp h).2
    simp only [Char.toNat, UInt32.toNat_add]
    have hshift : ('a'.val - 'A'.val).toNat = 32 := by decide
    rw [hshift]
    exact Nat.mod_eq_of_lt (by simp only [Char.toNat] at hbound; omega)
  · rename_i h
    rw [if_neg (fun hr => h (hrange.mpr hr))]

theorem toLower_toLower (c : Char) : c.toLower.toLower = c.toLower := by
  rw [← Char.toNat_inj, toNat_toLower c.toLower, if_neg]
  rw [toNat_toLower]
  split <;> omega

theorem isSpace_toLower (c : Char) : Text.isSpace c.toLower = Text.isSpace c := by
  by_cases h : 65 ≤ c.toNat ∧ c.toNat ≤ 90
  · have hletter (n : Nat) (hn : 65 ≤ n ∧ n ≤ 122) (d : Char) (hd : d.toNat = n) :
        Text.isSpace d = false := by
      simp only [Text.isSpace, hd, Bool.or_eq_false_iff, Bool.and_eq_false_iff,
        decide_eq_false_iff_not]
      omega
    have hlower := toNat_toLower c
    rw [if_pos h] at hlower
    rw [hletter _ (by omega) c.toLower hlower, hletter _ (by omega) c rfl]
  · have hlower := toNat_toLower c
    rw [if_neg h] at hlower
    rw [Char.toNat_inj.mp hlower]

theorem stripChars_toLower (cs : List Char) :
    Text.stripChars Text.isSpace (cs.map Char.toLower) =
      (Text.stripChars Text.isSpace cs).map Char.toLower := by
  have hcomp : Text.isSpace ∘ Char.toLower = Text.isSpace := funext isSpace_toLower
  simp only [Text.stripChars, List.dropWhile_map, hcomp, ← List.map_reverse]

-- the tables restricted to ASCII
def ascii : UnicodeData where
  lower s := s.map Char.toLower
  isDigit := Char.isDigit
  decimal c := if c.isDigit then some (c.toNat - 48) else none
  lower_lower s := by
    rw [← String.toList_inj, String.toList_map, String.toList_map, List.map_map]
    exact List.map_congr_left fun c _ => toLower_toLower c
  lower_strip s := by
    rw [Text.strip_eq, Text.strip_eq, ← String.toList_inj]
    simp [stripChars_toLower]
  lower_ascii _ _ := rfl
  isDigit_ascii _ _ := rfl
  decimal_ascii c hc := by simp [hc]

end UnicodeData

inductive IpAddress where
  | v4 (bits : BitVec 32)
  | v6 (bits : BitVec 128) (scope : Option (List Char))
  deriving DecidableEq, Repr

namespace IpAddress

def readDigits (digit : Char → Option Nat) (base : Nat) : Nat → List Char → Option Nat
  | acc, [] => some acc
  | acc, c :: cs =>
    match digit c with
    | some d => readDigits digit base (acc * base + d) cs
    | none => none

def asciiDigit (c : Char) : Option Nat := if c.isDigit then some (c.toNat - 48) else none

def asciiHexDigit (c : Char) : Option Nat :=
  if c.isDigit then some (c.toNat - 48)
  else if 97 ≤ c.toNat ∧ c.toNat ≤ 102 then some (c.toNat - 87)
  else if 65 ≤ c.toNat ∧ c.toNat ≤ 70 then some (c.toNat - 55)
  else none

def parseOctet (cs : List Char) : Option Nat :=
  if cs = [] ∨ 3 < cs.length ∨ (cs ≠ ['0'] ∧ cs.head? = some '0') then none
  else (readDigits asciiDigit 10 0 cs).filter (· ≤ 255)

def parseV4 (cs : List Char) : Option (BitVec 32) :=
  match (cs.splitOn '.').mapM parseOctet with
  | some [a, b, c, d] => some (BitVec.ofNat 32 (((a * 256 + b) * 256 + c) * 256 + d))
  | _ => none

def parseHextet (cs : List Char) : Option Nat :=
  if cs = [] ∨ 4 < cs.length then none else readDigits asciiHexDigit 16 0 cs

def hexDigits (n : Nat) : List Char := Nat.toDigits 16 n

def unfoldV4 (parts : List (List Char)) : Option (List (List Char)) :=
  match parts.getLast? with
  | none => none
  | some last =>
    if '.' ∈ last then
      (parseV4 last).map (fun bits =>
        parts.dropLast ++ [hexDigits (bits.toNat / 65536), hexDigits (bits.toNat % 65536)])
    else some parts

def innerGaps (parts : List (List Char)) : List Nat :=
  (List.range parts.length).filter
    (fun i => 0 < i ∧ i + 1 < parts.length ∧ parts[i]? = some [])

def hextetsOf (parts : List (List Char)) : Option (List Nat) :=
  match innerGaps parts with
  | [] => if parts.length = 8 then parts.mapM parseHextet else none
  | [gap] =>
    let hi := parts.take gap
    let lo := parts.drop (gap + 1)
    let hi := if hi.head? = some [] then (if gap = 1 then some [] else none) else some hi
    let lo := if lo.getLast? = some [] then (if lo.length = 1 then some [] else none) else some lo
    match hi, lo with
    | some hi, some lo =>
      if hi.length + lo.length < 8 then
        match hi.mapM parseHextet, lo.mapM parseHextet with
        | some his, some los =>
          some (his ++ List.replicate (8 - (hi.length + lo.length)) 0 ++ los)
        | _, _ => none
      else none
    | _, _ => none
  | _ => none

def parseV6Bits (cs : List Char) : Option (BitVec 128) :=
  let parts := cs.splitOn ':'
  if parts.length < 3 then none
  else
    match unfoldV4 parts with
    | none => none
    | some parts =>
      if 9 < parts.length then none
      else (hextetsOf parts).map
        (fun hs => BitVec.ofNat 128 (hs.foldl (fun n h => n * 65536 + h) 0))

def parseV6 (cs : List Char) : Option IpAddress :=
  let address := cs.takeWhile (· ≠ '%')
  match cs.dropWhile (· ≠ '%') with
  | [] => if '/' ∈ cs then none else (parseV6Bits address).map (fun bits => .v6 bits none)
  | _ :: scope =>
    if '/' ∈ cs ∨ scope = [] ∨ '%' ∈ scope then none
    else (parseV6Bits address).map (fun bits => .v6 bits (some scope))

def ipAddress (cs : List Char) : Option IpAddress :=
  match parseV4 cs with
  | some bits => some (.v4 bits)
  | none => parseV6 cs

def ipv4Mapped (bits : BitVec 128) : Option (BitVec 32) :=
  if bits.toNat / 2 ^ 32 = 0xFFFF then some (bits.setWidth 32) else none

def hextets (bits : BitVec 128) : List Nat :=
  (List.range 8).map (fun i => bits.toNat / 65536 ^ (7 - i) % 65536)

def zeroRun (hs : List Nat) (i : Nat) : Nat := ((hs.drop i).takeWhile (· = 0)).length

def joinHextets (hs : List Nat) : List Char := [':'].intercalate (hs.map hexDigits)

def textV6 (hs : List Nat) : List Char :=
  let best := (List.range 8).foldl (fun b i => if zeroRun hs b < zeroRun hs i then i else b) 0
  if 1 < zeroRun hs best then
    joinHextets (hs.take best) ++ [':', ':'] ++ joinHextets (hs.drop (best + zeroRun hs best))
  else joinHextets hs

def text : IpAddress → String
  | .v4 bits =>
    String.ofList (['.'].intercalate ([24, 16, 8, 0].map
      (fun shift => Nat.toDigits 10 (bits.toNat / 2 ^ shift % 256))))
  | .v6 bits none => String.ofList (textV6 (hextets bits))
  | .v6 bits (some scope) => String.ofList (textV6 (hextets bits) ++ '%' :: scope)

def isLoopback : IpAddress → Bool
  | .v4 bits => bits.toNat / 2 ^ 24 = 127
  | .v6 bits _ => bits.toNat = 1

def isLinkLocal : IpAddress → Bool
  | .v4 bits => bits.toNat / 2 ^ 16 = 43518
  | .v6 bits _ => bits.toNat / 2 ^ 118 = 1018

def isUnspecified : IpAddress → Bool
  | .v4 bits => bits.toNat = 0
  | .v6 bits _ => bits.toNat = 0

def isMulticast : IpAddress → Bool
  | .v4 bits => bits.toNat / 2 ^ 28 = 14
  | .v6 bits _ => bits.toNat / 2 ^ 120 = 255

def reservedV6 : List (Nat × Nat) :=
  [(0, 8), (1, 8), (1, 7), (1, 6), (1, 5), (1, 4), (2, 3), (3, 3), (4, 3), (5, 3), (6, 3), (14, 4),
    (30, 5), (62, 6), (508, 9)]

def isReserved : IpAddress → Bool
  | .v4 bits => bits.toNat / 2 ^ 28 = 15
  | .v6 bits _ => reservedV6.any (fun n => bits.toNat / 2 ^ (128 - n.2) = n.1)

end IpAddress
