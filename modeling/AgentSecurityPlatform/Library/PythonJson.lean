import Mathlib

namespace PythonJson

-- a string of the language: code points, the surrogates included
abbrev CodePoint := Fin 0x110000

namespace CodePoint

def ofChar (c : Char) : CodePoint :=
  ⟨c.toNat, by
    have hvalid := c.valid
    simp only [UInt32.isValidChar, Nat.isValidChar] at hvalid
    change c.val.toNat < 0x110000
    omega⟩

def isHighSurrogate (n : Nat) : Bool := 0xd800 ≤ n && n ≤ 0xdbff

def isLowSurrogate (n : Nat) : Bool := 0xdc00 ≤ n && n ≤ 0xdfff

def toChar? (c : CodePoint) : Option Char :=
  if h : c.val.isValidChar then some (Char.ofNatAux c.val h) else none

end CodePoint

abbrev Str := List CodePoint

def Str.ofString (s : String) : Str := s.toList.map CodePoint.ofChar

-- str.encode("utf-8"), the text itself standing for its bytes; a lone surrogate is refused
def Str.encodeUtf8 (s : Str) : Option String := (s.mapM CodePoint.toChar?).map String.ofList

-- the characters of a string, a lone surrogate left out
def Str.text (s : Str) : String := String.ofList (s.filterMap CodePoint.toChar?)

theorem toChar?_ofChar (c : Char) : (CodePoint.ofChar c).toChar? = some c := by
  have hvalid : (CodePoint.ofChar c).val.isValidChar := c.valid
  rw [CodePoint.toChar?, dif_pos hvalid]
  rfl

theorem ofChar_of_toChar? {p : CodePoint} {c : Char} (h : p.toChar? = some c) :
    CodePoint.ofChar c = p := by
  simp only [CodePoint.toChar?] at h
  split at h
  · rename_i hvalid
    cases h
    exact Fin.ext rfl
  · cases h

theorem mapM_toChar?_eq_some {s : Str} {cs : List Char} :
    s.mapM CodePoint.toChar? = some cs ↔ s = cs.map CodePoint.ofChar := by
  constructor
  · intro h
    induction s generalizing cs with
    | nil =>
      cases h
      rfl
    | cons p s ih =>
      rw [List.mapM_cons] at h
      obtain ⟨c, hc, h⟩ := Option.bind_eq_some_iff.mp h
      obtain ⟨ds, hds, h⟩ := Option.bind_eq_some_iff.mp h
      cases h
      rw [List.map_cons, ofChar_of_toChar? hc, ← ih hds]
  · rintro rfl
    induction cs with
    | nil => rfl
    | cons c cs ih => simp [List.mapM_cons, toChar?_ofChar, ih]

theorem Str.encodeUtf8_eq_some {s : Str} {text : String} :
    s.encodeUtf8 = some text ↔ s = text.toList.map CodePoint.ofChar := by
  rw [Str.encodeUtf8, Option.map_eq_some_iff, ← mapM_toChar?_eq_some]
  constructor
  · rintro ⟨cs, hcs, rfl⟩
    rwa [String.toList_ofList]
  · intro h
    exact ⟨text.toList, h, String.ofList_toList⟩

theorem Str.encodeUtf8_ofString (text : String) : (Str.ofString text).encodeUtf8 = some text :=
  Str.encodeUtf8_eq_some.mpr rfl

theorem Str.ofString_injective : Function.Injective Str.ofString := by
  intro s t h
  have hencoded := congrArg Str.encodeUtf8 h
  rw [Str.encodeUtf8_ofString, Str.encodeUtf8_ofString] at hencoded
  exact Option.some.inj hencoded

def hexDigit (n : Nat) : Char := if n < 10 then Char.ofNat (48 + n) else Char.ofNat (87 + n)

def unicodeEscape (n : Nat) : List Char :=
  ['\\', 'u', hexDigit (n / 0x1000 % 16), hexDigit (n / 0x100 % 16), hexDigit (n / 0x10 % 16),
    hexDigit (n % 16)]

def shortEscape (n : Nat) : Option Char :=
  if n = 34 then some '"'
  else if n = 92 then some '\\'
  else if n = 10 then some 'n'
  else if n = 13 then some 'r'
  else if n = 9 then some 't'
  else if n = 12 then some 'f'
  else if n = 8 then some 'b'
  else none

-- ensure_ascii=True
def escapeAscii (c : CodePoint) : List Char :=
  match shortEscape c.val with
  | some letter => ['\\', letter]
  | none =>
    if 32 ≤ c.val ∧ c.val ≤ 126 then [Char.ofNat c.val]
    else if c.val < 0x10000 then unicodeEscape c.val
    else unicodeEscape (0xd800 + (c.val - 0x10000) / 0x400) ++
      unicodeEscape (0xdc00 + (c.val - 0x10000) % 0x400)

-- ensure_ascii=False
def escapeRaw (c : CodePoint) : List CodePoint :=
  match shortEscape c.val with
  | some letter => [.ofChar '\\', .ofChar letter]
  | none => if c.val < 32 then (unicodeEscape c.val).map .ofChar else [c]

section Numbers

def scanInteger : List Char → Option (List Char × List Char)
  | '0' :: r => some (['0'], r)
  | c :: r =>
    if c.isDigit then some (c :: r.takeWhile Char.isDigit, r.dropWhile Char.isDigit) else none
  | [] => none

def scanSigned : List Char → Option (List Char × List Char)
  | '-' :: r => (scanInteger r).map (fun p => ('-' :: p.1, p.2))
  | r => scanInteger r

def scanFraction : List Char → List Char × List Char
  | '.' :: c :: r =>
    if c.isDigit then ('.' :: c :: r.takeWhile Char.isDigit, r.dropWhile Char.isDigit)
    else ([], '.' :: c :: r)
  | r => ([], r)

def scanSign : List Char → List Char × List Char
  | '+' :: r => (['+'], r)
  | '-' :: r => (['-'], r)
  | r => ([], r)

def scanExponent : List Char → List Char × List Char
  | c :: r =>
    if c = 'e' ∨ c = 'E' then
      let (sign, digits) := scanSign r
      if digits.takeWhile Char.isDigit = [] then ([], c :: r)
      else (c :: sign ++ digits.takeWhile Char.isDigit, digits.dropWhile Char.isDigit)
    else ([], c :: r)
  | [] => ([], [])

structure Scanned where
  integer : List Char
  fraction : List Char
  exponent : List Char
  rest : List Char
  deriving DecidableEq

def scanNumber (cs : List Char) : Option Scanned :=
  (scanSigned cs).map (fun p =>
    let q := scanFraction p.2
    let e := scanExponent q.2
    ⟨p.1, q.1, e.1, e.2⟩)

end Numbers

-- the text of a finite float: a number with a fraction or an exponent
structure FloatText where
  integer : List Char
  fraction : List Char
  exponent : List Char
  scanned : scanNumber (integer ++ fraction ++ exponent) = some ⟨integer, fraction, exponent, []⟩
  float : fraction ++ exponent ≠ []
  deriving DecidableEq

def FloatText.text (t : FloatText) : List Char := t.integer ++ t.fraction ++ t.exponent

inductive Value where
  | null
  | bool (b : Bool)
  | int (n : Int)
  | float (t : FloatText)
  | nan
  | infinity (negative : Bool)
  | str (s : Str)
  | array (xs : List Value)
  | object (ms : List (Str × Value))

-- a dict literal
def keyed (ms : List (String × Value)) : Value := .object (ms.map (fun m => (.ofString m.1, m.2)))

def isSpace (c : Char) : Bool := c = ' ' || c = '\t' || c = '\n' || c = '\r'

structure Separators where
  item : List Char
  key : List Char
  itemSpace : ∃ space, item = ',' :: space ∧ ∀ c ∈ space, isSpace c = true
  keySpace : ∃ space, key = ':' :: space ∧ ∀ c ∈ space, isSpace c = true

def Separators.compact : Separators where
  item := [',']
  key := [':']
  itemSpace := ⟨[], rfl, nofun⟩
  keySpace := ⟨[], rfl, nofun⟩

def Separators.standard : Separators where
  item := [',', ' ']
  key := [':', ' ']
  itemSpace := ⟨[' '], rfl, by simp [isSpace]⟩
  keySpace := ⟨[' '], rfl, by simp [isSpace]⟩

section Rendering

variable {α : Type} (literal : Char → α) (escape : CodePoint → List α) (seps : Separators)

def quoteBody : Str → List α
  | [] => [literal '"']
  | c :: cs => escape c ++ quoteBody cs

def quote (s : Str) : List α := literal '"' :: quoteBody literal escape s

mutual

def renderWith : Value → List α
  | .null => ['n', 'u', 'l', 'l'].map literal
  | .bool true => ['t', 'r', 'u', 'e'].map literal
  | .bool false => ['f', 'a', 'l', 's', 'e'].map literal
  | .int n => n.repr.toList.map literal
  | .float t => t.text.map literal
  | .nan => ['N', 'a', 'N'].map literal
  | .infinity false => ['I', 'n', 'f', 'i', 'n', 'i', 't', 'y'].map literal
  | .infinity true => ['-', 'I', 'n', 'f', 'i', 'n', 'i', 't', 'y'].map literal
  | .str s => quote literal escape s
  | .array [] => ['[', ']'].map literal
  | .array (x :: xs) => literal '[' :: (renderWith x ++ renderItems xs)
  | .object [] => ['{', '}'].map literal
  | .object ((k, x) :: ms) =>
    literal '{' :: (quote literal escape k ++ seps.key.map literal ++ renderWith x ++
      renderMembers ms)

def renderItems : List Value → List α
  | [] => [literal ']']
  | x :: xs => seps.item.map literal ++ renderWith x ++ renderItems xs

def renderMembers : List (Str × Value) → List α
  | [] => [literal '}']
  | (k, x) :: ms =>
    seps.item.map literal ++ quote literal escape k ++ seps.key.map literal ++ renderWith x ++
      renderMembers ms

end

end Rendering

def render (seps : Separators) (v : Value) : List Char := renderWith id escapeAscii seps v

-- json.dumps with ensure_ascii=False
def renderRaw (seps : Separators) (v : Value) : Str :=
  renderWith CodePoint.ofChar escapeRaw seps v

-- json.dumps
def dumps (seps : Separators) (v : Value) : String := String.ofList (render seps v)

mutual

-- json.dumps with sort_keys=True
def sorted : Value → Value
  | .array xs => .array (sortedItems xs)
  | .object ms => .object ((sortedMembers ms).insertionSort (fun m n => m.1 ≤ n.1))
  | v => v

def sortedItems : List Value → List Value
  | [] => []
  | x :: xs => sorted x :: sortedItems xs

def sortedMembers : List (Str × Value) → List (Str × Value)
  | [] => []
  | (k, x) :: ms => (k, sorted x) :: sortedMembers ms

end

mutual

-- what json.dumps accepts with allow_nan=False
def finite : Value → Bool
  | .nan => false
  | .infinity _ => false
  | .array xs => finiteItems xs
  | .object ms => finiteMembers ms
  | _ => true

def finiteItems : List Value → Bool
  | [] => true
  | x :: xs => finite x && finiteItems xs

def finiteMembers : List (Str × Value) → Bool
  | [] => true
  | (_, x) :: ms => finite x && finiteMembers ms

end

end PythonJson
