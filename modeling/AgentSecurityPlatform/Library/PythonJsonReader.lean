import AgentSecurityPlatform.Library.PythonJson

namespace PythonJson

def hexValue (c : Char) : Option Nat :=
  if c.isDigit then some (c.toNat - 48)
  else if 'a' ≤ c ∧ c ≤ 'f' then some (c.toNat - 87)
  else if 'A' ≤ c ∧ c ≤ 'F' then some (c.toNat - 55)
  else none

def readHex (a b c d : Char) : Option Nat :=
  match hexValue a, hexValue b, hexValue c, hexValue d with
  | some a, some b, some c, some d => some (0x1000 * a + 0x100 * b + 0x10 * c + d)
  | _, _, _, _ => none

def readShort : Char → Option CodePoint
  | '"' => some 34
  | '\\' => some 92
  | '/' => some 47
  | 'b' => some 8
  | 'f' => some 12
  | 'n' => some 10
  | 'r' => some 13
  | 't' => some 9
  | _ => none

def codePoint (n : Nat) : CodePoint := Fin.ofNat 0x110000 n

def joinSurrogates (high low : Nat) : CodePoint :=
  codePoint (0x10000 + (high - 0xd800) * 0x400 + (low - 0xdc00))

def readUnits : List Char → Option (Str × List Char)
  | '"' :: r => some ([], r)
  | '\\' :: 'u' :: a :: b :: c :: d :: r =>
    match readHex a b c d with
    | none => none
    | some n => (readUnits r).map (fun p => (codePoint n :: p.1, p.2))
  | '\\' :: c :: r =>
    match readShort c with
    | none => none
    | some short => (readUnits r).map (fun p => (short :: p.1, p.2))
  | c :: r =>
    if c.toNat < 32 then none
    else (readUnits r).map (fun p => (CodePoint.ofChar c :: p.1, p.2))
  | [] => none

-- an escaped high surrogate and the escaped low surrogate after it are one character
def joinPairs : Str → Str
  | high :: low :: r =>
    if CodePoint.isHighSurrogate high.val && CodePoint.isLowSurrogate low.val then
      joinSurrogates high.val low.val :: joinPairs r
    else high :: joinPairs (low :: r)
  | r => r

def readString (cs : List Char) : Option (Str × List Char) :=
  (readUnits cs).map (fun p => (joinPairs p.1, p.2))

def skip (cs : List Char) : List Char := cs.dropWhile isSpace

section Numbers

def readInteger (cs : List Char) : Int :=
  match cs with
  | '-' :: digits => -Int.ofNat (Nat.ofDigitChars 10 digits 0)
  | digits => Int.ofNat (Nat.ofDigitChars 10 digits 0)

variable (readFloat : List Char → Value)

def readNumber (cs : List Char) : Option (Value × List Char) :=
  (scanNumber cs).map (fun s =>
    if s.fraction ++ s.exponent = [] then (.int (readInteger s.integer), s.rest)
    else (readFloat (s.integer ++ s.fraction ++ s.exponent), s.rest))

-- a reader of floats that takes every text for the one its float is written as
def FloatText.read (cs : List Char) : Value :=
  match scanNumber cs with
  | none => .null
  | some s =>
    if h : scanNumber (s.integer ++ s.fraction ++ s.exponent) =
        some ⟨s.integer, s.fraction, s.exponent, []⟩ ∧ s.fraction ++ s.exponent ≠ [] then
      .float ⟨s.integer, s.fraction, s.exponent, h.1, h.2⟩
    else .null

end Numbers

-- a repeated key keeps its place and takes the later value
def putMember (k : Str) (x : Value) : List (Str × Value) → List (Str × Value)
  | [] => [(k, x)]
  | (j, y) :: ms => if j = k then (j, x) :: ms else (j, y) :: putMember k x ms

def dictOf (ms : List (Str × Value)) : List (Str × Value) :=
  ms.foldl (fun d m => putMember m.1 m.2 d) []

section Reading

variable (readFloat : List Char → Value)

mutual

def readValue : Nat → List Char → Option (Value × List Char)
  | 0, _ => none
  | fuel + 1, cs =>
    match cs with
    | '"' :: r => (readString r).map (fun p => (.str p.1, p.2))
    | '{' :: r =>
      match skip r with
      | '}' :: r => some (.object [], r)
      | r => (readMembers fuel r).map (fun p => (.object (dictOf p.1), p.2))
    | '[' :: r =>
      match skip r with
      | ']' :: r => some (.array [], r)
      | r => (readItems fuel r).map (fun p => (.array p.1, p.2))
    | 'n' :: 'u' :: 'l' :: 'l' :: r => some (.null, r)
    | 't' :: 'r' :: 'u' :: 'e' :: r => some (.bool true, r)
    | 'f' :: 'a' :: 'l' :: 's' :: 'e' :: r => some (.bool false, r)
    | 'N' :: 'a' :: 'N' :: r => some (.nan, r)
    | 'I' :: 'n' :: 'f' :: 'i' :: 'n' :: 'i' :: 't' :: 'y' :: r => some (.infinity false, r)
    | '-' :: 'I' :: 'n' :: 'f' :: 'i' :: 'n' :: 'i' :: 't' :: 'y' :: r => some (.infinity true, r)
    | cs => readNumber readFloat cs

def readItems : Nat → List Char → Option (List Value × List Char)
  | 0, _ => none
  | fuel + 1, cs =>
    match readValue fuel cs with
    | none => none
    | some (x, r) =>
      match skip r with
      | ']' :: r => some ([x], r)
      | ',' :: r => (readItems fuel (skip r)).map (fun p => (x :: p.1, p.2))
      | _ => none

def readMembers : Nat → List Char → Option (List (Str × Value) × List Char)
  | fuel + 1, '"' :: cs =>
    match readString cs with
    | none => none
    | some (k, r) =>
      match skip r with
      | ':' :: r =>
        match readValue fuel (skip r) with
        | none => none
        | some (x, r) =>
          match skip r with
          | '}' :: r => some ([(k, x)], r)
          | ',' :: r => (readMembers fuel (skip r)).map (fun p => ((k, x) :: p.1, p.2))
          | _ => none
      | _ => none
  | _, _ => none

end

def load (cs : List Char) : Option Value :=
  match readValue readFloat (cs.length + 1) (skip cs) with
  | none => none
  | some (v, r) => if skip r = [] then some v else none

def loads (text : String) : Option Value := load readFloat text.toList

end Reading

end PythonJson
