import AgentSecurityPlatform.Library.PythonJsonRoundTrip

namespace AgentSecurityPlatform

open PythonJson

inductive PythonValue where
  | none
  | bool (b : Bool)
  | int (n : Int)
  | float (t : FloatText)
  | nan
  | infinity (negative : Bool)
  | str (s : Str)
  | list (xs : List PythonValue)
  | tuple (xs : List PythonValue)
  | set (xs : List PythonValue)
  | frozenset (xs : List PythonValue)
  | dict (ms : List (Str × PythonValue))
  | mappingProxy (ms : List (Str × PythonValue))

namespace PythonValue

mutual

def deepFreeze : PythonValue → PythonValue
  | .dict ms => .mappingProxy (deepFreezeMembers ms)
  | .mappingProxy ms => .mappingProxy (deepFreezeMembers ms)
  | .list xs => .tuple (deepFreezeItems xs)
  | .tuple xs => .tuple (deepFreezeItems xs)
  | .set xs => .frozenset (deepFreezeItems xs)
  | .frozenset xs => .frozenset (deepFreezeItems xs)
  | .none => .none
  | .bool b => .bool b
  | .int n => .int n
  | .float t => .float t
  | .nan => .nan
  | .infinity negative => .infinity negative
  | .str s => .str s

def deepFreezeItems : List PythonValue → List PythonValue
  | [] => []
  | x :: xs => deepFreeze x :: deepFreezeItems xs

def deepFreezeMembers : List (Str × PythonValue) → List (Str × PythonValue)
  | [] => []
  | (k, x) :: ms => (k, deepFreeze x) :: deepFreezeMembers ms

end

mutual

def deepUnfreeze : PythonValue → PythonValue
  | .dict ms => .dict (deepUnfreezeMembers ms)
  | .mappingProxy ms => .dict (deepUnfreezeMembers ms)
  | .list xs => .list (deepUnfreezeItems xs)
  | .tuple xs => .list (deepUnfreezeItems xs)
  | .set xs => .list (deepUnfreezeItems xs)
  | .frozenset xs => .list (deepUnfreezeItems xs)
  | .none => .none
  | .bool b => .bool b
  | .int n => .int n
  | .float t => .float t
  | .nan => .nan
  | .infinity negative => .infinity negative
  | .str s => .str s

def deepUnfreezeItems : List PythonValue → List PythonValue
  | [] => []
  | x :: xs => deepUnfreeze x :: deepUnfreezeItems xs

def deepUnfreezeMembers : List (Str × PythonValue) → List (Str × PythonValue)
  | [] => []
  | (k, x) :: ms => (k, deepUnfreeze x) :: deepUnfreezeMembers ms

end

mutual

-- what json.dumps makes of an object; sets and mapping proxies are refused
def toJson : PythonValue → Option Value
  | .none => some .null
  | .bool b => some (.bool b)
  | .int n => some (.int n)
  | .float t => some (.float t)
  | .nan => some .nan
  | .infinity negative => some (.infinity negative)
  | .str s => some (.str s)
  | .list xs => (toJsonItems xs).map .array
  | .tuple xs => (toJsonItems xs).map .array
  | .dict ms => (toJsonMembers ms).map .object
  | .set _ => Option.none
  | .frozenset _ => Option.none
  | .mappingProxy _ => Option.none

def toJsonItems : List PythonValue → Option (List Value)
  | [] => some []
  | x :: xs =>
    match toJson x, toJsonItems xs with
    | some v, some vs => some (v :: vs)
    | _, _ => Option.none

def toJsonMembers : List (Str × PythonValue) → Option (List (Str × Value))
  | [] => some []
  | (k, x) :: ms =>
    match toJson x, toJsonMembers ms with
    | some v, some vs => some ((k, v) :: vs)
    | _, _ => Option.none

end

mutual

-- what json.loads returns
def ofJson : Value → PythonValue
  | .null => .none
  | .bool b => .bool b
  | .int n => .int n
  | .float t => .float t
  | .nan => .nan
  | .infinity negative => .infinity negative
  | .str s => .str s
  | .array xs => .list (ofJsonItems xs)
  | .object ms => .dict (ofJsonMembers ms)

def ofJsonItems : List Value → List PythonValue
  | [] => []
  | x :: xs => ofJson x :: ofJsonItems xs

def ofJsonMembers : List (Str × Value) → List (Str × PythonValue)
  | [] => []
  | (k, x) :: ms => (k, ofJson x) :: ofJsonMembers ms

end

mutual

theorem deepUnfreeze_deepFreeze : ∀ v : Value,
    deepUnfreeze (deepFreeze (ofJson v)) = ofJson v
  | .null => rfl
  | .bool _ => rfl
  | .int _ => rfl
  | .float _ => rfl
  | .nan => rfl
  | .infinity _ => rfl
  | .str _ => rfl
  | .array xs => by
    simp only [ofJson, deepFreeze, deepUnfreeze, deepUnfreezeItems_deepFreezeItems xs]
  | .object ms => by
    simp only [ofJson, deepFreeze, deepUnfreeze, deepUnfreezeMembers_deepFreezeMembers ms]

theorem deepUnfreezeItems_deepFreezeItems : ∀ xs : List Value,
    deepUnfreezeItems (deepFreezeItems (ofJsonItems xs)) = ofJsonItems xs
  | [] => rfl
  | x :: xs => by
    simp only [ofJsonItems, deepFreezeItems, deepUnfreezeItems, deepUnfreeze_deepFreeze x,
      deepUnfreezeItems_deepFreezeItems xs]

theorem deepUnfreezeMembers_deepFreezeMembers : ∀ ms : List (Str × Value),
    deepUnfreezeMembers (deepFreezeMembers (ofJsonMembers ms)) = ofJsonMembers ms
  | [] => rfl
  | (k, x) :: ms => by
    simp only [ofJsonMembers, deepFreezeMembers, deepUnfreezeMembers, deepUnfreeze_deepFreeze x,
      deepUnfreezeMembers_deepFreezeMembers ms]

end

mutual

theorem toJson_ofJson : ∀ v : Value, toJson (ofJson v) = some v
  | .null => rfl
  | .bool _ => rfl
  | .int _ => rfl
  | .float _ => rfl
  | .nan => rfl
  | .infinity _ => rfl
  | .str _ => rfl
  | .array xs => by simp only [ofJson, toJson, toJsonItems_ofJsonItems xs, Option.map_some]
  | .object ms => by simp only [ofJson, toJson, toJsonMembers_ofJsonMembers ms, Option.map_some]

theorem toJsonItems_ofJsonItems : ∀ xs : List Value, toJsonItems (ofJsonItems xs) = some xs
  | [] => rfl
  | x :: xs => by
    simp only [ofJsonItems, toJsonItems, toJson_ofJson x, toJsonItems_ofJsonItems xs]

theorem toJsonMembers_ofJsonMembers : ∀ ms : List (Str × Value),
    toJsonMembers (ofJsonMembers ms) = some ms
  | [] => rfl
  | (k, x) :: ms => by
    simp only [ofJsonMembers, toJsonMembers, toJson_ofJson x, toJsonMembers_ofJsonMembers ms]

end

end PythonValue

end AgentSecurityPlatform
