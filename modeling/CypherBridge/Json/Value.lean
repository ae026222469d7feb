import CypherBridge.Number.Binary64

/-!
# JSON values

Numbers keep apart integers and binary64 numbers. An object is a list of members; the
operations keep it in ascending order of the keys, each key once, and `Value.Sorted` says
that every object inside a value is of this form.
-/

namespace CypherBridge.Json

inductive Number where
  | integer (n : Int)
  | float (x : Binary64)
  deriving DecidableEq, Repr

inductive Value where
  | null
  | bool (b : Bool)
  | number (n : Number)
  | string (s : String)
  | array (items : List Value)
  | object (members : List (String × Value))
  deriving Repr, Inhabited

abbrev Object := List (String × Value)

def minInteger : Int := -9223372036854775808

def maxInteger : Int := 9223372036854775807

def maxUnsigned : Int := 18446744073709551615

namespace Number

/-- The integers a document can hold: those of 64 bits, signed or unsigned. -/
def InRange : Number → Prop
  | .integer n => minInteger ≤ n ∧ n ≤ maxUnsigned
  | .float x => x.isFinite = true

def same : Number → Number → Bool
  | .integer a, .integer b => a == b
  | .float x, .float y => x.sameNumber y
  | _, _ => false

end Number

mutual

def Value.decEq : (a b : Value) → Decidable (a = b)
  | .null, .null => isTrue rfl
  | .bool a, .bool b => if h : a = b then isTrue (by rw [h]) else isFalse (by simpa using h)
  | .number a, .number b =>
      if h : a = b then isTrue (by rw [h]) else isFalse (by simpa using h)
  | .string a, .string b =>
      if h : a = b then isTrue (by rw [h]) else isFalse (by simpa using h)
  | .array a, .array b =>
      match Value.decEqItems a b with
      | isTrue h => isTrue (by rw [h])
      | isFalse h => isFalse (by simpa using h)
  | .object a, .object b =>
      match Value.decEqMembers a b with
      | isTrue h => isTrue (by rw [h])
      | isFalse h => isFalse (by simpa using h)
  | .null, .bool _ | .null, .number _ | .null, .string _ | .null, .array _
  | .null, .object _ | .bool _, .null | .bool _, .number _ | .bool _, .string _
  | .bool _, .array _ | .bool _, .object _ | .number _, .null | .number _, .bool _
  | .number _, .string _ | .number _, .array _ | .number _, .object _
  | .string _, .null | .string _, .bool _ | .string _, .number _ | .string _, .array _
  | .string _, .object _ | .array _, .null | .array _, .bool _ | .array _, .number _
  | .array _, .string _ | .array _, .object _ | .object _, .null | .object _, .bool _
  | .object _, .number _ | .object _, .string _ | .object _, .array _ =>
      isFalse (by simp)

def Value.decEqItems : (a b : List Value) → Decidable (a = b)
  | [], [] => isTrue rfl
  | [], _ :: _ | _ :: _, [] => isFalse (by simp)
  | v :: a, w :: b =>
      match Value.decEq v w, Value.decEqItems a b with
      | isTrue h, isTrue h' => isTrue (by rw [h, h'])
      | isFalse h, _ => isFalse (by simp [h])
      | _, isFalse h => isFalse (by simp [h])

def Value.decEqMembers : (a b : List (String × Value)) → Decidable (a = b)
  | [], [] => isTrue rfl
  | [], _ :: _ | _ :: _, [] => isFalse (by simp)
  | (k, v) :: a, (l, w) :: b =>
      if hk : k = l then
        match Value.decEq v w, Value.decEqMembers a b with
        | isTrue h, isTrue h' => isTrue (by rw [hk, h, h'])
        | isFalse h, _ => isFalse (by simp [h])
        | _, isFalse h => isFalse (by simp [h])
      else isFalse (by simp [hk])

end

instance : DecidableEq Value := Value.decEq

mutual

/-- Equality in which floating-point numbers count by their value. -/
def Value.same : Value → Value → Bool
  | .null, .null => true
  | .bool a, .bool b => a == b
  | .number a, .number b => a.same b
  | .string a, .string b => a == b
  | .array a, .array b => Value.sameItems a b
  | .object a, .object b => Value.sameMembers a b
  | _, _ => false

def Value.sameItems : List Value → List Value → Bool
  | [], [] => true
  | v :: a, w :: b => Value.same v w && Value.sameItems a b
  | _, _ => false

def Value.sameMembers : List (String × Value) → List (String × Value) → Bool
  | [], [] => true
  | (k, v) :: a, (l, w) :: b => k == l && Value.same v w && Value.sameMembers a b
  | _, _ => false

end

namespace Object

def keys (o : Object) : List String := o.map Prod.fst

def find? (o : Object) (key : String) : Option Value := o.lookup key

/-- Puts a member at its place; a member of the same key is replaced. -/
def insert (key : String) (value : Value) : Object → Object
  | [] => [(key, value)]
  | (k, v) :: rest =>
      if key < k then (key, value) :: (k, v) :: rest
      else if key = k then (key, value) :: rest
      else (k, v) :: insert key value rest

def ofList (members : List (String × Value)) : Object :=
  members.foldl (fun o m => insert m.1 m.2 o) []

def Ascending (o : Object) : Prop := o.keys.Pairwise (· < ·)

end Object

namespace Value

def ofInt (n : Int) : Value := .number (.integer n)

def ofNat (n : Nat) : Value := .number (.integer n)

/-- JSON has no infinity and no NaN; they become null. -/
def ofFloat (x : Binary64) : Value :=
  if x.isFinite then .number (.float x) else .null

def ofMembers (members : List (String × Value)) : Value := .object (Object.ofList members)

end Value

mutual

def Value.Sorted : Value → Prop
  | .null | .bool _ | .number _ | .string _ => True
  | .array items => Value.SortedItems items
  | .object members => Object.Ascending members ∧ Value.SortedMembers members

def Value.SortedItems : List Value → Prop
  | [] => True
  | v :: items => Value.Sorted v ∧ Value.SortedItems items

def Value.SortedMembers : List (String × Value) → Prop
  | [] => True
  | (_, v) :: members => Value.Sorted v ∧ Value.SortedMembers members

end

mutual

def Value.depth : Value → Nat
  | .null | .bool _ | .number _ | .string _ => 0
  | .array items => Value.depthItems items + 1
  | .object members => Value.depthMembers members + 1

def Value.depthItems : List Value → Nat
  | [] => 0
  | v :: items => max (Value.depth v) (Value.depthItems items)

def Value.depthMembers : List (String × Value) → Nat
  | [] => 0
  | (_, v) :: members => max (Value.depth v) (Value.depthMembers members)

end

mutual

def Value.AllNumbers (p : Number → Prop) : Value → Prop
  | .null | .bool _ | .string _ => True
  | .number n => p n
  | .array items => Value.AllNumbersItems p items
  | .object members => Value.AllNumbersMembers p members

def Value.AllNumbersItems (p : Number → Prop) : List Value → Prop
  | [] => True
  | v :: items => Value.AllNumbers p v ∧ Value.AllNumbersItems p items

def Value.AllNumbersMembers (p : Number → Prop) : List (String × Value) → Prop
  | [] => True
  | (_, v) :: members => Value.AllNumbers p v ∧ Value.AllNumbersMembers p members

end

end CypherBridge.Json
