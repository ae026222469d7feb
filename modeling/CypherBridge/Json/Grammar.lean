import CypherBridge.Json.Reader.Number
import CypherBridge.Json.Reader.String

/-!
# The grammar of JSON

Which texts are JSON documents, said without a reader: a document is a tree of tokens, and every
relation here holds between a text and a rest of it if the text in front of the rest spells a
part of the tree. What a tree means is another matter: a tree has a value unless a number in it
is out of range or half of a surrogate pair is missing.
-/

namespace CypherBridge.Json

inductive Blanks : List Char → List Char → Prop
  | none (rest : List Char) : Blanks rest rest
  | blank {c : Char} {cs rest : List Char} (h : Cursor.isBlank c = true) (more : Blanks cs rest) :
      Blanks (c :: cs) rest

/-- A character of a string, or a code unit of 16 bits that is written in digits. -/
inductive StringUnit where
  | char (c : Char)
  | code (n : Nat)

namespace StringUnit

inductive Spelled : StringUnit → List Char → List Char → Prop
  | plain {c : Char} {rest : List Char} (quote : c ≠ '"') (backslash : c ≠ '\\')
      (control : 0x20 ≤ c.toNat) : Spelled (.char c) (c :: rest) rest
  | escape {e c : Char} {rest : List Char} (h : escaped? e = some c) :
      Spelled (.char c) ('\\' :: e :: rest) rest
  | code {a b c d : Char} {i j k l : Nat} {rest : List Char} (first : hexValue? a = some i)
      (second : hexValue? b = some j) (third : hexValue? c = some k)
      (fourth : hexValue? d = some l) :
      Spelled (.code (((i * 16 + j) * 16 + k) * 16 + l))
        ('\\' :: 'u' :: a :: b :: c :: d :: rest) rest

inductive AllSpelled : List StringUnit → List Char → List Char → Prop
  | nil (rest : List Char) : AllSpelled [] rest rest
  | cons {u : StringUnit} {units : List StringUnit} {cs between rest : List Char}
      (first : u.Spelled cs between) (others : AllSpelled units between rest) :
      AllSpelled (u :: units) cs rest

def characters? : List StringUnit → Option (List Char)
  | [] => some []
  | .char c :: units => (characters? units).map (c :: ·)
  | .code n :: units =>
      if isTrailingSurrogate n then none
      else if isLeadingSurrogate n then
        match units with
        | .code m :: units =>
            if isTrailingSurrogate m then (characters? units).map (surrogatePair n m :: ·)
            else none
        | _ => none
      else (characters? units).map (Char.ofNat n :: ·)

theorem characters?_code {n : Nat} (trailing : ¬ isTrailingSurrogate n)
    (leading : ¬ isLeadingSurrogate n) (units : List StringUnit) :
    characters? (.code n :: units) = (characters? units).map (Char.ofNat n :: ·) := by
  rw [characters?.eq_def]
  simp only [if_neg trailing, if_neg leading]

theorem characters?_pair {n m : Nat} (trailing : ¬ isTrailingSurrogate n)
    (leading : isLeadingSurrogate n) (trailing' : isTrailingSurrogate m)
    (units : List StringUnit) : characters? (.code n :: .code m :: units) =
      (characters? units).map (surrogatePair n m :: ·) := by
  rw [characters?.eq_def]
  simp only [if_neg trailing, if_pos leading, if_pos trailing']

def text? (units : List StringUnit) : Option String := (characters? units).map String.ofList

end StringUnit

structure Digits (digits cs rest : List Char) : Prop where
  some : digits ≠ []
  all : ∀ d ∈ digits, d.isDigit = true
  text : cs = digits ++ rest

namespace NumberToken

inductive SpelledSign : Bool → List Char → List Char → Prop
  | minus (rest : List Char) : SpelledSign true ('-' :: rest) rest
  | none (rest : List Char) : SpelledSign false rest rest

inductive SpelledWhole : List Char → List Char → List Char → Prop
  | zero (rest : List Char) : SpelledWhole ['0'] ('0' :: rest) rest
  | digits {d : Char} {ds cs rest : List Char} (lead : d ≠ '0') (h : Digits (d :: ds) cs rest) :
      SpelledWhole (d :: ds) cs rest

inductive SpelledFraction : Option (List Char) → List Char → List Char → Prop
  | none (rest : List Char) : SpelledFraction none rest rest
  | digits {ds cs rest : List Char} (h : Digits ds cs rest) :
      SpelledFraction (some ds) ('.' :: cs) rest

inductive SpelledExponent : Option ExponentPart → List Char → List Char → Prop
  | none (rest : List Char) : SpelledExponent none rest rest
  | plain {e : Char} {ds cs rest : List Char} (mark : e = 'e' ∨ e = 'E') (h : Digits ds cs rest) :
      SpelledExponent (some ⟨false, ds⟩) (e :: cs) rest
  | plus {e : Char} {ds cs rest : List Char} (mark : e = 'e' ∨ e = 'E') (h : Digits ds cs rest) :
      SpelledExponent (some ⟨false, ds⟩) (e :: '+' :: cs) rest
  | minus {e : Char} {ds cs rest : List Char} (mark : e = 'e' ∨ e = 'E') (h : Digits ds cs rest) :
      SpelledExponent (some ⟨true, ds⟩) (e :: '-' :: cs) rest

inductive Spelled : NumberToken → List Char → List Char → Prop
  | mk {negative : Bool} {whole : List Char} {fraction : Option (List Char)}
      {exponent : Option ExponentPart} {cs cs₁ cs₂ cs₃ rest : List Char}
      (sign : SpelledSign negative cs cs₁) (integer : SpelledWhole whole cs₁ cs₂)
      (decimals : SpelledFraction fraction cs₂ cs₃) (power : SpelledExponent exponent cs₃ rest) :
      Spelled ⟨negative, whole, fraction, exponent⟩ cs rest

def number? (t : NumberToken) : Option Number :=
  match t.integer? with
  | some n => some (.integer n)
  | none => t.float?.toOption.map .float

end NumberToken

inductive Tree where
  | null
  | bool (b : Bool)
  | number (token : NumberToken)
  | string (units : List StringUnit)
  | array (items : List Tree)
  | object (members : List (List StringUnit × Tree))

/-- In front of the first item or member stand blanks, and in front of another one a comma
among blanks. -/
inductive Lead : Bool → List Char → List Char → Prop
  | first {cs rest : List Char} (h : Blanks cs rest) : Lead true cs rest
  | another {cs behind rest : List Char} (before : Blanks cs (',' :: behind))
      (after : Blanks behind rest) : Lead false cs rest

namespace Tree

mutual

inductive Spelled : Tree → List Char → List Char → Prop
  | null (rest : List Char) : Spelled .null ('n' :: 'u' :: 'l' :: 'l' :: rest) rest
  | true (rest : List Char) : Spelled (.bool true) ('t' :: 'r' :: 'u' :: 'e' :: rest) rest
  | false (rest : List Char) : Spelled (.bool false) ('f' :: 'a' :: 'l' :: 's' :: 'e' :: rest) rest
  | number {t : NumberToken} {cs rest : List Char} (h : t.Spelled cs rest) :
      Spelled (.number t) cs rest
  | string {units : List StringUnit} {cs rest : List Char}
      (h : StringUnit.AllSpelled units cs ('"' :: rest)) : Spelled (.string units) ('"' :: cs) rest
  | array {items : List Tree} {cs rest : List Char} (h : SpelledItems true items cs rest) :
      Spelled (.array items) ('[' :: cs) rest
  | object {members : List (List StringUnit × Tree)} {cs rest : List Char}
      (h : SpelledMembers true members cs rest) : Spelled (.object members) ('{' :: cs) rest

/-- The items up to the closing bracket, from the first one on or behind another. -/
inductive SpelledItems : Bool → List Tree → List Char → List Char → Prop
  | closed {first : Bool} {cs rest : List Char} (h : Blanks cs (']' :: rest)) :
      SpelledItems first [] cs rest
  | item {first : Bool} {t : Tree} {items : List Tree} {cs cs₁ cs₂ rest : List Char}
      (lead : Lead first cs cs₁) (h : Spelled t cs₁ cs₂)
      (others : SpelledItems false items cs₂ rest) : SpelledItems first (t :: items) cs rest

inductive SpelledMembers : Bool → List (List StringUnit × Tree) → List Char → List Char → Prop
  | closed {first : Bool} {cs rest : List Char} (h : Blanks cs ('}' :: rest)) :
      SpelledMembers first [] cs rest
  | member {first : Bool} {key : List StringUnit} {t : Tree}
      {members : List (List StringUnit × Tree)} {cs cs₁ cs₂ cs₃ cs₄ cs₅ rest : List Char}
      (lead : Lead first cs ('"' :: cs₁)) (name : StringUnit.AllSpelled key cs₁ ('"' :: cs₂))
      (before : Blanks cs₂ (':' :: cs₃)) (after : Blanks cs₃ cs₄) (h : Spelled t cs₄ cs₅)
      (others : SpelledMembers false members cs₅ rest) :
      SpelledMembers first ((key, t) :: members) cs rest

end

def IsWritten (t : Tree) (text : String) : Prop :=
  ∃ cs rest, Blanks text.toList cs ∧ t.Spelled cs rest ∧ Blanks rest []

/-! ## Meaning -/

mutual

def depth : Tree → Nat
  | .null | .bool _ | .number _ | .string _ => 0
  | .array items => depthItems items + 1
  | .object members => depthMembers members + 1

def depthItems : List Tree → Nat
  | [] => 0
  | t :: items => max (depth t) (depthItems items)

def depthMembers : List (List StringUnit × Tree) → Nat
  | [] => 0
  | (_, t) :: members => max (depth t) (depthMembers members)

end

mutual

/-- The value of a tree. Of members with one key the last is kept. -/
def value? : Tree → Option Value
  | .null => some .null
  | .bool b => some (.bool b)
  | .number t => t.number?.map .number
  | .string units => (StringUnit.text? units).map .string
  | .array items => (items? items).map .array
  | .object members => (members? members).map .ofMembers

def items? : List Tree → Option (List Value)
  | [] => some []
  | t :: items => do return (← value? t) :: (← items? items)

def members? : List (List StringUnit × Tree) → Option (List (String × Value))
  | [] => some []
  | (key, t) :: members => do
      return (← StringUnit.text? key, ← value? t) :: (← members? members)

end

theorem exists_of_items? {t : Tree} {items : List Tree} {values : List Value}
    (h : items? (t :: items) = some values) : ∃ v others, t.value? = some v ∧
      items? items = some others ∧ values = v :: others := by
  rw [items?] at h
  obtain ⟨v, hv, h⟩ := Option.bind_eq_some_iff.1 h
  obtain ⟨others, hothers, h⟩ := Option.bind_eq_some_iff.1 h
  exact ⟨v, others, hv, hothers, (Option.some.inj h).symm⟩

theorem exists_of_members? {units : List StringUnit} {t : Tree}
    {members : List (List StringUnit × Tree)} {values : List (String × Value)}
    (h : members? ((units, t) :: members) = some values) :
    ∃ key v others, StringUnit.text? units = some key ∧ t.value? = some v ∧
      members? members = some others ∧ values = (key, v) :: others := by
  rw [members?] at h
  obtain ⟨key, hkey, h⟩ := Option.bind_eq_some_iff.1 h
  obtain ⟨v, hv, h⟩ := Option.bind_eq_some_iff.1 h
  obtain ⟨others, hothers, h⟩ := Option.bind_eq_some_iff.1 h
  exact ⟨key, v, others, hkey, hv, hothers, (Option.some.inj h).symm⟩

end Tree

end CypherBridge.Json
