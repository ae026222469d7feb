import CypherBridge.Proofs.Query.Lexemes

/-!
# Words of a name

A name has letters, digits and underscores of any script.  Its bytes are text at the top level, and
its lexemes are the words of ASCII bytes in it and the single bytes of the other characters.  A
word can be a keyword wherever it stands in the name, but for the front of a name behind a dot.
-/

namespace CypherBridge.Query

def isNameByte (b : UInt8) : Bool := isWordPart b || 0x80 ≤ b

theorem isNameByte_iff {b : UInt8} : isNameByte b = true ↔
    (0x30 ≤ b.toNat ∧ b.toNat ≤ 0x39) ∨ (0x41 ≤ b.toNat ∧ b.toNat ≤ 0x5A) ∨
      (0x61 ≤ b.toNat ∧ b.toNat ≤ 0x7A) ∨ b.toNat = 0x5F ∨ 0x80 ≤ b.toNat := by
  simp [isNameByte, isWordPart, UInt8.le_iff_toNat_le, ← UInt8.toNat_inj, or_assoc]

theorem ne_of_nameByte {b c : UInt8} (hb : isNameByte b = true) (hc : isNameByte c = false) :
    b ≠ c := by
  rintro rfl
  rw [hb] at hc
  cases hc

theorem Nesting.step_of_nameByte {b : UInt8} (h : isNameByte b = true) :
    Nesting.start.step b = .start ∧ Nesting.start.isTop b = true := by
  have hquote : isQuote b = false := by
    simp [isQuote, ne_of_nameByte h (c := 0x27) (by decide), ne_of_nameByte h (c := 0x22) (by decide),
      ne_of_nameByte h (c := backtick) (by decide)]
  have hopening : isOpening b = false := by
    simp [isOpening, ne_of_nameByte h (c := 0x28) (by decide),
      ne_of_nameByte h (c := 0x5B) (by decide), ne_of_nameByte h (c := 0x7B) (by decide)]
  have hclosing : isClosing b = false := by
    simp [isClosing, ne_of_nameByte h (c := 0x29) (by decide),
      ne_of_nameByte h (c := 0x5D) (by decide), ne_of_nameByte h (c := 0x7D) (by decide)]
  simp [step, isTop, start, Quoting.step, hquote, hopening, hclosing]

theorem marks_of_name {bs : List UInt8} (h : ∀ b ∈ bs, isNameByte b = true) :
    marks .start bs = bs.map (Mark.mk · true) ∧ Nesting.start.run bs = .start := by
  induction bs with
  | nil => exact ⟨rfl, rfl⟩
  | cons b bs ih =>
      obtain ⟨hstep, htop⟩ := Nesting.step_of_nameByte (h b List.mem_cons_self)
      obtain ⟨hmarks, hrun⟩ := ih fun b hb => h b (List.mem_cons_of_mem _ hb)
      have hrun' : Nesting.start.run (b :: bs) = (Nesting.start.step b).run bs := rfl
      rw [marks, hrun', hstep, htop, hmarks, hrun]
      exact ⟨rfl, rfl⟩

theorem isNameByte_of_word {b : UInt8} (h : isWordPart b = true) : isNameByte b = true := by
  rw [isNameByte, h]
  rfl

theorem runs_of_word {ms : List Mark} (h : ∀ m ∈ ms, isWordPart m.byte = true) (some : ms ≠ []) :
    runs ms = [ms] := by
  apply List.splitBy_of_isChain some
  apply List.Pairwise.isChain
  apply List.pairwise_of_forall_mem_list
  intro a ha b hb
  rw [h a ha, h b hb]
  rfl

def Lexeme.ofWord (before : Option UInt8) (word : List UInt8) : Lexeme :=
  if isNameMark before then .text word
  else match Keyword.ofWord? word with
    | some k => .keyword k word
    | none => .text word

theorem lexemesFrom_word {word : List UInt8} (h : ∀ b ∈ word, isWordPart b = true)
    (some : word ≠ []) (before : Option UInt8) :
    lexemesFrom .start before word = [.ofWord before word] := by
  have hname : ∀ b ∈ word, isNameByte b = true := fun b hb => isNameByte_of_word (h b hb)
  have hne {c : UInt8} (hc : isWordPart c = false) : word ≠ [c] := by
    rintro rfl
    rw [h c List.mem_cons_self] at hc
    cases hc
  have hruns : runs (word.map (Mark.mk · true)) = [word.map (Mark.mk · true)] := by
    refine runs_of_word (fun m hm => ?_) (by simpa using some)
    obtain ⟨b, hb, rfl⟩ := List.mem_map.1 hm
    exact h b hb
  have hbytes : (word.map (Mark.mk · true)).map Mark.byte = word := by
    rw [List.map_map]
    exact List.map_id word
  have htop : (word.map (Mark.mk · true)).all Mark.top = true := by simp
  rw [lexemesFrom, (marks_of_name hname).1, hruns, Lexeme.ofRuns, Lexeme.ofRun, hbytes, if_pos htop,
    if_neg (hne (by decide)), if_neg (hne (by decide))]
  rfl

/-- A text is one word, or a word, a byte that parts it from what follows, and what follows. -/
@[elab_as_elim] theorem words_induction {motive : List UInt8 → Prop}
    (word : ∀ word, (∀ b ∈ word, isWordPart b = true) → motive word)
    (parted : ∀ word b bs, (∀ b ∈ word, isWordPart b = true) → isWordPart b = false → motive bs →
      motive (word ++ b :: bs)) (bs : List UInt8) : motive bs := by
  have hfrom (bs : List UInt8) :
      ∀ front, (∀ b ∈ front, isWordPart b = true) → motive (front ++ bs) := by
    induction bs with
    | nil => exact fun front hfront => by simpa using word front hfront
    | cons b bs ih =>
        intro front hfront
        cases hb : isWordPart b with
        | true =>
            rw [← List.singleton_append, ← List.append_assoc]
            apply ih
            rintro c hc
            rcases List.mem_append.1 hc with hc | hc
            · exact hfront c hc
            · rw [List.mem_singleton.1 hc, hb]
        | false => exact parted front b bs hfront hb (ih [] (by simp))
  exact hfrom bs [] (by simp)

/-- The words of ASCII bytes, before the first one of the other bytes, between them and behind. -/
def asciiWords (bs : List UInt8) : List (List UInt8) := bs.splitOnP fun b => !isWordPart b

theorem asciiWords_of_word {word : List UInt8} (h : ∀ b ∈ word, isWordPart b = true) :
    asciiWords word = [word] :=
  List.splitOnP_eq_singleton fun b hb => by rw [h b hb]; rfl

theorem asciiWords_append_cons {word : List UInt8} (h : ∀ b ∈ word, isWordPart b = true) {b : UInt8}
    (hb : isWordPart b = false) (bs : List UInt8) :
    asciiWords (word ++ b :: bs) = word :: asciiWords bs :=
  List.splitOnP_append_cons_of_forall_mem (fun b hb => by rw [h b hb]; rfl) b (by rw [hb]; rfl) bs

def Lexeme.keyword? : Lexeme → Option Keyword
  | .keyword k _ => some k
  | .comma | .semicolon | .text _ => none

def keywordsOf (ls : List Lexeme) : List Keyword := ls.filterMap Lexeme.keyword?

theorem keywordsOf_append (ls more : List Lexeme) :
    keywordsOf (ls ++ more) = keywordsOf ls ++ keywordsOf more := List.filterMap_append ..

theorem keyword?_ofWord (before : Option UInt8) (word : List UInt8) :
    (Lexeme.ofWord before word).keyword? =
      if Lexeme.isNameMark before then none else Keyword.ofWord? word := by
  rw [Lexeme.ofWord]
  split
  · rfl
  · cases Keyword.ofWord? word <;> rfl

theorem ofMark_of_nameByte {b : UInt8} (h : isNameByte b = true) (top : Bool) :
    Lexeme.ofMark ⟨b, top⟩ = .text [b] := by
  have hcomma := ne_of_nameByte h (c := Lexeme.commaByte) (by decide)
  have hsemicolon := ne_of_nameByte h (c := Lexeme.semicolonByte) (by decide)
  simp [Lexeme.ofMark, Lexeme.ofRun, Lexeme.ofWord?_singleton, hcomma, hsemicolon]

theorem isNameMark_of_nameByte {b : UInt8} (h : isNameByte b = true) :
    Lexeme.isNameMark (some b) = false := by
  simp [Lexeme.isNameMark, ne_of_nameByte h (c := 0x2E) (by decide),
    ne_of_nameByte h (c := 0x24) (by decide)]

/-- The words that can be keywords: behind a name mark the first one is none. -/
def candidates (before : Option UInt8) (words : List (List UInt8)) : List (List UInt8) :=
  if Lexeme.isNameMark before then words.tail else words

theorem keywordsOf_word {word : List UInt8} (h : ∀ b ∈ word, isWordPart b = true)
    (before : Option UInt8) : keywordsOf (lexemesFrom .start before word) =
      (candidates before [word]).filterMap Keyword.ofWord? := by
  cases word with
  | nil =>
      rw [candidates]
      split <;> rfl
  | cons b word =>
      rw [lexemesFrom_word h (by simp), keywordsOf, List.filterMap_cons, keyword?_ofWord, candidates]
      by_cases hmark : Lexeme.isNameMark before = true
      · simp only [if_pos hmark]
        rfl
      · simp only [if_neg hmark]
        rfl

theorem lexemesFrom_parted {word : List UInt8} (hword : ∀ b ∈ word, isWordPart b = true)
    {b : UInt8} (hname : isNameByte b = true) (hb : isWordPart b = false) (before : Option UInt8)
    (bs : List UInt8) : lexemesFrom .start before (word ++ b :: bs) =
      lexemesFrom .start before word ++ .text [b] :: lexemesFrom .start none bs := by
  have hrun := (marks_of_name fun b hb => isNameByte_of_word (hword b hb)).2
  rw [lexemesFrom_append_cons hb (isNameMark_of_nameByte hname), hrun,
    (Nesting.step_of_nameByte hname).1, ofMark_of_nameByte hname]

theorem keywordsOf_name {bs : List UInt8} (h : ∀ b ∈ bs, isNameByte b = true)
    (before : Option UInt8) : keywordsOf (lexemesFrom .start before bs) =
      (candidates before (asciiWords bs)).filterMap Keyword.ofWord? := by
  induction bs using words_induction generalizing before with
  | word word hword => rw [asciiWords_of_word hword, keywordsOf_word hword]
  | parted word b bs hword hb ih =>
      have hrest := ih (fun c hc => h c (by simp [hc])) none
      have hfront : candidates before (word :: asciiWords bs) =
          candidates before [word] ++ asciiWords bs := by
        rw [candidates, candidates]
        split <;> rfl
      rw [lexemesFrom_parted hword (h b (by simp)) hb, keywordsOf_append, keywordsOf_word hword,
        asciiWords_append_cons hword hb, hfront, List.filterMap_append]
      exact congrArg _ hrest

theorem keyword?_head_name {bs : List UInt8} (h : ∀ b ∈ bs, isNameByte b = true) :
    (lexemesFrom .start none bs).head?.bind Lexeme.keyword? =
      (asciiWords bs).head?.bind Keyword.ofWord? := by
  have hword {word : List UInt8} (hword : ∀ b ∈ word, isWordPart b = true) (more : List Lexeme)
      (hmore : more.head?.bind Lexeme.keyword? = none) :
      (lexemesFrom .start none word ++ more).head?.bind Lexeme.keyword? = Keyword.ofWord? word := by
    cases word with
    | nil => exact hmore
    | cons b word => rw [lexemesFrom_word hword (by simp), List.singleton_append, List.head?_cons,
        Option.bind_some, keyword?_ofWord]; rfl
  induction bs using words_induction with
  | word word hfront => simpa [asciiWords_of_word hfront] using hword hfront [] rfl
  | parted word b bs hfront hb ih =>
      rw [lexemesFrom_parted hfront (h b (by simp)) hb, asciiWords_append_cons hfront hb]
      exact hword hfront _ rfl

end CypherBridge.Query
