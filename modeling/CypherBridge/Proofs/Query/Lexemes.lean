import CypherBridge.Proofs.Query.Quoted
import CypherBridge.Query.Comments
import Mathlib.Data.List.SplitBy

/-!
# Lexemes of texts put together

A byte that is no part of a word parts the lexemes of what stands in front of it from those of
what stands behind.  The lexemes of a text are its bytes again, and a text in quotes has no
keywords.
-/

namespace CypherBridge.Query

theorem marks_append (n : Nesting) (as bs : List UInt8) :
    marks n (as ++ bs) = marks n as ++ marks (n.run as) bs := by
  induction as generalizing n with
  | nil => rfl
  | cons a as ih =>
      show ⟨a, n.isTop a⟩ :: marks (n.step a) (as ++ bs) = _
      rw [ih]
      rfl

theorem map_byte_marks (n : Nesting) (bs : List UInt8) : (marks n bs).map Mark.byte = bs := by
  induction bs generalizing n with
  | nil => rfl
  | cons b bs ih => simp only [marks, List.map_cons, ih]

def tops (bs : List UInt8) : List Bool := (marks .start bs).map Mark.top

theorem runs_append_cons {m : Mark} (h : isWordPart m.byte = false) (ms ms' : List Mark) :
    runs (ms ++ m :: ms') = runs ms ++ [m] :: runs ms' := by
  have hbehind : runs (m :: ms') = [m] :: runs ms' := by
    show List.splitBy _ ([m] ++ ms') = _
    rw [List.splitBy_append (by simp [h])]
    rfl
  rw [← hbehind]
  exact List.splitBy_append_cons ms' (by simp [h])

namespace Lexeme

theorem ofRun_bytes (before : Option UInt8) (run : List Mark) :
    (ofRun before run).bytes = run.map Mark.byte := by
  simp only [ofRun]
  split
  · split
    · rename_i hcomma
      exact hcomma.symm
    · split
      · rename_i hsemicolon
        exact hsemicolon.symm
      · split
        · rfl
        · split <;> rfl
  · rfl

theorem ofRuns_bytes (before : Option UInt8) (rs : List (List Mark)) :
    (ofRuns before rs).flatMap bytes = rs.flatten.map Mark.byte := by
  induction rs generalizing before with
  | nil => rfl
  | cons run rs ih => simp [ofRuns, ih, ofRun_bytes]

theorem ofRun_of_nameMark {before before' : Option UInt8}
    (h : isNameMark before = isNameMark before') (run : List Mark) :
    ofRun before run = ofRun before' run := by
  simp only [ofRun, h]

theorem ofRuns_of_nameMark {before before' : Option UInt8}
    (h : isNameMark before = isNameMark before') (rs : List (List Mark)) :
    ofRuns before rs = ofRuns before' rs := by
  cases rs with
  | nil => rfl
  | cons run rs => rw [ofRuns, ofRuns, ofRun_of_nameMark h]

theorem exists_ofRuns_append (before : Option UInt8) (rs rs' : List (List Mark)) :
    ∃ before', ofRuns before (rs ++ rs') = ofRuns before rs ++ ofRuns before' rs' := by
  induction rs generalizing before with
  | nil => exact ⟨before, rfl⟩
  | cons run rs ih =>
      obtain ⟨before', h⟩ := ih (run.getLast?.map Mark.byte)
      exact ⟨before', by rw [List.cons_append, ofRuns, h, ofRuns, List.cons_append]⟩

theorem ofRuns_of_no_top {rs : List (List Mark)} (before : Option UInt8)
    (h : ∀ run ∈ rs, run ≠ [] ∧ ∀ m ∈ run, m.top = false) :
    ∀ l ∈ ofRuns before rs, ∃ bs, l = .text bs := by
  induction rs generalizing before with
  | nil => simp [ofRuns]
  | cons run rs ih =>
      obtain ⟨hsome, htop⟩ := h run List.mem_cons_self
      intro l hl
      rcases List.mem_cons.1 hl with rfl | hl
      · have hall : run.all Mark.top = false := by
          obtain ⟨m, hm⟩ := List.exists_mem_of_ne_nil run hsome
          rw [List.all_eq_false]
          exact ⟨m, hm, by simp [htop m hm]⟩
        exact ⟨run.map Mark.byte, by simp [ofRun, hall]⟩
      · exact ih _ (fun run hrun => h run (List.mem_cons_of_mem _ hrun)) l hl

theorem ofWord?_of_ofRun {before : Option UInt8} {run : List Mark} {k : Keyword}
    {word : List UInt8} (h : ofRun before run = .keyword k word) :
    Keyword.ofWord? word = some k := by
  simp only [ofRun] at h
  split_ifs at h
  split at h
  · next found =>
      cases h
      exact found
  · cases h

theorem ofWord?_of_mem_ofRuns {k : Keyword} {word : List UInt8} {before : Option UInt8}
    {rs : List (List Mark)} (h : .keyword k word ∈ ofRuns before rs) :
    Keyword.ofWord? word = some k := by
  induction rs generalizing before with
  | nil => cases h
  | cons run rs ih =>
      rw [ofRuns, List.mem_cons] at h
      rcases h with h | h
      · exact ofWord?_of_ofRun h.symm
      · exact ih h

/-- What a single byte stands for, which does not depend on the byte before it. -/
def ofMark (m : Mark) : Lexeme := ofRun none [m]

theorem ofWord?_singleton (b : UInt8) : Keyword.ofWord? [b] = none := by
  simp [Keyword.ofWord?, Keyword.all, Keyword.spelling]

theorem ofRun_singleton (before : Option UInt8) (m : Mark) : ofRun before [m] = ofMark m := by
  simp [ofMark, ofRun, ofWord?_singleton]

end Lexeme

/-- The lexemes of a part of a query: the nesting in front of it, and the byte before it. -/
def lexemesFrom (n : Nesting) (before : Option UInt8) (bs : List UInt8) : List Lexeme :=
  Lexeme.ofRuns before (runs (marks n bs))

theorem lexemesFrom_bytes (n : Nesting) (before : Option UInt8) (bs : List UInt8) :
    (lexemesFrom n before bs).flatMap Lexeme.bytes = bs := by
  rw [lexemesFrom, Lexeme.ofRuns_bytes, runs, List.flatten_splitBy, map_byte_marks]

theorem lexemesFrom_append_parting {b : UInt8} (hword : isWordPart b = false) (n : Nesting)
    (before : Option UInt8) (as bs : List UInt8) :
    lexemesFrom n before (as ++ b :: bs) = lexemesFrom n before as ++
      Lexeme.ofMark ⟨b, (n.run as).isTop b⟩ :: lexemesFrom ((n.run as).step b) (some b) bs := by
  obtain ⟨before', h⟩ := Lexeme.exists_ofRuns_append before (runs (marks n as))
    ([⟨b, (n.run as).isTop b⟩] :: runs (marks ((n.run as).step b) bs))
  rw [lexemesFrom, marks_append, marks, runs_append_cons hword, h, Lexeme.ofRuns,
    Lexeme.ofRun_singleton]
  rfl

theorem lexemesFrom_append_cons {b : UInt8} (hword : isWordPart b = false)
    (hname : Lexeme.isNameMark (some b) = false) (n : Nesting) (before : Option UInt8)
    (as bs : List UInt8) :
    lexemesFrom n before (as ++ b :: bs) = lexemesFrom n before as ++
      Lexeme.ofMark ⟨b, (n.run as).isTop b⟩ :: lexemesFrom ((n.run as).step b) none bs := by
  rw [lexemesFrom_append_parting hword]
  exact congrArg _ (congrArg _ (Lexeme.ofRuns_of_nameMark hname _))

/-- Whether a byte, or the end, is neither part of a word nor makes the next word a name. -/
def parts (b : Option UInt8) : Bool := b.all fun b => !isWordPart b && !Lexeme.isNameMark (some b)

theorem lexemesFrom_append {bs : List UInt8} (h : parts bs.head? = true) (n : Nesting)
    (before : Option UInt8) (as : List UInt8) :
    lexemesFrom n before (as ++ bs) =
      lexemesFrom n before as ++ lexemesFrom (n.run as) none bs := by
  cases bs with
  | nil => rw [List.append_nil, show lexemesFrom (n.run as) none [] = [] from rfl, List.append_nil]
  | cons b bs =>
      simp only [parts, List.head?_cons, Option.all_some, Bool.and_eq_true,
        Bool.not_eq_true'] at h
      have hbehind := lexemesFrom_append_cons h.1 h.2 (n.run as) none [] bs
      rw [lexemesFrom_append_cons h.1 h.2, ← List.nil_append (b :: bs), hbehind]
      rfl

variable {n : Nesting} {as : List UInt8}

theorem lexemesFrom_append_space (h : n.run as = .start) (before : Option UInt8)
    (bs : List UInt8) : lexemesFrom n before (as ++ space :: bs) =
      lexemesFrom n before as ++ .text [space] :: lexemesFrom .start none bs := by
  rw [lexemesFrom_append_cons (by decide) (by decide), h]
  rfl

theorem lexemesFrom_space (before : Option UInt8) (bs : List UInt8) :
    lexemesFrom .start before (space :: bs) = .text [space] :: lexemesFrom .start none bs :=
  lexemesFrom_append_space (rfl : Nesting.start.run [] = .start) before bs

theorem lexemesFrom_append_comma (h : n.run as = .start) (before : Option UInt8)
    (bs : List UInt8) : lexemesFrom n before (as ++ Lexeme.commaByte :: bs) =
      lexemesFrom n before as ++ .comma :: lexemesFrom .start none bs := by
  rw [lexemesFrom_append_cons (by decide) (by decide), h]
  rfl

theorem lexemesFrom_semicolon (before : Option UInt8) (bs : List UInt8) :
    lexemesFrom .start before (Lexeme.semicolonByte :: bs) =
      .semicolon :: lexemesFrom .start none bs :=
  lexemesFrom_append_cons (by decide) (by decide) .start before [] bs

theorem lexemesFrom_of_covers (h : n.quoting.covers as = true) (before : Option UInt8) :
    ∀ l ∈ lexemesFrom n before as, ∃ bs, l = .text bs := by
  apply Lexeme.ofRuns_of_no_top
  intro run hrun
  constructor
  · rintro rfl
    exact List.nil_notMem_splitBy _ _ hrun
  · intro m hm
    apply marks_of_covers h
    have hflatten : (runs (marks n as)).flatten = marks n as := List.flatten_splitBy _ _
    rw [← hflatten]
    exact List.mem_flatten_of_mem hrun hm

end CypherBridge.Query
