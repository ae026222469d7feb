import CypherBridge.Proofs.Query.Scanner.Loops
import CypherBridge.Proofs.Query.Words

/-!
# Keywords and separators by position

A keyword is found at a position if a lexeme that is the keyword starts there, and a comma or a
semicolon likewise.  The bytes next to it decide both: they are no part of a word, and the one in
front makes it no name.
-/

namespace CypherBridge.Query

/-- Whether a lexeme with the property starts at the position. -/
def startsAt (p : Lexeme → Bool) : List Lexeme → Nat → Bool
  | [], _ => false
  | l :: ls, i =>
      if i = 0 then p l else decide (l.bytes.length ≤ i) && startsAt p ls (i - l.bytes.length)

def width (ls : List Lexeme) : Nat := (ls.flatMap Lexeme.bytes).length

theorem width_cons (l : Lexeme) (ls : List Lexeme) :
    width (l :: ls) = l.bytes.length + width ls := by
  rw [width, List.flatMap_cons, List.length_append]
  rfl

theorem width_singleton (l : Lexeme) : width [l] = l.bytes.length := width_cons l []

theorem width_append (ls more : List Lexeme) : width (ls ++ more) = width ls + width more := by
  rw [width, List.flatMap_append, List.length_append]
  rfl

def Filled (ls : List Lexeme) : Prop := ∀ l ∈ ls, l.bytes ≠ []

section Starts

variable {p : Lexeme → Bool} {before ls : List Lexeme}

theorem startsAt_append (h : Filled before) (i : Nat) :
    startsAt p (before ++ ls) (width before + i) = startsAt p ls i := by
  induction before with
  | nil => rw [List.nil_append, width, List.flatMap_nil, List.length_nil, Nat.zero_add]
  | cons l before ih =>
      obtain ⟨hl, hbefore⟩ := List.forall_mem_cons.1 h
      have hpos := List.length_pos_iff.2 hl
      rw [List.cons_append, startsAt, width_cons, Nat.add_assoc, if_neg (by omega),
        Nat.add_sub_cancel_left, ih hbefore, decide_eq_true (Nat.le_add_right _ _), Bool.true_and]

theorem startsAt_eq_false (h : ∀ l ∈ ls, p l = false) (i : Nat) : startsAt p ls i = false := by
  induction ls generalizing i with
  | nil => rfl
  | cons l ls ih =>
      obtain ⟨hl, hls⟩ := List.forall_mem_cons.1 h
      rw [startsAt, hl, ih hls, Bool.and_false, ite_self]

theorem exists_of_startsAt {i : Nat} (h : startsAt p ls i = true) :
    ∃ before l behind, ls = before ++ l :: behind ∧ width before = i ∧ p l = true := by
  induction ls generalizing i with
  | nil => cases h
  | cons l ls ih =>
      rw [startsAt] at h
      split at h
      · next hi => exact ⟨[], l, ls, rfl, hi.symm, h⟩
      · next hi =>
          rw [Bool.and_eq_true, decide_eq_true_iff] at h
          obtain ⟨before, k, behind, rfl, hwidth, hk⟩ := ih h.2
          exact ⟨l :: before, k, behind, rfl, by rw [width_cons]; omega, hk⟩

end Starts

/-! ## Runs by position -/

theorem Lexeme.ofRuns_append {before : Option UInt8} {rs rs' : List (List Mark)}
    (h : ∀ run ∈ rs, run ≠ []) : ofRuns before (rs ++ rs') =
      ofRuns before rs ++ ofRuns ((rs.flatten.getLast?.map Mark.byte).or before) rs' := by
  induction rs generalizing before with
  | nil => rfl
  | cons run rs ih =>
      obtain ⟨hrun, hrs⟩ := List.forall_mem_cons.1 h
      rw [List.cons_append, ofRuns, ofRuns, ih hrs, List.flatten_cons, List.getLast?_append,
        List.getLast?_eq_some_getLast hrun]
      cases rs.flatten.getLast? <;> rfl

theorem filled_ofRuns {before : Option UInt8} {rs : List (List Mark)} (h : ∀ run ∈ rs, run ≠ []) :
    Filled (Lexeme.ofRuns before rs) := by
  induction rs generalizing before with
  | nil => simp [Filled, Lexeme.ofRuns]
  | cons run rs ih =>
      obtain ⟨hrun, hrs⟩ := List.forall_mem_cons.1 h
      rw [Lexeme.ofRuns, Filled, List.forall_mem_cons, Lexeme.ofRun_bytes]
      exact ⟨by simpa using hrun, ih hrs⟩

theorem ne_nil_of_mem_runs {ms : List Mark} : ∀ run ∈ runs ms, run ≠ [] :=
  fun _ hrun => List.ne_nil_of_mem_splitBy hrun

theorem filled_lexemes (bs : List UInt8) : Filled (lexemes bs) := filled_ofRuns ne_nil_of_mem_runs

theorem width_lexemes (bs : List UInt8) : width (lexemes bs) = bs.length :=
  congrArg List.length (lexemesFrom_bytes .start none bs)

theorem width_ofRuns (before : Option UInt8) (rs : List (List Mark)) :
    width (Lexeme.ofRuns before rs) = rs.flatten.length := by
  rw [width, Lexeme.ofRuns_bytes, List.length_map]

theorem ofRuns_eq_append {before : Option UInt8} {rs : List (List Mark)} {l : Lexeme}
    {front behind : List Lexeme} (h : Lexeme.ofRuns before rs = front ++ l :: behind) :
    ∃ rs₁ run rs₂, rs = rs₁ ++ run :: rs₂ ∧ Lexeme.ofRuns before rs₁ = front := by
  induction rs generalizing before front with
  | nil => simp [Lexeme.ofRuns] at h
  | cons run rs ih =>
      cases front with
      | nil => exact ⟨[], run, rs, rfl, rfl⟩
      | cons k front =>
          obtain ⟨hk, hrest⟩ := List.cons.inj h
          obtain ⟨rs₁, run', rs₂, rfl, hfront⟩ := ih hrest
          exact ⟨run :: rs₁, run', rs₂, rfl, by rw [Lexeme.ofRuns, hk, hfront]⟩

/-- A lexeme that starts at the position is made of the run there. -/
theorem startsAt_ofRuns_iff {p : Lexeme → Bool} {rs : List (List Mark)}
    (h : ∀ run ∈ rs, run ≠ []) {i : Nat} : startsAt p (Lexeme.ofRuns none rs) i = true ↔
      ∃ rs₁ run rs₂, rs = rs₁ ++ run :: rs₂ ∧ rs₁.flatten.length = i ∧
        p (Lexeme.ofRun (rs₁.flatten.getLast?.map Mark.byte) run) = true := by
  have hsplit {rs₁ rs₂ : List (List Mark)} {run : List Mark} (hrs : rs = rs₁ ++ run :: rs₂) :
      Lexeme.ofRuns none rs = Lexeme.ofRuns none rs₁ ++
        Lexeme.ofRun (rs₁.flatten.getLast?.map Mark.byte) run ::
          Lexeme.ofRuns (run.getLast?.map Mark.byte) rs₂ := by
    rw [hrs, Lexeme.ofRuns_append fun run hrun => h run (by rw [hrs]; simp [hrun]), Option.or_none]
    rfl
  constructor
  · intro hstarts
    obtain ⟨front, l, behind, hls, hwidth, hl⟩ := exists_of_startsAt hstarts
    obtain ⟨rs₁, run, rs₂, hrs, rfl⟩ := ofRuns_eq_append hls
    rw [hsplit hrs, List.append_cancel_left_eq] at hls
    rw [← (List.cons.inj hls).1] at hl
    exact ⟨rs₁, run, rs₂, hrs, by rw [← hwidth, width_ofRuns], hl⟩
  · rintro ⟨rs₁, run, rs₂, hrs, rfl, hl⟩
    have hfilled : Filled (Lexeme.ofRuns none rs₁) :=
      filled_ofRuns fun run hrun => h run (by rw [hrs]; simp [hrun])
    rw [hsplit hrs, ← width_ofRuns none rs₁, ← Nat.add_zero (width _), startsAt_append hfilled]
    exact hl

/-- Whether no word goes on from the first marks to the others. -/
def IsCut (ms ms' : List Mark) : Prop :=
  ∀ m ∈ ms.getLast?, ∀ m' ∈ ms'.head?, (isWordPart m.byte && isWordPart m'.byte) = false

theorem isCut_of_runs {ms : List Mark} {rs rs' : List (List Mark)} (h : runs ms = rs ++ rs') :
    IsCut rs.flatten rs'.flatten := by
  have hchain := List.isChain_getLast_head_splitBy
    (fun a b : Mark => isWordPart a.byte && isWordPart b.byte) ms
  rw [show ms.splitBy _ = rs ++ rs' from h, List.isChain_append] at hchain
  intro m hm m' hm'
  rcases List.eq_nil_or_concat' rs with rfl | ⟨front, run, rfl⟩
  · cases hm
  · cases rs' with
    | nil => cases hm'
    | cons run' behind =>
        obtain ⟨hne, hne', hparted⟩ := hchain.2.2 run (by simp) run' rfl
        rw [List.flatten_append, List.flatten_singleton, List.getLast?_append,
          List.getLast?_eq_some_getLast hne] at hm
        rw [List.flatten_cons, List.head?_append, List.head?_eq_some_head hne'] at hm'
        cases hm
        cases hm'
        exact hparted

section Word

variable {run : List Mark} (some : run ≠ []) (word : ∀ m ∈ run, isWordPart m.byte = true)
include some word

theorem isCut_word_right (before behind : List Mark) : IsCut before (run ++ behind) ↔
    (before.getLast?.all fun m => !isWordPart m.byte) = true := by
  obtain ⟨m, more, rfl⟩ := List.exists_cons_of_ne_nil some
  cases hlast : before.getLast? with
  | none => simp [IsCut, hlast]
  | some m' => simp [IsCut, hlast, word m List.mem_cons_self]

theorem isCut_word_left (before behind : List Mark) : IsCut (before ++ run) behind ↔
    (behind.head?.all fun m => !isWordPart m.byte) = true := by
  have hlast := List.getLast?_eq_some_getLast some
  cases hhead : behind.head? with
  | none => simp [IsCut, hhead]
  | some m =>
      simp [IsCut, hhead, List.getLast?_append, hlast, word _ (List.getLast_mem some)]

end Word

/-! ## Keywords -/

theorem isWordPart_of_spelled {k : Keyword} {word : List UInt8}
    (h : word.map Keyword.upper = k.spelling) : ∀ b ∈ word, isWordPart b = true := by
  have hcapital : (k.spelling.all fun c => 0x41 ≤ c && c ≤ 0x5A) = true := by cases k <;> decide
  intro b hb
  have hupper := List.all_eq_true.1 hcapital (Keyword.upper b) (h ▸ List.mem_map_of_mem hb)
  rw [Keyword.upper] at hupper
  simp only [isWordPart, Bool.or_eq_true]
  split at hupper
  · next hlower => exact .inl (.inr hlower)
  · exact .inl (.inl (.inr hupper))

theorem Keyword.ofWord?_eq_some_iff {word : List UInt8} {k : Keyword} :
    ofWord? word = some k ↔ word.map upper = k.spelling := by
  constructor
  · intro h
    have hspelling := List.find?_some h
    exact (beq_iff_eq.1 hspelling).symm
  · intro h
    rw [ofWord?, h]
    cases k <;> decide

theorem Lexeme.keyword?_ofRun_eq_some_iff {before : Option UInt8} {run : List Mark} {k : Keyword} :
    (ofRun before run).keyword? = some k ↔ run.all Mark.top = true ∧
      isNameMark before = false ∧ (run.map Mark.byte).map Keyword.upper = k.spelling := by
  rw [← Keyword.ofWord?_eq_some_iff, ofRun]
  by_cases htop : run.all Mark.top = true
  · rw [if_pos htop, eq_true htop, true_and]
    by_cases hcomma : run.map Mark.byte = [commaByte]
    · simp [hcomma, keyword?, ofWord?_singleton]
    · by_cases hsemicolon : run.map Mark.byte = [semicolonByte]
      · simp [hsemicolon, commaByte, semicolonByte, keyword?, ofWord?_singleton]
      · rw [if_neg hcomma, if_neg hsemicolon]
        cases isNameMark before with
        | true => simp [keyword?]
        | false => cases Keyword.ofWord? (run.map Mark.byte) <;> simp [keyword?]
  · rw [if_neg htop]
    simp [htop, keyword?]

theorem Lexeme.ofMark_eq (m : Mark) : ofMark m =
    if m.top = true ∧ m.byte = commaByte then .comma
    else if m.top = true ∧ m.byte = semicolonByte then .semicolon
    else .text [m.byte] := by
  rw [ofMark, ofRun]
  cases htop : m.top <;> simp [htop, isNameMark, ofWord?_singleton]

def isKeyword (k : Keyword) (l : Lexeme) : Bool := l.keyword? == some k

theorem exists_of_isKeyword {l : Lexeme} {k : Keyword} (h : isKeyword k l = true) :
    ∃ word, l = .keyword k word := by
  cases l with
  | keyword k' word =>
      obtain rfl : k' = k := by simpa [isKeyword, Lexeme.keyword?] using h
      exact ⟨word, rfl⟩
  | comma | semicolon | text => cases h

theorem length_of_isKeyword {bs : List UInt8} {l : Lexeme} (h : l ∈ lexemes bs) {k : Keyword}
    (hl : isKeyword k l = true) : l.bytes.length = k.spelling.length := by
  obtain ⟨word, rfl⟩ := exists_of_isKeyword hl
  rw [← Keyword.ofWord?_eq_some_iff.1 (Lexeme.ofWord?_of_mem_ofRuns h), List.length_map]
  rfl

/-- Whether the marks in the middle are the keyword, as a whole word and not as a name. -/
def isWordOf (k : Keyword) (before run behind : List Mark) : Bool :=
  run.all Mark.top && (run.map Mark.byte).map Keyword.upper == k.spelling &&
    ((before.getLast?.all fun m => !isWordPart m.byte) &&
      !Lexeme.isNameMark (before.getLast?.map Mark.byte)) &&
    behind.head?.all fun m => !isWordPart m.byte

theorem length_spelling_pos (k : Keyword) : 0 < k.spelling.length := by
  cases k <;> decide

theorem startsAt_keyword {k : Keyword} {before run behind : List Mark}
    (h : run.length = k.spelling.length) :
    startsAt (isKeyword k) (Lexeme.ofRuns none (runs (before ++ (run ++ behind)))) before.length =
      isWordOf k before run behind := by
  have hsome : run ≠ [] := List.length_pos_iff.1 (h ▸ length_spelling_pos k)
  have hword (hspelled : (run.map Mark.byte).map Keyword.upper = k.spelling) :
      ∀ m ∈ run, isWordPart m.byte = true :=
    fun m hm => isWordPart_of_spelled hspelled m.byte (List.mem_map_of_mem hm)
  rw [Bool.eq_iff_iff, startsAt_ofRuns_iff ne_nil_of_mem_runs]
  simp only [isKeyword, beq_iff_eq, Lexeme.keyword?_ofRun_eq_some_iff, isWordOf, Bool.and_eq_true,
    Bool.not_eq_true']
  constructor
  · rintro ⟨rs₁, run', rs₂, hruns, hlength, htop, hname, hspelled⟩
    have hflatten : before ++ (run ++ behind) = rs₁.flatten ++ (run' ++ rs₂.flatten) := by
      rw [← List.flatten_cons, ← List.flatten_append, ← hruns]
      exact (List.flatten_splitBy _ _).symm
    obtain ⟨rfl, hrest⟩ := List.append_inj hflatten hlength.symm
    have hlength' : run'.length = k.spelling.length := by
      rw [← hspelled, List.length_map, List.length_map]
    obtain ⟨rfl, rfl⟩ := List.append_inj hrest (h.trans hlength'.symm)
    have hfront : IsCut rs₁.flatten (run ++ rs₂.flatten) := isCut_of_runs hruns
    have hback : IsCut (rs₁ ++ [run]).flatten rs₂.flatten := isCut_of_runs (by rw [hruns]; simp)
    rw [List.flatten_append, List.flatten_singleton] at hback
    exact ⟨⟨⟨htop, hspelled⟩, (isCut_word_right hsome (hword hspelled) _ _).1 hfront, hname⟩,
      (isCut_word_left hsome (hword hspelled) _ _).1 hback⟩
  · rintro ⟨⟨⟨htop, hspelled⟩, hfront, hname⟩, hback⟩
    have hrun : runs run = [run] := runs_of_word (hword hspelled) hsome
    have hcut : IsCut run behind := (isCut_word_left hsome (hword hspelled) [] _).2 hback
    have hcut' : IsCut before (run ++ behind) :=
      (isCut_word_right hsome (hword hspelled) _ _).2 hfront
    have hbefore : (runs before).flatten = before := List.flatten_splitBy _ _
    refine ⟨runs before, run, runs behind, ?_, by rw [hbefore], htop, by rwa [hbefore], hspelled⟩
    rw [runs, List.splitBy_append hcut', List.splitBy_append hcut]
    show _ ++ (runs run ++ _) = _
    rw [hrun]
    rfl

namespace Scanner

section Marks

variable {run : List Mark}

theorem slice_map {α : Type} (f : Mark → α) (before run behind : List Mark) :
    slice ((before ++ (run ++ behind)).map f) before.length (before.length + run.length) =
      .ok (run.map f) := by
  rw [slice_eq_ok (Nat.le_add_right _ _) (by simp)]
  simp

theorem wordStartsAt_eq (before more : List Mark) :
    wordStartsAt ((before ++ more).map Mark.byte) before.length =
      .ok ((before.getLast?.all fun m => !isWordPart m.byte) &&
        !Lexeme.isNameMark (before.getLast?.map Mark.byte)) := by
  rcases List.eq_nil_or_concat' before with rfl | ⟨front, m, rfl⟩
  · rfl
  · have hread : read ((front ++ [m] ++ more).map Mark.byte) ((front ++ [m]).length - 1) =
        .ok m.byte := read_of_getElem? (by simp)
    rw [wordStartsAt, if_neg (by simp), hread]
    simp [bind, Except.bind, pure, Except.pure]

theorem wordEndsAt_eq (front behind : List Mark) :
    wordEndsAt ((front ++ behind).map Mark.byte) front.length =
      .ok (behind.head?.all fun m => !isWordPart m.byte) := by
  cases behind with
  | nil => simp [wordEndsAt, pure, Except.pure]
  | cons m behind =>
      have hread : read ((front ++ m :: behind).map Mark.byte) front.length = .ok m.byte :=
        read_of_getElem? (by simp)
      rw [wordEndsAt, if_neg (by simp), hread]
      simp [bind, Except.bind, pure, Except.pure]

theorem keywordAt_eq_isWordOf (before behind : List Mark) {k : Keyword} (h : run.length = k.spelling.length) :
    keywordAt ((before ++ (run ++ behind)).map Mark.byte)
      ((before ++ (run ++ behind)).map Mark.top) k before.length =
        .ok (isWordOf k before run behind) := by
  have hbound : ¬ ((before ++ (run ++ behind)).map Mark.byte).length <
      before.length + run.length := by
    simp
  have hends := wordEndsAt_eq (before ++ run) behind
  rw [List.append_assoc, List.length_append] at hends
  have hall : (run.map Mark.top).all id = run.all Mark.top := List.all_map
  simp only [keywordAt, ← h, slice_map, wordStartsAt_eq, hends, hall, isWordOf, bind,
    Except.bind, pure, Except.pure]
  rw [if_neg hbound]
  cases run.all Mark.top with
  | false => rfl
  | true =>
      by_cases hspelled : (run.map Mark.byte).map Keyword.upper = k.spelling
      · rw [if_neg (not_not_intro hspelled), hspelled, beq_self_eq_true]
        rfl
      · rw [if_pos hspelled, beq_eq_false_iff_ne.2 hspelled]
        rfl

end Marks

theorem keywordAt_eq (bs : List UInt8) (k : Keyword) (i : Nat) :
    keywordAt bs (tops bs) k i = .ok (startsAt (isKeyword k) (lexemes bs) i) := by
  rcases Nat.lt_or_ge bs.length (i + k.spelling.length) with hlt | hle
  · rw [keywordAt, if_pos hlt]
    cases hstarts : startsAt (isKeyword k) (lexemes bs) i with
    | false => rfl
    | true =>
        obtain ⟨before, l, behind, hls, rfl, hl⟩ := exists_of_startsAt hstarts
        have hmem : l ∈ lexemes bs := by rw [hls]; simp
        have hlength := length_of_isKeyword hmem hl
        have hwidth := width_lexemes bs
        rw [hls, width_append, width_cons] at hwidth
        omega
  · have hmarks := map_byte_marks .start bs
    have hall : (marks .start bs).length = bs.length := by rw [← List.length_map, hmarks]
    have hsplit : marks .start bs = (marks .start bs).take i ++
        (((marks .start bs).drop i).take k.spelling.length ++
          (marks .start bs).drop (i + k.spelling.length)) := by
      rw [← List.drop_drop, List.take_append_drop, List.take_append_drop]
    have hfront : ((marks .start bs).take i).length = i := by
      rw [List.length_take]
      omega
    have hrun : (((marks .start bs).drop i).take k.spelling.length).length = k.spelling.length := by
      rw [List.length_take, List.length_drop]
      omega
    have hfound := keywordAt_eq_isWordOf ((marks .start bs).take i)
      ((marks .start bs).drop (i + k.spelling.length)) hrun
    rw [← startsAt_keyword hrun, ← hsplit, hmarks, hfront] at hfound
    exact hfound

theorem separatorAt_eq {b : UInt8} {separator : Lexeme} (part : isWordPart b = false)
    (written : separator.bytes = [b])
    (read : ∀ m, Lexeme.ofMark m = separator ↔ m.top = true ∧ m.byte = b)
    {bs : List UInt8} {i : Nat} (h : i < bs.length) :
    separatorAt bs (tops bs) b i = .ok (startsAt (· == separator) (lexemes bs) i) := by
  obtain ⟨m, more, hm⟩ := exists_drop (marks .start bs) i
    (by rwa [← List.length_map (f := Mark.byte), map_byte_marks])
  have hget {α : Type} (f : Mark → α) : ((marks .start bs).map f)[i]? = some (f m) := by
    rw [List.getElem?_map, ← List.head?_drop, hm]
    rfl
  have htop : Scanner.read (tops bs) i = .ok m.top := read_of_getElem? (hget Mark.top)
  have hbyte : Scanner.read bs i = .ok m.byte := by
    rw [← map_byte_marks .start bs]
    exact read_of_getElem? (hget Mark.byte)
  have hat : separatorAt bs (tops bs) b i = .ok (m.top && decide (m.byte = b)) := by
    rw [separatorAt, htop, hbyte]
    cases m.top <;> rfl
  have hsplit : marks .start bs = (marks .start bs).take i ++ m :: more := by
    rw [← hm, List.take_append_drop]
  rw [hat, Except.ok.injEq, Bool.eq_iff_iff, Bool.and_eq_true, decide_eq_true_iff, ← read, lexemes,
    startsAt_ofRuns_iff ne_nil_of_mem_runs]
  constructor
  · intro hmark
    have hword : isWordPart m.byte = false := by rwa [((read m).1 hmark).2]
    refine ⟨runs ((marks .start bs).take i), [m], runs more, ?_, ?_, ?_⟩
    · rw [← runs_append_cons hword, ← hsplit]
    · rw [runs, List.flatten_splitBy, List.length_take]
      have hlt := lt_length_of_drop hm
      omega
    · rw [Lexeme.ofRun_singleton, hmark, beq_self_eq_true]
  · rintro ⟨rs₁, run, rs₂, hruns, rfl, hl⟩
    rw [beq_iff_eq] at hl
    have hbytes := Lexeme.ofRun_bytes (rs₁.flatten.getLast?.map Mark.byte) run
    rw [hl, written, eq_comm, List.map_eq_singleton_iff] at hbytes
    obtain ⟨m', rfl, -⟩ := hbytes
    have hflatten : marks .start bs = rs₁.flatten ++ m' :: rs₂.flatten := by
      rw [← List.singleton_append, ← List.flatten_cons, ← List.flatten_append, ← hruns]
      exact (List.flatten_splitBy _ _).symm
    rw [hflatten, List.drop_left] at hm
    obtain ⟨rfl, -⟩ := List.cons.inj hm
    rwa [Lexeme.ofRun_singleton] at hl

theorem commaAt_eq {bs : List UInt8} {i : Nat} (h : i < bs.length) :
    separatorAt bs (tops bs) Lexeme.commaByte i =
      .ok (startsAt (· == .comma) (lexemes bs) i) := by
  refine separatorAt_eq (by decide) rfl (fun m => ?_) h
  rw [Lexeme.ofMark_eq]
  split_ifs <;> simp_all

theorem semicolonAt_eq {bs : List UInt8} {i : Nat} (h : i < bs.length) :
    separatorAt bs (tops bs) Lexeme.semicolonByte i =
      .ok (startsAt (· == .semicolon) (lexemes bs) i) := by
  refine separatorAt_eq (by decide) rfl (fun m => ?_) h
  rw [Lexeme.ofMark_eq]
  split_ifs <;> simp_all [Lexeme.commaByte, Lexeme.semicolonByte]

end Scanner

end CypherBridge.Query
