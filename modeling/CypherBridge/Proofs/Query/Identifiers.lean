import CypherBridge.Proofs.Query.Items
import CypherBridge.Proofs.Query.Losses

/-!
# Identifiers as columns

Variables and their properties name their columns as they are written, unless the scanner finds a
keyword in them.  It takes only ASCII letters, digits and underscores for parts of a word, so that
it finds one where the letters of a keyword stand next to a letter of another script.
-/

namespace CypherBridge.Query

/-- A letter, a digit or an underscore, of which those beyond ASCII are among the characters that
are not blank. -/
def isNamePart (c : Char) : Bool :=
  let n := c.toNat
  (0x30 ≤ n && n ≤ 0x39) || (0x41 ≤ n && n ≤ 0x5A) || (0x61 ≤ n && n ≤ 0x7A) || n == 0x5F ||
    (0x80 ≤ n && !Text.isBlank c)

structure IsName (name : String) : Prop where
  some : name ≠ ""
  inside : ∀ c ∈ name.toList, isNamePart c = true

theorem isName_of_all {name : String} (some : name ≠ "")
    (inside : name.toList.all isNamePart = true) : IsName name :=
  ⟨some, List.all_eq_true.1 inside⟩

theorem not_blank_of_namePart {c : Char} (h : isNamePart c = true) : Text.isBlank c = false := by
  cases hblank : Text.isBlank c with
  | false => rfl
  | true =>
      simp only [isNamePart, Text.isBlank, Bool.or_eq_true, Bool.and_eq_true, decide_eq_true_eq,
        beq_iff_eq] at h hblank
      rcases h with h | ⟨-, h⟩
      · omega
      · simp at h
        omega

theorem isNameByte_of_encode {c : Char} (h : isNamePart c = true) :
    ∀ b ∈ String.utf8EncodeChar c, isNameByte b = true := by
  have hnumber : (0x30 ≤ c.val.toNat ∧ c.val.toNat ≤ 0x39) ∨
      (0x41 ≤ c.val.toNat ∧ c.val.toNat ≤ 0x5A) ∨ (0x61 ≤ c.val.toNat ∧ c.val.toNat ≤ 0x7A) ∨
        c.val.toNat = 0x5F ∨ 0x80 ≤ c.val.toNat := by
    simp only [isNamePart, Bool.or_eq_true, Bool.and_eq_true, decide_eq_true_eq, beq_iff_eq] at h
    have hsame : c.toNat = c.val.toNat := rfl
    omega
  intro b hb
  rw [isNameByte_iff]
  rcases Nat.lt_or_ge b.toNat 0x80 with hlt | hge
  · rw [← (Text.encode_of_ascii_mem hb (UInt8.lt_iff_toNat_lt.2 hlt)).2]
    exact hnumber
  · exact .inr (.inr (.inr (.inr hge)))

theorem IsName.bytes {name : String} (h : IsName name) :
    ∀ b ∈ Text.bytes name, isNameByte b = true := by
  intro b hb
  rw [Text.bytes_eq_flatMap] at hb
  obtain ⟨c, hc, hb⟩ := List.mem_flatMap.1 hb
  exact isNameByte_of_encode (h.inside c hc) b hb

/-! ## Items -/

def dot : UInt8 := 0x2E

structure NamedItem where
  owner : String
  property : Option String
  isName_owner : IsName owner
  isName_property : ∀ name ∈ property, IsName name

namespace NamedItem

def propertyText : Option String → String
  | none => ""
  | some name => "." ++ name

variable (i : NamedItem)

def text : String := i.owner ++ propertyText i.property

/-- The words of ASCII bytes in an item, without the one behind the dot. -/
def words : List (List UInt8) :=
  asciiWords (Text.bytes i.owner) ++
    i.property.elim [] fun name => (asciiWords (Text.bytes name)).tail

def keywords : List Keyword := i.words.filterMap Keyword.ofWord?

theorem bytes_text : Text.bytes i.text = Text.bytes i.owner ++
    i.property.elim [] fun name => dot :: Text.bytes name := by
  have hdot : Text.bytes "." = [dot] := by decide
  have hnone : Text.bytes "" = [] := by decide
  rw [text, Text.bytes_append]
  cases i.property with
  | none => rw [propertyText, hnone]; rfl
  | some name => rw [propertyText, Text.bytes_append, hdot]; rfl

theorem mem_bytes_text {b : UInt8} (h : b ∈ Text.bytes i.text) : isNameByte b = true ∨ b = dot := by
  rw [bytes_text] at h
  rcases List.mem_append.1 h with h | h
  · exact .inl (i.isName_owner.bytes b h)
  · cases hproperty : i.property with
    | none => rw [hproperty] at h; cases h
    | some name =>
        rw [hproperty] at h
        rcases List.mem_cons.1 h with h | h
        · exact .inr h
        · exact .inl ((i.isName_property name hproperty).bytes b h)

theorem notMem_bytes_text {b : UInt8} (hname : isNameByte b = false) (hdot : b ≠ dot) :
    b ∉ Text.bytes i.text := by
  intro h
  rcases i.mem_bytes_text h with h | h
  · rw [hname] at h
    cases h
  · exact hdot h

theorem isPart_text : IsPart i.text where
  uncommented := CommentScan.output_of_no_slash (i.notMem_bytes_text (by decide) (by decide))
  closed := by
    have hrun {bs : List UInt8} (h : ∀ b ∈ bs, isNameByte b = true) := (marks_of_name h).2
    rw [bytes_text, Nesting.run_append, hrun i.isName_owner.bytes]
    cases hproperty : i.property with
    | none => rfl
    | some name =>
        show Nesting.start.run (Text.bytes name) = .start
        exact hrun (i.isName_property name hproperty).bytes

theorem exists_lexemes_text : ∃ more, lexemes (Text.bytes i.text) =
    lexemes (Text.bytes i.owner) ++ more ∧
      keywordsOf more = (i.property.elim [] fun name =>
        (asciiWords (Text.bytes name)).tail).filterMap Keyword.ofWord? := by
  rw [bytes_text]
  cases hproperty : i.property with
  | none => exact ⟨[], by simp, rfl⟩
  | some name =>
      have hkeywords := keywordsOf_name (i.isName_property name hproperty).bytes (some dot)
      refine ⟨.text [dot] :: lexemesFrom .start (some dot) (Text.bytes name), ?_, hkeywords⟩
      show lexemesFrom .start none (_ ++ dot :: Text.bytes name) = _
      rw [lexemesFrom_append_parting (by decide), (marks_of_name i.isName_owner.bytes).2]
      rfl

theorem keywordsOf_text : keywordsOf (lexemes (Text.bytes i.text)) = i.keywords := by
  obtain ⟨more, htext, hmore⟩ := i.exists_lexemes_text
  have howner := keywordsOf_name i.isName_owner.bytes none
  rw [htext, keywordsOf_append, hmore, lexemes]
  rw [lexemesFrom] at howner
  rw [howner, keywords, words, List.filterMap_append]
  rfl

theorem keyword_of_mem {l : Lexeme} (hl : l ∈ lexemes (Text.bytes i.text)) :
    (∃ bs, l = .text bs) ∨ ∃ k ∈ i.keywords, ∃ word, l = .keyword k word := by
  have hbytes {b : UInt8} (hb : b ∈ l.bytes) : b ∈ Text.bytes i.text := by
    rw [← lexemesFrom_bytes .start none (Text.bytes i.text)]
    exact List.mem_flatMap.2 ⟨l, hl, hb⟩
  cases l with
  | text bs => exact .inl ⟨bs, rfl⟩
  | comma => exact absurd (hbytes List.mem_cons_self) (i.notMem_bytes_text (by decide) (by decide))
  | semicolon =>
      exact absurd (hbytes List.mem_cons_self) (i.notMem_bytes_text (by decide) (by decide))
  | keyword k word =>
      refine .inr ⟨k, ?_, word, rfl⟩
      rw [← i.keywordsOf_text]
      exact List.mem_filterMap.2 ⟨_, hl, rfl⟩

def opening : Option Keyword := i.words.head?.bind Keyword.ofWord?

theorem exists_first_lexeme : ∃ l ls, lexemes (Text.bytes i.text) = l :: ls ∧
    isBlankLexeme l = false ∧ l.keyword? = i.opening := by
  obtain ⟨more, htext, -⟩ := i.exists_lexemes_text
  have hbytes := lexemesFrom_bytes .start none (Text.bytes i.owner)
  have hfirst := keyword?_head_name i.isName_owner.bytes
  have howner : lexemes (Text.bytes i.owner) = lexemesFrom .start none (Text.bytes i.owner) := rfl
  rw [howner] at htext
  cases hlexemes : lexemesFrom .start none (Text.bytes i.owner) with
  | nil =>
      rw [hlexemes, List.flatMap_nil] at hbytes
      have hempty : Text.ofBytes? (Text.bytes i.owner) = Text.ofBytes? (Text.bytes "") := by
        rw [← hbytes]
        rfl
      rw [Text.ofBytes?_bytes, Text.ofBytes?_bytes] at hempty
      exact absurd (Option.some.inj hempty) i.isName_owner.some
  | cons l ls =>
      rw [hlexemes] at htext hfirst hbytes
      refine ⟨l, ls ++ more, htext, ?_, ?_⟩
      · match l with
        | .keyword .. | .comma | .semicolon | .text [] | .text (_ :: _ :: _) => rfl
        | .text [b] =>
            have hname : isNameByte b = true := by
              apply i.isName_owner.bytes
              rw [← hbytes]
              exact List.mem_cons_self
            simp [isBlankLexeme, ne_of_nameByte hname (c := 0x20) (by decide),
              ne_of_nameByte hname (c := 0x09) (by decide),
              ne_of_nameByte hname (c := 0x0A) (by decide),
              ne_of_nameByte hname (c := 0x0C) (by decide),
              ne_of_nameByte hname (c := 0x0D) (by decide)]
      · obtain ⟨front, others, hfront⟩ := List.exists_cons_of_ne_nil
          (List.splitOnP_ne_nil (fun b => !isWordPart b) (Text.bytes i.owner))
        rw [opening, words, asciiWords, hfront]
        rw [asciiWords, hfront] at hfirst
        exact hfirst

theorem namePart_of_mem {c : Char} (h : c ∈ i.text.toList) : isNamePart c = true ∨ c = '.' := by
  rw [text, String.toList_append] at h
  rcases List.mem_append.1 h with h | h
  · exact .inl (i.isName_owner.inside c h)
  · cases hproperty : i.property with
    | none => simp [hproperty, propertyText] at h
    | some name =>
        rw [hproperty, propertyText, String.toList_append] at h
        rcases List.mem_append.1 h with h | h
        · exact .inr (by simpa using h)
        · exact .inl ((i.isName_property name hproperty).inside c h)

theorem nameOfText_text : nameOfText i.text = some i.text := by
  have hblank : ∀ c ∈ i.text.toList, Text.isBlank c = false := by
    intro c hc
    rcases i.namePart_of_mem hc with hc | rfl
    · exact not_blank_of_namePart hc
    · rfl
  have hother {c : Char} (hpart : isNamePart c = false) (hdot : c ≠ '.') : c ∉ i.text.toList := by
    intro hc
    rcases i.namePart_of_mem hc with hc | hc
    · rw [hpart] at hc
      cases hc
    · exact hdot hc
  have hsome : i.text.toList ≠ [] := by
    have howner : i.owner.toList ≠ [] := by simpa using i.isName_owner.some
    simp [text, howner]
  have hstar : i.text.toList ≠ ['*'] := by
    intro hstar
    exact hother (c := '*') (by decide) (by decide) (by simp [hstar])
  have hname : identifierName i.text.toList = i.text.toList := by
    have hbacktick := hother (c := backtickChar) (by decide) (by decide)
    cases hchars : i.text.toList with
    | nil => rfl
    | cons c cs =>
        have hc : c ≠ backtickChar := by
          rintro rfl
          exact hbacktick (by simp [hchars])
        simp [identifierName, betweenBackticks?, hc]
  simp [nameOfText, Text.trim_of_no_blank hblank, hsome, hstar, hname]

theorem names_of_bytes (plain : ∀ k ∈ i.keywords, k = .distinct) (blanks : String)
    (hblanks : Text.allBlank blanks.toList = true) {item : List Lexeme}
    (hitem : ∀ l ∈ item, l = .text [space] ∨ l ∈ lexemes (Text.bytes i.text))
    (hbytes : item.flatMap Lexeme.bytes = Text.bytes (blanks ++ i.text)) : Names item i.text := by
  have hlexeme : ∀ l ∈ item, (∃ bs, l = .text bs) ∨ ∃ word, l = .keyword .distinct word := by
    intro l hl
    rcases hitem l hl with rfl | hl
    · exact .inl ⟨_, rfl⟩
    · rcases i.keyword_of_mem hl with htext | ⟨k, hk, word, rfl⟩
      · exact .inl htext
      · exact .inr ⟨word, by rw [plain k hk]⟩
  refine ⟨fun l hl => ?_, ?_⟩
  · rcases hlexeme l hl with ⟨bs, rfl⟩ | ⟨word, rfl⟩ <;> rfl
  · have hnaming : naming item = item := by
      have hnone : ∀ l ∈ item, isAs l = false := by
        intro l hl
        rcases hlexeme l hl with ⟨bs, rfl⟩ | ⟨word, rfl⟩ <;> rfl
      rw [naming, afterAs?_eq, behindLast?_eq_none_iff.2 hnone, Option.getD_none]
    refine itemName_eq_ok_iff.2 ⟨blanks ++ i.text, by rw [hnaming, hbytes], ?_⟩
    have hname := nameOfText_of_blanks hblanks (rfl : Text.allBlank "".toList = true) i.text
    rw [String.append_empty] at hname
    rw [hname, i.nameOfText_text]

theorem isListed (plain : ∀ k ∈ i.keywords, k = .distinct) : IsListed i.text i.text where
  toIsPart := i.isPart_text
  names := by
    apply i.names_of_bytes plain " " (by decide)
    · intro l hl
      simpa [itemLexemes] using hl
    · have hspace : Text.bytes " " = [space] := by decide
      rw [itemLexemes, List.flatMap_cons, Text.bytes_append, hspace]
      exact congrArg _ (lexemesFrom_bytes .start none _)

theorem isFirst (plain : ∀ k ∈ i.keywords, k = .distinct) (front : i.opening ≠ some .distinct) :
    IsFirst i.text i.text := by
  obtain ⟨l, ls, hlexemes, hblank, hopening⟩ := i.exists_first_lexeme
  refine ⟨lexemes (Text.bytes i.text), ?_, fun rest => ?_⟩
  · apply i.names_of_bytes plain "" rfl (fun l hl => .inr hl)
    rw [String.empty_append]
    exact lexemesFrom_bytes .start none _
  · rw [itemLexemes, hlexemes, dropDistinct, List.cons_append, List.dropWhile_cons_of_pos rfl,
      List.cons_append, List.dropWhile_cons_of_neg (by simp [hblank])]
    split
    · next hdistinct =>
        rw [(List.cons.inj hdistinct).1] at hopening
        exact absurd hopening.symm front
    · rfl

end NamedItem

/-! ## Where a keyword is found -/

/-- A keyword with a meaning is found in an item, or a `DISTINCT` at the front of the first one. -/
def HidesKeyword (items : List NamedItem) : Prop :=
  (∃ i ∈ items, ∃ k ∈ i.keywords, k ≠ .distinct) ∨ ∃ i ∈ items.head?, i.opening = some .distinct

instance (items : List NamedItem) : Decidable (HidesKeyword items) :=
  inferInstanceAs (Decidable (_ ∨ _))

def identifierQuery (items : List NamedItem) : String :=
  "MATCH (n) RETURN " ++ ", ".intercalate (items.map NamedItem.text)

section Query

variable {items : List NamedItem}

theorem identifierQuery_eq (items : List NamedItem) :
    identifierQuery items =
      projection ("MATCH (n)" ++ " ") false (items.map NamedItem.text) "" := by
  have hmatch : "MATCH (n) RETURN " = "MATCH (n)" ++ " " ++ "RETURN " ++ "" := by decide
  exact (congrArg (· ++ _) hmatch).trans String.append_empty.symm

theorem isFront_match : IsFront ("MATCH (n)" ++ " ") := .closed ⟨by decide, by decide⟩

theorem resultColumns_of_plain (some : items ≠ []) (h : ¬ HidesKeyword items) :
    resultColumns (identifierQuery items) = .some (items.map NamedItem.text) := by
  rw [HidesKeyword, not_or] at h
  have hplain : ∀ i ∈ items, ∀ k ∈ i.keywords, k = .distinct := by
    intro i hi k hk
    by_contra hne
    exact h.1 ⟨i, hi, k, hk, hne⟩
  rw [identifierQuery_eq]
  refine resultColumns_list isFront_match isTail_empty false ?_ ?_ (by simpa using some)
  · rw [List.forall₂_map_left_iff, List.forall₂_map_right_iff, List.forall₂_same]
    exact fun i hi => i.isListed (hplain i hi)
  · cases items with
    | nil => exact absurd rfl some
    | cons i items =>
        have hfirst := i.isFirst (hplain i List.mem_cons_self) fun hi => h.2 ⟨i, rfl, hi⟩
        simpa using hfirst

/-! ## What is lost -/

theorem letters_listBytes (text : String) (texts : List String) :
    letters (listBytes (text :: texts)) = letters ((text :: texts).flatMap Text.bytes) := by
  have hseparator {b : UInt8} (hb : isLetter b = false) (bs : List UInt8) :
      letters (b :: bs) = letters bs :=
    List.countP_cons_of_neg (by simp [hb])
  induction texts generalizing text with
  | nil =>
      rw [listBytes_singleton, hseparator rfl, List.flatMap_cons, List.flatMap_nil, List.append_nil]
  | cons other texts ih =>
      rw [listBytes_cons_cons, List.cons_append, hseparator rfl, letters_append, hseparator rfl,
        ih other, ← letters_append]
      rfl

theorem mem_listLexemes {texts : List String} {text : String} (h : text ∈ texts) {l : Lexeme}
    (hl : l ∈ itemLexemes text) : l ∈ listLexemes texts := by
  induction texts with
  | nil => cases h
  | cons first texts ih =>
      cases texts with
      | nil =>
          rw [listLexemes_singleton]
          rwa [List.mem_singleton.1 h] at hl
      | cons other texts =>
          rw [listLexemes_cons_cons, List.mem_append]
          rcases List.mem_cons.1 h with rfl | h
          · exact .inl hl
          · exact .inr (List.mem_cons_of_mem _ (ih h))

theorem hasMeaning_keyword {k : Keyword} (h : k ≠ .distinct) (word : List UInt8) :
    hasMeaning (.keyword k word) = true := by
  cases k <;> first | rfl | exact absurd rfl h

def projected (items : List NamedItem) : List Lexeme := listLexemes (items.map NamedItem.text)

theorem exists_meaning (h : HidesKeyword items) :
    (∃ k word, .keyword k word ∈ projected items ∧ k ≠ .distinct) ∨
      ∃ word rest, projected items = .text [space] :: .keyword .distinct word :: rest := by
  simp only [projected]
  rcases h with ⟨i, hi, k, hk, hne⟩ | ⟨i, hi, hopening⟩
  · rw [← i.keywordsOf_text] at hk
    obtain ⟨l, hl, hkeyword⟩ := List.mem_filterMap.1 hk
    cases l with
    | keyword k' word =>
        cases hkeyword
        exact .inl ⟨k, word, mem_listLexemes (List.mem_map_of_mem hi)
          (List.mem_cons_of_mem _ hl), hne⟩
    | comma | semicolon | text => cases hkeyword
  · obtain ⟨l, ls, hlexemes, -, hl⟩ := i.exists_first_lexeme
    rw [hopening] at hl
    cases l with
    | keyword k word =>
        cases hl
        obtain ⟨others, rfl⟩ := List.head?_eq_some_iff.1 hi
        have hitem : itemLexemes i.text = .text [space] :: .keyword .distinct word :: ls := by
          rw [itemLexemes, hlexemes]
        refine .inr ⟨word, ?_⟩
        cases others with
        | nil => exact ⟨ls, by rw [List.map_singleton, listLexemes_singleton, hitem]⟩
        | cons other others =>
            exact ⟨_, by rw [List.map_cons, List.map_cons, listLexemes_cons_cons, hitem]; rfl⟩
    | comma | semicolon | text => cases hl

theorem isPart_of_mem_texts : ∀ t ∈ items.map NamedItem.text, IsPart t := by
  intro t ht
  obtain ⟨i, -, rfl⟩ := List.mem_map.1 ht
  exact i.isPart_text

theorem itemNames_of_columns (some : items ≠ []) {names : List String}
    (h : resultColumns (identifierQuery items) = .some names) :
    itemNames (Query.items ((behindLast? isReturn (projected items)).getD (projected items))) =
      .ok (.some names) := by
  obtain ⟨ls, hls, hscan⟩ := scanColumns_projection isFront_match isTail_empty false
    (@isPart_of_mem_texts items) (by simpa using some)
  have hprojected : ls = projected items := by
    rw [hls]
    exact List.append_nil _
  rw [identifierQuery_eq, resultColumns, hscan, hprojected] at h
  split at h
  · next found => rw [found, h]
  · cases h

theorem projected_eq (some : items ≠ []) :
    projected items = lexemesFrom .start none (listBytes (items.map NamedItem.text)) ∧
      lettersOf (projected items) = letters ((items.map NamedItem.text).flatMap Text.bytes) := by
  cases items with
  | nil => exact absurd rfl some
  | cons i items =>
      have hprojected : projected (i :: items) =
          lexemesFrom .start none (listBytes ((i :: items).map NamedItem.text)) :=
        (lexemesFrom_list (@isPart_of_mem_texts (i :: items))).symm
      refine ⟨hprojected, ?_⟩
      rw [lettersOf, hprojected, lexemesFrom_bytes, List.map_cons, letters_listBytes]

theorem resultColumns_of_hidden (some : items ≠ []) (h : HidesKeyword items) :
    resultColumns (identifierQuery items) ≠ .some (items.map NamedItem.text) := by
  intro hcolumns
  have hnames := itemNames_of_columns some hcolumns
  obtain ⟨hlexemes, hcount⟩ := projected_eq some
  have hspelled (k : Keyword) (word : List UInt8) (hk : .keyword k word ∈ projected items) :
      0 < letters word := by
    rw [hlexemes] at hk
    exact letters_pos_of_ofWord? (Lexeme.ofWord?_of_mem_ofRuns hk)
  have hmeaning (k : Keyword) (word : List UInt8) (hk : .keyword k word ∈ projected items)
      (hne : k ≠ .distinct) : False := by
    have hlt := letters_lt_of_meaning hnames hk (hasMeaning_keyword hne word) (hspelled k word hk)
    omega
  rcases exists_meaning h with ⟨k, word, hk, hne⟩ | ⟨word, rest, hdistinct⟩
  · exact hmeaning k word hk hne
  · cases hreturn : behindLast? isReturn (projected items) with
    | some behind =>
        obtain ⟨before, l, hsplit, hl, -⟩ := exists_of_behindLast? hreturn
        match l with
        | .keyword .returnWord word =>
            exact hmeaning .returnWord word (by rw [hsplit]; simp) (by decide)
    | none =>
        rw [hreturn, Option.getD_none] at hnames
        have hlt := letters_lt_of_distinct hnames hdistinct
          (hspelled .distinct word (by rw [hdistinct]; simp))
        omega

end Query

theorem NamedItem.words_of_ascii {i : NamedItem} (h : ∀ b ∈ Text.bytes i.text, b < 0x80) :
    i.words = [Text.bytes i.owner] := by
  have hword {name : String} (hname : IsName name)
      (hsub : ∀ b ∈ Text.bytes name, b ∈ Text.bytes i.text) :
      asciiWords (Text.bytes name) = [Text.bytes name] := by
    refine asciiWords_of_word fun b hb => ?_
    have hbyte := hname.bytes b hb
    rw [isNameByte, Bool.or_eq_true] at hbyte
    exact hbyte.resolve_right (by simpa using h b (hsub b hb))
  rw [words, hword i.isName_owner fun b hb => by rw [bytes_text]; exact List.mem_append_left _ hb]
  cases hproperty : i.property with
  | none => rfl
  | some name =>
      have hname := hword (i.isName_property name hproperty) fun b hb => by
        rw [bytes_text, hproperty]
        exact List.mem_append_right _ (List.mem_cons_of_mem _ hb)
      rw [Option.elim_some, hname]
      rfl

theorem exists_beyond_ascii {items : List NamedItem} (h : HidesKeyword items)
    (free : ∀ i ∈ items, Keyword.ofWord? (Text.bytes i.owner) = none) :
    ∃ i ∈ items, ∃ b ∈ Text.bytes i.text, 0x80 ≤ b := by
  by_contra hascii
  have hwords : ∀ i ∈ items, i.words = [Text.bytes i.owner] := by
    intro i hi
    refine NamedItem.words_of_ascii fun b hb => ?_
    by_contra hle
    exact hascii ⟨i, hi, b, hb, by simpa using hle⟩
  rcases h with ⟨i, hi, k, hk, -⟩ | ⟨i, hi, hopening⟩
  · rw [NamedItem.keywords, hwords i hi, List.filterMap_cons, free i hi] at hk
    cases hk
  · have hmem := List.mem_of_mem_head? hi
    rw [NamedItem.opening, hwords i hmem, List.head?_cons, Option.bind_some, free i hmem] at hopening
    cases hopening

/-- Items with no keyword for a variable are the columns as they are written, if and only if none
hides in them, and it takes a letter beyond ASCII to hide one. -/
theorem identifiers_name_columns (items : List NamedItem) (some : items ≠ [])
    (free : ∀ i ∈ items, Keyword.ofWord? (Text.bytes i.owner) = none) :
    (resultColumns (identifierQuery items) = .some (items.map NamedItem.text) ↔
      ¬ HidesKeyword items) ∧
    (HidesKeyword items → ∃ i ∈ items, ∃ b ∈ Text.bytes i.text, 0x80 ≤ b) := by
  refine ⟨⟨?_, ?_⟩, fun h => exists_beyond_ascii h free⟩
  · exact fun hcolumns hhidden => resultColumns_of_hidden some hhidden hcolumns
  · exact resultColumns_of_plain some

def sizeItem : NamedItem :=
  ⟨"größe", some "as", isName_of_all (by decide) (by decide),
    by simpa using isName_of_all (by decide) (by decide)⟩

def lateDistinctItem : NamedItem :=
  ⟨"édistinct", none, isName_of_all (by decide) (by decide), by simp⟩

theorem identifiers_name_columns_of_two :
    resultColumns "MATCH (n) RETURN größe.as, édistinct" = some ["größe.as", "édistinct"] := by
  have hquery : "MATCH (n) RETURN größe.as, édistinct" =
      identifierQuery [sizeItem, lateDistinctItem] := by
    decide
  rw [hquery]
  exact (identifiers_name_columns [sizeItem, lateDistinctItem] (by simp) (by decide)).1.2 (by decide)

/-- The letters of `AS` behind another letter are found, and nothing is left for a name. -/
theorem keyword_behind_a_letter_is_found :
    IsName "éas" ∧ Keyword.ofWord? (Text.bytes "éas") = none ∧
      resultColumns ("MATCH (n) RETURN " ++ ", ".intercalate ["éas"]) = none :=
  ⟨isName_of_all (by decide) (by decide), by decide, by decide +kernel⟩

end CypherBridge.Query
