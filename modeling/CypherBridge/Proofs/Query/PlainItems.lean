import CypherBridge.Proofs.Query.Items

/-!
# Columns without an alias

An item without an alias names its column as it is written, and an identifier in backticks by
what they enclose.  Whether an item is an identifier is read off its two ends, which a property
of one identifier named by another has as well.
-/

namespace CypherBridge.Query

theorem isBlankLexeme_of_encode {c : Char} {b : UInt8} {bs : List UInt8}
    (hc : String.utf8EncodeChar c = b :: bs) (h : Text.isBlank c = false) :
    isBlankLexeme (.text [b]) = false := by
  by_contra hblank
  simp only [isBlankLexeme, Bool.not_eq_false, Bool.or_eq_true, beq_iff_eq] at hblank
  have hb : b < 0x80 := by
    rcases hblank with (((rfl | rfl) | rfl) | rfl) | rfl <;> decide
  have hval : c.toNat = b.toNat := (Text.encode_of_ascii_mem (by rw [hc]; simp) hb).2
  rw [Text.isBlank, hval] at h
  rcases hblank with (((rfl | rfl) | rfl) | rfl) | rfl <;> simp at h

def isText : Lexeme → Bool
  | .text _ => true
  | .keyword .. | .comma | .semicolon => false

structure IsPlain (text : String) : Prop extends IsPart text where
  trimmed : Text.trim text.toList = text.toList
  some : text ≠ ""
  no_star : text ≠ "*"
  inside : ∀ l ∈ lexemes (Text.bytes text), isText l = true

namespace IsPlain

variable {text : String}

theorem exists_text (h : IsPlain text) : ∀ l ∈ lexemes (Text.bytes text), ∃ bs, l = .text bs := by
  intro l hl
  have htext := h.inside l hl
  cases l with
  | text bs => exact ⟨bs, rfl⟩
  | keyword | comma | semicolon => cases htext

theorem nameOfText_eq (h : IsPlain text) :
    nameOfText text = .some (String.ofList (identifierName text.toList)) := by
  have hname : ¬ (text.toList = [] ∨ text.toList = ['*']) := by
    rintro (hnil | hstar)
    · exact h.some (String.toList_inj.1 hnil)
    · exact h.no_star (String.toList_inj.1 hstar)
  simp only [nameOfText, h.trimmed, if_neg hname]

theorem names_of_bytes (h : IsPlain text) (blanks : String) {item : List Lexeme}
    (htext : ∀ l ∈ item, ∃ bs, l = .text bs)
    (hblanks : Text.allBlank blanks.toList = true)
    (hbytes : item.flatMap Lexeme.bytes = Text.bytes (blanks ++ text)) :
    Names item (String.ofList (identifierName text.toList)) where
  inside := by
    intro l hl
    obtain ⟨bs, rfl⟩ := htext l hl
    rfl
  named := by
    have hnaming : naming item = item := naming_append htext []
    refine itemName_eq_ok_iff.2 ⟨blanks ++ text, by rw [hnaming, hbytes], ?_⟩
    have hname := nameOfText_of_blanks hblanks (rfl : Text.allBlank "".toList = true) text
    rw [String.append_empty] at hname
    rw [hname, h.nameOfText_eq]

theorem exists_lexemes (h : IsPlain text) :
    ∃ bs ls, lexemes (Text.bytes text) = .text bs :: ls ∧ isBlankLexeme (.text bs) = false := by
  obtain ⟨c, cs, hchars⟩ : ∃ c cs, text.toList = c :: cs :=
    List.exists_cons_of_ne_nil fun hnil => h.some (String.toList_inj.1 hnil)
  have htrimmed : Text.trim (c :: cs) = c :: cs := by rw [← hchars, h.trimmed]
  have hblank := Text.isBlank_head_of_trimmed htrimmed
  have hbytes : (lexemes (Text.bytes text)).flatMap Lexeme.bytes =
      String.utf8EncodeChar c ++ cs.flatMap String.utf8EncodeChar := by
    rw [← List.flatMap_cons, ← hchars, ← Text.bytes_eq_flatMap]
    exact lexemesFrom_bytes .start none (Text.bytes text)
  cases hlexemes : lexemes (Text.bytes text) with
  | nil =>
      rw [hlexemes, List.flatMap_nil] at hbytes
      have hencode := (List.append_eq_nil_iff.1 hbytes.symm).1
      simp at hencode
  | cons l ls =>
      obtain ⟨bs, rfl⟩ := h.exists_text l (hlexemes ▸ List.mem_cons_self)
      refine ⟨bs, ls, rfl, ?_⟩
      rw [hlexemes, List.flatMap_cons] at hbytes
      cases hencode : String.utf8EncodeChar c with
      | nil => simp at hencode
      | cons b more =>
          match bs with
          | [] | _ :: _ :: _ => rfl
          | [d] =>
              rw [hencode] at hbytes
              rw [(List.cons.inj hbytes).1]
              exact isBlankLexeme_of_encode hencode hblank

theorem isItem (h : IsPlain text) :
    IsItem text (String.ofList (identifierName text.toList)) where
  toIsPart := h.toIsPart
  names := by
    apply h.names_of_bytes " " _ (by decide)
    · have hspace : Text.bytes " " = [space] := by decide
      rw [itemLexemes, List.flatMap_cons, Text.bytes_append, hspace]
      exact congrArg _ (lexemesFrom_bytes .start none _)
    · intro l hl
      rcases List.mem_cons.1 hl with rfl | hl
      · exact ⟨_, rfl⟩
      · exact h.exists_text l hl
  first := by
    obtain ⟨bs, ls, hlexemes, hblank⟩ := h.exists_lexemes
    refine ⟨lexemes (Text.bytes text), ?_, fun rest => ?_⟩
    · apply h.names_of_bytes "" h.exists_text rfl
      rw [String.empty_append]
      exact lexemesFrom_bytes .start none _
    · rw [itemLexemes, hlexemes, dropDistinct, List.cons_append, List.dropWhile_cons_of_pos rfl,
        List.cons_append, List.dropWhile_cons_of_neg (by simp [hblank])]

end IsPlain

inductive NamedBy : String → String → Prop
  | identifier {name : String} (some : name ≠ "") : NamedBy (quoteIdentifier name) name
  | written {text : String} (other : ∀ name, name ≠ "" → text ≠ quoteIdentifier name) :
      NamedBy text text

def EndsTell (text : String) : Prop :=
  ∀ inner, text.toList = backtickChar :: (inner ++ [backtickChar]) →
    ∃ name, text = quoteIdentifier name

theorem eq_of_betweenBackticks? {name inner : List Char}
    (h : betweenBackticks? name = some inner) :
    name = backtickChar :: (inner ++ [backtickChar]) := by
  cases name with
  | nil => cases h
  | cons c rest =>
      rw [betweenBackticks?] at h
      split at h
      · rename_i hends
        obtain ⟨rfl, hlast⟩ := hends
        rw [← Option.some.inj h, List.dropLast_append_getLast? _ hlast]
      · cases h

theorem namedBy_identifierName {text : String} (h : EndsTell text) :
    NamedBy text (String.ofList (identifierName text.toList)) := by
  by_cases hquoted : ∃ name, name ≠ "" ∧ text = quoteIdentifier name
  · obtain ⟨name, hname, rfl⟩ := hquoted
    have hchars : name.toList ≠ [] := by simpa using hname
    have hidentifier := identifierName_of_doubled hchars
    rw [quoteIdentifier, String.toList_ofList, hidentifier, String.ofList_toList]
    exact .identifier hname
  · have hother : ∀ name, name ≠ "" → text ≠ quoteIdentifier name :=
      fun name hname htext => hquoted ⟨name, hname, htext⟩
    have hsame : identifierName text.toList = text.toList := by
      cases hbetween : betweenBackticks? text.toList with
      | none => rw [identifierName, hbetween]
      | some inner =>
          obtain ⟨name, htext⟩ := h inner (eq_of_betweenBackticks? hbetween)
          have hempty : name = "" := by
            by_contra hname
            exact hother name hname htext
          rw [htext, hempty]
          rfl
    rw [hsame, String.ofList_toList]
    exact .written hother

/-- Items without an alias name their columns, but for those that a backtick at each end makes
look like an identifier. -/
theorem plain_items_name_columns (texts : List String) (some : texts ≠ [])
    (plain : ∀ text ∈ texts, IsPlain text) :
    ∃ names, resultColumns ("RETURN " ++ ", ".intercalate texts) = .some names ∧
      List.Forall₂ (fun text name => EndsTell text → NamedBy text name) texts names := by
  refine ⟨texts.map fun text => String.ofList (identifierName text.toList), ?_, ?_⟩
  · have hquery : "RETURN " ++ ", ".intercalate texts = projection "" false texts "" := by
      simp [projection]
    have hitems : List.Forall₂ IsItem texts
        (texts.map fun text => String.ofList (identifierName text.toList)) := by
      rw [List.forall₂_map_right_iff, List.forall₂_same]
      exact fun text htext => (plain text htext).isItem
    rw [hquery]
    exact resultColumns_projection .nothing isTail_empty false hitems some
  · rw [List.forall₂_map_right_iff, List.forall₂_same]
    exact fun text _ htell => namedBy_identifierName htell

theorem plain_items_name_columns_of_two :
    ∃ names, resultColumns ("RETURN " ++ ", ".intercalate ["`a``b`", "n.limit"]) = some names ∧
      List.Forall₂ NamedBy ["`a``b`", "n.limit"] names := by
  have hplain : ∀ text ∈ ["`a``b`", "n.limit"], IsPlain text := by
    intro text htext
    simp only [List.mem_cons, List.not_mem_nil, or_false] at htext
    rcases htext with rfl | rfl
    · exact ⟨⟨by decide, by decide⟩, by decide, by decide, by decide, by decide⟩
    · exact ⟨⟨by decide, by decide⟩, by decide, by decide, by decide, by decide⟩
  have hidentifier : EndsTell "`a``b`" := fun _ _ => ⟨"a`b", by decide⟩
  have hproperty : EndsTell "n.limit" := by
    intro inner hinner
    exact absurd (List.cons.inj hinner).1 (by decide)
  obtain ⟨names, hcolumns, hnames⟩ :=
    plain_items_name_columns ["`a``b`", "n.limit"] (by simp) hplain
  refine ⟨names, hcolumns, ?_⟩
  cases hnames with
  | cons hfirst hrest =>
      cases hrest with
      | cons hsecond hnone =>
          cases hnone
          exact .cons (hfirst hidentifier) (.cons (hsecond hproperty) .nil)

theorem ne_quoteIdentifier {text : String} {inner : List Char}
    (h : text.toList = backtickChar :: (inner ++ [backtickChar]))
    (hinner : doubled (undouble inner) ≠ inner) (name : String) : text ≠ quoteIdentifier name := by
  rintro rfl
  simp only [quoteIdentifier, String.toList_ofList, List.cons.injEq, true_and] at h
  have hsame := List.append_cancel_right h
  rw [← hsame, undouble_doubled] at hinner
  exact hinner rfl

/-- The first backtick and the last one belong to two identifiers. -/
theorem property_of_identifier_loses_its_ends :
    IsPlain "`n`.`name`" ∧ (∀ name, "`n`.`name`" ≠ quoteIdentifier name) ∧
      resultColumns ("RETURN " ++ ", ".intercalate ["`n`.`name`"]) = some ["n`.`name"] := by
  have hplain : IsPlain "`n`.`name`" :=
    ⟨⟨by decide, by decide⟩, by decide, by decide, by decide, by decide⟩
  have hchars : "`n`.`name`".toList =
      backtickChar :: (['n', backtickChar, '.', backtickChar, 'n', 'a', 'm', 'e'] ++
        [backtickChar]) := by
    decide
  have hother : ∀ name, "`n`.`name`" ≠ quoteIdentifier name :=
    ne_quoteIdentifier hchars (by decide)
  exact ⟨hplain, hother, by decide +kernel⟩

end CypherBridge.Query
