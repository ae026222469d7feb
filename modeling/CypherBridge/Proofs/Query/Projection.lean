import CypherBridge.Proofs.Query.Items

/-!
# Columns of an aliased projection

Of a query whose last `RETURN` projects items with quoted aliases the columns are the aliases, in
the order of the items.  An alias is read up to the end of its item, and what stands before the
last `AS` does not matter.
-/

namespace CypherBridge.Query

/-- An item `expression AS alias` where nothing of the expression ends it, with the alias in
backticks. -/
structure AliasedItem where
  expression : String
  name : String
  uncommented : withoutComments (Text.bytes expression) = Text.bytes expression
  closed : Nesting.start.run (Text.bytes expression) = .start
  inside : ∀ l ∈ lexemes (Text.bytes expression), endsItem l = false
  named : name ≠ ""

namespace AliasedItem

variable (i : AliasedItem)

def text : String := i.expression ++ " AS " ++ quoteIdentifier i.name

def quoted : List UInt8 := Text.bytes (quoteIdentifier i.name)

theorem bytes_text : Text.bytes i.text =
    Text.bytes i.expression ++ space :: (Keyword.asWord.spelling ++ space :: i.quoted) := by
  have has : Text.bytes " AS " = space :: (Keyword.asWord.spelling ++ [space]) := by decide
  simp [text, quoted, has]

theorem uncommented_text : withoutComments (Text.bytes i.text) = Text.bytes i.text := by
  have hexpression := IsPart.uncommented_bytes ⟨i.uncommented, i.closed⟩
  have hquoted : Uncommented i.quoted :=
    .of_closed (CommentScan.output_of_covers (covers_quoteIdentifier i.name))
      (run_quoteIdentifier i.name)
  have has := Keyword.asWord.uncommented_spelling.append (hquoted.cons (b := space) fun _ => rfl) rfl
  rw [bytes_text]
  exact (hexpression.append (has.cons (b := space) fun _ => rfl) rfl).output

theorem run_text : Nesting.start.run (Text.bytes i.text) = .start := by
  have hquoted : Nesting.start.run i.quoted = .start := by
    rw [Nesting.run_of_covers (covers_quoteIdentifier i.name)]
    show (⟨Quoting.outside.run i.quoted, 0⟩ : Nesting) = .start
    rw [quoted, run_quoteIdentifier]
    rfl
  have has : Nesting.start.run (space :: (Keyword.asWord.spelling ++ [space])) = .start := by decide
  have hbytes : Text.bytes i.text = Text.bytes i.expression ++
      (space :: (Keyword.asWord.spelling ++ [space]) ++ i.quoted) := by
    simp [bytes_text]
  rw [hbytes, Nesting.run_append, Nesting.run_append, i.closed, has, hquoted]

def front : List Lexeme :=
  .text [space] :: (lexemes (Text.bytes i.expression) ++ [.text [space]])

def label : List Lexeme := .text [space] :: lexemes i.quoted

theorem itemLexemes_text : itemLexemes i.text = i.front ++ Keyword.asWord.lexeme :: i.label := by
  have hexpression := lexemesFrom_append_space i.closed none
    (Keyword.asWord.spelling ++ space :: i.quoted)
  have has := lexemesFrom_append_space Keyword.asWord.run_spelling none i.quoted
  rw [lexemesFrom_spelling] at has
  rw [has] at hexpression
  rw [itemLexemes, bytes_text]
  show _ :: lexemesFrom .start none _ = _
  rw [hexpression]
  simp [front, label]
  rfl

theorem label_text : ∀ l ∈ i.label, ∃ bs, l = .text bs := by
  intro l hl
  rcases List.mem_cons.1 hl with rfl | hl
  · exact ⟨_, rfl⟩
  · exact lexemesFrom_of_covers (covers_quoteIdentifier i.name) none l hl

theorem front_inItem : ∀ l ∈ i.front, endsItem l = false := by
  intro l hl
  simp only [front, List.mem_cons, List.mem_append, List.not_mem_nil, or_false] at hl
  rcases hl with rfl | hl | rfl
  · rfl
  · exact i.inside l hl
  · rfl

theorem names_label {front : List Lexeme} (h : ∀ l ∈ front, endsItem l = false) :
    Names (front ++ Keyword.asWord.lexeme :: i.label) i.name where
  inside := by
    intro l hl
    rcases List.mem_append.1 hl with hl | hl
    · exact h l hl
    · rcases List.mem_cons.1 hl with rfl | hl
      · rfl
      · obtain ⟨bs, rfl⟩ := i.label_text l hl
        rfl
  named := by
    have hspace : Text.bytes " " = [space] := by decide
    have hnaming : naming (front ++ Keyword.asWord.lexeme :: i.label) = i.label := by
      rw [← List.singleton_append, ← List.append_assoc, naming_append i.label_text,
        Keyword.lexeme, naming_append_as, List.nil_append]
    refine itemName_eq_ok_iff.2 ⟨" " ++ quoteIdentifier i.name, ?_,
      nameOfText_quoteIdentifier i.named⟩
    rw [hnaming, label, List.flatMap_cons, Text.bytes_append, hspace]
    exact congrArg _ (lexemesFrom_bytes .start none i.quoted)

theorem isItem : IsItem i.text i.name where
  uncommented := i.uncommented_text
  closed := i.run_text
  names := by
    rw [itemLexemes_text]
    exact i.names_label i.front_inItem
  first := by
    obtain ⟨front, hfront, hdrop⟩ := exists_dropDistinct i.front Keyword.asWord.spelling
    refine ⟨front ++ Keyword.asWord.lexeme :: i.label,
      i.names_label fun l hl => i.front_inItem l (hfront l hl), ?_⟩
    intro rest
    rw [itemLexemes_text, List.append_assoc, List.append_assoc]
    exact hdrop (i.label ++ rest)

end AliasedItem

def projectionText (items : List AliasedItem) : String :=
  ", ".intercalate (items.map AliasedItem.text)

def projecting (before : String) (items : List AliasedItem) : String :=
  before ++ " RETURN " ++ projectionText items

theorem forall₂_isItem (items : List AliasedItem) :
    List.Forall₂ IsItem (items.map AliasedItem.text) (items.map AliasedItem.name) := by
  rw [List.forall₂_map_left_iff, List.forall₂_map_right_iff, List.forall₂_same]
  exact fun i _ => i.isItem

theorem resultColumns_projecting {before : String} (closed : IsClosed before)
    {items : List AliasedItem} (some : items ≠ []) :
    resultColumns (projecting before items) = .some (items.map AliasedItem.name) := by
  have hquery : projecting before items =
      projection (before ++ " ") false (items.map AliasedItem.text) "" := by
    simp [projecting, projection, projectionText, String.append_assoc]
  rw [hquery]
  exact resultColumns_projection (.closed closed) isTail_empty false (forall₂_isItem items)
    (by simpa using some)

/-- The aliases are read back with a `DISTINCT` and without, and whatever clauses follow. -/
theorem aliases_are_read_back (before tail : String) (distinct : Bool) (items : List AliasedItem)
    (closed : IsClosed before) (some : items ≠ []) (follows : IsTail tail) :
    resultColumns (before ++ " RETURN " ++ (if distinct then "DISTINCT " else "") ++
      projectionText items ++ tail) = .some (items.map AliasedItem.name) := by
  have hquery : before ++ " RETURN " ++ (if distinct then "DISTINCT " else "") ++
      projectionText items ++ tail =
        projection (before ++ " ") distinct (items.map AliasedItem.text) tail := by
    have hreturn : " RETURN " = " " ++ "RETURN " := by decide
    simp only [projection, projectionText, hreturn, String.append_assoc]
  rw [hquery]
  exact resultColumns_projection (.closed closed) follows distinct (forall₂_isItem items)
    (by simpa using some)

def callItem : AliasedItem :=
  ⟨"coalesce(n.name, 'RETURN a, b')", "a, `b` /* RETURN (", by decide +kernel, by decide +kernel,
    by decide +kernel, by decide⟩

def countItem : AliasedItem :=
  ⟨"size(n.tags) AS tags", "; // AS", by decide +kernel, by decide +kernel, by decide +kernel,
    by decide⟩

theorem aliases_are_read_back_before_order :
    resultColumns ("MATCH (n) // RETURN\n" ++ " RETURN " ++ "DISTINCT " ++
      projectionText [callItem, countItem] ++ " ORDER BY n.name LIMIT 5") =
        some ["a, `b` /* RETURN (", "; // AS"] :=
  aliases_are_read_back "MATCH (n) // RETURN\n" " ORDER BY n.name LIMIT 5" true
    [callItem, countItem] ⟨by decide +kernel, by decide +kernel⟩ (by simp)
    ⟨.inr ⟨" ORDER ", by simp, "BY n.name LIMIT 5", by decide⟩, by decide +kernel,
      by decide +kernel⟩

end CypherBridge.Query
