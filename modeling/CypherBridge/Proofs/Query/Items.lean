import CypherBridge.Proofs.Query.Comments
import CypherBridge.Proofs.Query.Names

/-!
# Columns of a list of items

A query ends with a `RETURN`, the items with a comma between any two, and what may follow them.
If each item is named wherever it stands, the columns have these names, whatever stands in front
of the `RETURN` and behind the items.
-/

namespace CypherBridge.Query

def Keyword.lexeme (k : Keyword) : Lexeme := .keyword k k.spelling

theorem Keyword.run_spelling (k : Keyword) : Nesting.start.run k.spelling = .start := by
  cases k <;> decide

theorem lexemesFrom_spelling (k : Keyword) : lexemesFrom .start none k.spelling = [k.lexeme] := by
  cases k <;> decide

theorem Keyword.uncommented_spelling (k : Keyword) : Uncommented k.spelling := by
  cases k <;> exact .of_closed (by decide) (by decide)

theorem Nesting.quoting_run (n : Nesting) (bs : List UInt8) :
    (n.run bs).quoting = n.quoting.run bs := by
  induction bs generalizing n with
  | nil => rfl
  | cons b bs ih => exact ih (n.step b)

theorem Nesting.run_append (n : Nesting) (as bs : List UInt8) :
    n.run (as ++ bs) = (n.run as).run bs := List.foldl_append ..

/-! ## Items as they are written -/

/-- A text without comments that closes its quotes and brackets. -/
structure IsPart (text : String) : Prop where
  uncommented : withoutComments (Text.bytes text) = Text.bytes text
  closed : Nesting.start.run (Text.bytes text) = .start

theorem IsPart.uncommented_bytes {text : String} (h : IsPart text) :
    Uncommented (Text.bytes text) := by
  apply Uncommented.of_closed h.uncommented
  have hquoting := Nesting.quoting_run .start (Text.bytes text)
  rw [h.closed] at hquoting
  exact hquoting.symm

def itemLexemes (text : String) : List Lexeme := .text [space] :: lexemes (Text.bytes text)

structure IsListed (text name : String) : Prop extends IsPart text where
  names : Names (itemLexemes text) name

/-- The first item may lose a `DISTINCT`, and is named `name` nevertheless. -/
def IsFirst (text name : String) : Prop :=
  ∃ item, Names item name ∧ ∀ rest, dropDistinct (itemLexemes text ++ rest) = item ++ rest

/-- A text that is named `name` as an item, also as the first one. -/
structure IsItem (text name : String) : Prop extends IsListed text name where
  first : IsFirst text name

def listBytes (texts : List String) : List UInt8 :=
  [Lexeme.commaByte].intercalate (texts.map fun text => space :: Text.bytes text)

def listLexemes (texts : List String) : List Lexeme :=
  [Lexeme.comma].intercalate (texts.map itemLexemes)

section List

variable (text other : String) (texts : List String)

theorem listBytes_singleton : listBytes [text] = space :: Text.bytes text :=
  List.intercalate_singleton

theorem listLexemes_singleton : listLexemes [text] = itemLexemes text :=
  List.intercalate_singleton

theorem listBytes_cons_cons : listBytes (text :: other :: texts) =
    space :: Text.bytes text ++ Lexeme.commaByte :: listBytes (other :: texts) := by
  simp only [listBytes, List.map_cons, List.intercalate_cons_cons, List.append_assoc,
    List.singleton_append]

theorem listLexemes_cons_cons : listLexemes (text :: other :: texts) =
    itemLexemes text ++ Lexeme.comma :: listLexemes (other :: texts) := by
  simp only [listLexemes, List.map_cons, List.intercalate_cons_cons, List.append_assoc,
    List.singleton_append]

theorem bytes_list :
    space :: Text.bytes (", ".intercalate (text :: texts)) = listBytes (text :: texts) := by
  induction texts generalizing text with
  | nil => simp [listBytes]
  | cons other texts ih =>
      have hcomma : Text.bytes ", " = [Lexeme.commaByte, space] := by decide
      rw [listBytes_cons_cons, ← ih other]
      simp [String.intercalate_cons_cons, hcomma]

variable {text texts}

theorem IsPart.run_space (h : IsPart text) :
    Nesting.start.run (space :: Text.bytes text) = .start := h.closed

theorem uncommented_list (each : ∀ t ∈ text :: texts, IsPart t) :
    Uncommented (listBytes (text :: texts)) := by
  induction texts generalizing text with
  | nil =>
      rw [listBytes_singleton]
      exact (each text List.mem_cons_self).uncommented_bytes.cons (fun _ => rfl)
  | cons other texts ih =>
      have htext := (each text List.mem_cons_self).uncommented_bytes
      have hrest := ih (fun t ht => each t (List.mem_cons_of_mem _ ht))
      rw [listBytes_cons_cons]
      exact (htext.cons (fun _ => rfl)).append (hrest.cons (fun _ => rfl)) rfl

theorem run_list (each : ∀ t ∈ text :: texts, IsPart t) :
    Nesting.start.run (listBytes (text :: texts)) = .start := by
  induction texts generalizing text with
  | nil =>
      rw [listBytes_singleton]
      exact (each text List.mem_cons_self).run_space
  | cons other texts ih =>
      have htext := (each text List.mem_cons_self).run_space
      have hrest := ih (fun t ht => each t (List.mem_cons_of_mem _ ht))
      rw [listBytes_cons_cons, Nesting.run_append, htext]
      exact hrest

theorem lexemesFrom_list (each : ∀ t ∈ text :: texts, IsPart t) :
    lexemesFrom .start none (listBytes (text :: texts)) = listLexemes (text :: texts) := by
  have hitem (t : String) : lexemesFrom .start none (space :: Text.bytes t) = itemLexemes t :=
    lexemesFrom_space none (Text.bytes t)
  induction texts generalizing text with
  | nil => rw [listBytes_singleton, listLexemes_singleton, hitem]
  | cons other texts ih =>
      have htext := (each text List.mem_cons_self).run_space
      have hrest := ih (fun t ht => each t (List.mem_cons_of_mem _ ht))
      rw [listBytes_cons_cons, lexemesFrom_append_comma htext, hitem, hrest, listLexemes_cons_cons]

end List

def openingLexemes (distinct : Bool) : List Lexeme :=
  if distinct then [.text [space], Keyword.distinct.lexeme] else []

theorem itemNames_list (distinct : Bool) {texts names : List String}
    (each : List.Forall₂ IsListed texts names)
    (first : ∀ text ∈ texts.head?, ∀ name ∈ names.head?, IsFirst text name)
    (some : texts ≠ []) {gap rest : List Lexeme}
    (hgap : IsGap gap) (hrest : ∀ l ∈ rest.head?, endsProjection l = true) :
    itemNames (Query.items (openingLexemes distinct ++ (listLexemes texts ++ (gap ++ rest)))) =
      .ok (.some names) := by
  have hnames {texts names : List String} (each : List.Forall₂ IsListed texts names) :
      List.Forall₂ Names (texts.map itemLexemes) names :=
    List.forall₂_map_left_iff.2 (each.imp fun _ _ h => h.names)
  cases distinct with
  -- behind a `DISTINCT` the first item is read like the others, even if it starts with another one
  | true => exact itemNames_items (hnames each) (by simpa using some) hgap hrest rfl
  | false =>
      cases each with
      | nil => exact absurd rfl some
      | @cons text name texts names htext htexts =>
          obtain ⟨first, hfirst, hdrop⟩ := first text rfl name rfl
          obtain ⟨others, hothers⟩ : ∃ others, ∀ item,
              [Lexeme.comma].intercalate (item :: texts.map itemLexemes) = item ++ others := by
            cases texts with
            | nil => exact ⟨[], fun item => by simp⟩
            | cons other texts =>
                exact ⟨_, fun item => by rw [List.map_cons, List.intercalate_cons_cons,
                  List.append_assoc]⟩
          refine itemNames_items (.cons hfirst (hnames htexts)) (by simp) hgap hrest ?_
          rw [listLexemes, List.map_cons, hothers, hothers, List.append_assoc, List.append_assoc]
          exact hdrop _

/-! ## What stands around them -/

structure IsClosed (text : String) : Prop where
  comments : CommentScan.start.reach none (Text.bytes text) = .start
  nesting : Nesting.start.run (withoutComments (Text.bytes text)) = .start

/-- What may stand in front of the `RETURN`: nothing, or a closed text and a blank. -/
inductive IsFront : String → Prop
  | nothing : IsFront ""
  | closed {before : String} (h : IsClosed before) : IsFront (before ++ " ")

theorem IsFront.exists_lexemes {front : String} (h : IsFront front) {bs : List UInt8}
    (uncommented : withoutComments bs = bs) :
    ∃ ls, lexemes (withoutComments (Text.bytes front ++ bs)) = ls ++ lexemesFrom .start none bs := by
  cases h with
  | nothing =>
      refine ⟨[], ?_⟩
      show lexemes (withoutComments bs) = _
      rw [uncommented]
      rfl
  | @closed before h =>
      have hspace : Text.bytes " " = [space] := by decide
      have hbytes : Text.bytes (before ++ " ") ++ bs = Text.bytes before ++ space :: bs := by
        simp [hspace]
      have hblank : withoutComments (space :: bs) = space :: bs :=
        congrArg (space :: ·) uncommented
      refine ⟨lexemes (withoutComments (Text.bytes before)) ++ [.text [space]], ?_⟩
      rw [hbytes, withoutComments_append h.comments hblank rfl, List.append_assoc]
      exact lexemesFrom_append_space h.nesting none bs

/-- What may stand behind the items: nothing, or a text that starts with the end of the
projection and has no `RETURN`. -/
structure IsTail (tail : String) : Prop where
  opening : tail = "" ∨ ∃ opening ∈ [" ORDER ", " SKIP ", " LIMIT ", ";"], ∃ rest,
    tail = opening ++ rest
  uncommented : withoutComments (Text.bytes tail) = Text.bytes tail
  final : ∀ l ∈ lexemes (Text.bytes tail), isReturn l = false

theorem isTail_empty : IsTail "" := ⟨.inl rfl, by decide, by decide⟩

namespace IsTail

variable {tail : String}

theorem head_bytes (h : IsTail tail) : (Text.bytes tail).head? = none ∨
    (Text.bytes tail).head? = some space ∨
      (Text.bytes tail).head? = some Lexeme.semicolonByte := by
  rcases h.opening with rfl | ⟨opening, hopening, rest, rfl⟩
  · exact .inl rfl
  · rw [Text.bytes_append, List.head?_append]
    simp only [List.mem_cons, List.not_mem_nil, or_false] at hopening
    rcases hopening with rfl | rfl | rfl | rfl
    · exact .inr (.inl rfl)
    · exact .inr (.inl rfl)
    · exact .inr (.inl rfl)
    · exact .inr (.inr rfl)

theorem parts_head (h : IsTail tail) : parts (Text.bytes tail).head? = true := by
  rcases h.head_bytes with hhead | hhead | hhead <;> rw [hhead] <;> decide

theorem neutral_head (h : IsTail tail) :
    CommentScan.isNeutral (Text.bytes tail).head? = true := by
  rcases h.head_bytes with hhead | hhead | hhead <;> rw [hhead] <;> decide

theorem exists_lexemes (h : IsTail tail) :
    ∃ gap rest, lexemesFrom .start none (Text.bytes tail) = gap ++ rest ∧ IsGap gap ∧
      ∀ l ∈ rest.head?, endsProjection l = true := by
  have hclause {k : Keyword} (hk : k.isClause = true) {opening : String}
      (hopening : Text.bytes opening = space :: (k.spelling ++ [space])) (rest : String) :
      ∃ gap more, lexemesFrom .start none (Text.bytes (opening ++ rest)) = gap ++ more ∧
        IsGap gap ∧ ∀ l ∈ more.head?, endsProjection l = true := by
    refine ⟨[.text [space]], k.lexeme :: lexemesFrom .start none (space :: Text.bytes rest), ?_,
      .inr rfl, by simpa [Keyword.lexeme, endsProjection] using hk⟩
    rw [Text.bytes_append, hopening, List.cons_append, List.append_assoc, lexemesFrom_space,
      List.singleton_append, lexemesFrom_append rfl, lexemesFrom_spelling, k.run_spelling]
    rfl
  rcases h.opening with rfl | ⟨opening, hopening, rest, rfl⟩
  · exact ⟨[], [], rfl, .inl rfl, by simp⟩
  · simp only [List.mem_cons, List.not_mem_nil, or_false] at hopening
    rcases hopening with rfl | rfl | rfl | rfl
    · exact hclause (k := .order) rfl (by decide) rest
    · exact hclause (k := .skip) rfl (by decide) rest
    · exact hclause (k := .limit) rfl (by decide) rest
    · have hsemicolon : Text.bytes ";" = [Lexeme.semicolonByte] := by decide
      refine ⟨[], .semicolon :: lexemesFrom .start none (Text.bytes rest), ?_, .inl rfl,
        by simp [endsProjection]⟩
      rw [Text.bytes_append, hsemicolon, List.singleton_append, lexemesFrom_semicolon]
      rfl

end IsTail

/-! ## The query -/

def projection (front : String) (distinct : Bool) (texts : List String) (tail : String) : String :=
  front ++ "RETURN " ++ (if distinct then "DISTINCT " else "") ++ ", ".intercalate texts ++ tail

def openingBytes (distinct : Bool) : List UInt8 :=
  if distinct then space :: Keyword.distinct.spelling else []

section Query

variable {front tail : String} (distinct : Bool) {text : String} {texts : List String}

theorem bytes_projection (front tail text : String) (texts : List String) :
    Text.bytes (projection front distinct (text :: texts) tail) =
      Text.bytes front ++ (Keyword.returnWord.spelling ++
        (openingBytes distinct ++ (listBytes (text :: texts) ++ Text.bytes tail))) := by
  have hreturn : Text.bytes "RETURN " = Keyword.returnWord.spelling ++ [space] := by decide
  have hdistinct : Text.bytes "DISTINCT " = Keyword.distinct.spelling ++ [space] := by decide
  cases distinct <;> simp [projection, openingBytes, hreturn, hdistinct, ← bytes_list]

theorem head_list (more : List UInt8) : (listBytes (text :: texts) ++ more).head? = some space := by
  rw [← bytes_list]
  rfl

theorem head_opening (more : List UInt8) :
    (openingBytes distinct ++ (listBytes (text :: texts) ++ more)).head? = some space := by
  cases distinct with
  | false => exact head_list more
  | true => rfl

theorem withoutComments_return (each : ∀ t ∈ text :: texts, IsPart t) (h : IsTail tail) :
    withoutComments (Keyword.returnWord.spelling ++
        (openingBytes distinct ++ (listBytes (text :: texts) ++ Text.bytes tail))) =
      Keyword.returnWord.spelling ++
        (openingBytes distinct ++ (listBytes (text :: texts) ++ Text.bytes tail)) := by
  have hopening : Uncommented (openingBytes distinct ++ (listBytes (text :: texts) ++ [])) := by
    rw [List.append_nil]
    cases distinct with
    | false => exact uncommented_list each
    | true =>
        have hdistinct := Keyword.distinct.uncommented_spelling.cons (b := space) (fun _ => rfl)
        apply hdistinct.append (uncommented_list each)
        rw [← List.append_nil (listBytes _), head_list]
        rfl
  have hreturn := Keyword.returnWord.uncommented_spelling.append hopening
    (by rw [head_opening]; rfl)
  have htail := withoutComments_append hreturn.reach h.uncommented h.neutral_head
  rw [hreturn.output] at htail
  simpa using htail

theorem lexemesFrom_return (each : ∀ t ∈ text :: texts, IsPart t) (h : IsTail tail) :
    lexemesFrom .start none (Keyword.returnWord.spelling ++
        (openingBytes distinct ++ (listBytes (text :: texts) ++ Text.bytes tail))) =
      Keyword.returnWord.lexeme :: (openingLexemes distinct ++
        (listLexemes (text :: texts) ++ lexemesFrom .start none (Text.bytes tail))) := by
  have hlist : lexemesFrom .start none (listBytes (text :: texts) ++ Text.bytes tail) =
      listLexemes (text :: texts) ++ lexemesFrom .start none (Text.bytes tail) := by
    rw [lexemesFrom_append h.parts_head, lexemesFrom_list each, run_list each]
  have hopening : lexemesFrom .start none
      (openingBytes distinct ++ (listBytes (text :: texts) ++ Text.bytes tail)) =
        openingLexemes distinct ++ lexemesFrom .start none
          (listBytes (text :: texts) ++ Text.bytes tail) := by
    cases distinct with
    | false => rfl
    | true =>
        rw [openingBytes, if_pos rfl, List.cons_append, lexemesFrom_space,
          lexemesFrom_append (by rw [head_list]; rfl), lexemesFrom_spelling,
          Keyword.run_spelling]
        rfl
  rw [lexemesFrom_append (by rw [head_opening]; rfl), lexemesFrom_spelling, Keyword.run_spelling,
    hopening, hlist]
  rfl

theorem isReturn_of_mem_list (each : ∀ t ∈ texts, ∃ name, IsListed t name) :
    ∀ l ∈ listLexemes texts, isReturn l = false := by
  have hinside : ∀ item ∈ texts.map itemLexemes, ∀ l ∈ item, endsItem l = false := by
    intro item hitem
    obtain ⟨t, ht, rfl⟩ := List.mem_map.1 hitem
    obtain ⟨name, hname⟩ := each t ht
    exact hname.names.inside
  intro l hl
  rcases inItem_of_mem_intercalate hinside l hl with rfl | hl
  · rfl
  · exact isReturn_of_inItem hl

end Query

theorem scanColumns_projection {front tail : String} (hfront : IsFront front) (htail : IsTail tail)
    (distinct : Bool) {texts : List String} (each : ∀ t ∈ texts, IsPart t) (some : texts ≠ []) :
    ∃ projected, projected = openingLexemes distinct ++
        (listLexemes texts ++ lexemesFrom .start none (Text.bytes tail)) ∧
      scanColumns (projection front distinct texts tail) =
        itemNames (Query.items ((behindLast? isReturn projected).getD projected)) := by
  obtain ⟨text, texts, rfl⟩ := List.exists_cons_of_ne_nil some
  obtain ⟨ls, hls⟩ := hfront.exists_lexemes (withoutComments_return distinct each htail)
  refine ⟨_, rfl, ?_⟩
  rw [scanColumns, bytes_projection, hls, lexemesFrom_return distinct each htail, Keyword.lexeme,
    afterReturn?_append]

theorem resultColumns_list {front tail : String} (hfront : IsFront front)
    (htail : IsTail tail) (distinct : Bool) {texts names : List String}
    (each : List.Forall₂ IsListed texts names)
    (first : ∀ text ∈ texts.head?, ∀ name ∈ names.head?, IsFirst text name) (some : texts ≠ []) :
    resultColumns (projection front distinct texts tail) = .some names := by
  obtain ⟨hitems, -⟩ := (List.forall₂_and_left _ _).1
    (each.imp fun t name h => (⟨⟨name, h⟩, h⟩ : (∃ name, IsListed t name) ∧ IsListed t name))
  have hparts : ∀ t ∈ texts, IsPart t := fun t ht => (hitems t ht).elim fun _ h => h.toIsPart
  obtain ⟨gap, rest, hlexemes, hgap, hrest⟩ := htail.exists_lexemes
  have hnames := itemNames_list distinct each first some hgap hrest
  obtain ⟨projected, hprojected, hscan⟩ :=
    scanColumns_projection hfront htail distinct hparts some
  have hreturn : ∀ l ∈ projected, isReturn l = false := by
    intro l hl
    rw [hprojected] at hl
    rcases List.mem_append.1 hl with hl | hl
    · cases distinct <;> simp [openingLexemes] at hl
      rcases hl with rfl | rfl <;> rfl
    · rcases List.mem_append.1 hl with hl | hl
      · exact isReturn_of_mem_list hitems l hl
      · exact htail.final l hl
  rw [resultColumns, hscan, behindLast?_eq_none_iff.2 hreturn, Option.getD_none, hprojected, hlexemes,
    hnames]

theorem resultColumns_projection {front tail : String} (hfront : IsFront front)
    (htail : IsTail tail) (distinct : Bool) {texts names : List String}
    (each : List.Forall₂ IsItem texts names) (some : texts ≠ []) :
    resultColumns (projection front distinct texts tail) = .some names := by
  refine resultColumns_list hfront htail distinct (each.imp fun _ _ h => h.toIsListed) ?_ some
  cases each with
  | nil => exact absurd rfl some
  | cons h _ => simpa using h.first

end CypherBridge.Query
