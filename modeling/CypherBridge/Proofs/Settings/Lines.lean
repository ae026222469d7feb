import CypherBridge.Proofs.Text.Trimming
import CypherBridge.Settings.EnvFile.Line
import Mathlib.Data.List.TakeWhile

/-!
# Lines of environment files are read back

The name and the value that a line assigns are read as they are written, whatever blanks stand
round them and whatever stands in the value, and the other lines assign nothing.  So the
assignments of a file are those of its lines.
-/

namespace CypherBridge.Settings

open CypherBridge.Text

section Lines

variable {line : List Char}

theorem splitLines_of_inline (h : '\n' ∉ line) : splitLines line = [line] := by
  induction line with
  | nil => rfl
  | cons c line ih =>
      rw [List.mem_cons, not_or] at h
      obtain ⟨hc, hline⟩ := h
      rw [splitLines, if_neg (Ne.symm hc), ih hline]

theorem splitLines_append (h : '\n' ∉ line) (rest : List Char) :
    splitLines (line ++ '\n' :: rest) = line :: splitLines rest := by
  induction line with
  | nil => rfl
  | cons c line ih =>
      rw [List.mem_cons, not_or] at h
      obtain ⟨hc, hline⟩ := h
      rw [List.cons_append, splitLines, if_neg (Ne.symm hc), ih hline]

theorem splitLines_intercalate {lines : List (List Char)} (first : List Char)
    (inline : ∀ line ∈ first :: lines, '\n' ∉ line) :
    splitLines (['\n'].intercalate (first :: lines)) = first :: lines := by
  induction lines generalizing first with
  | nil =>
      rw [List.intercalate_singleton]
      exact splitLines_of_inline (inline first List.mem_cons_self)
  | cons second lines ih =>
      obtain ⟨hfirst, hlines⟩ := List.forall_mem_cons.1 inline
      rw [List.intercalate_cons_cons, List.append_assoc, List.singleton_append,
        splitLines_append hfirst, ih second hlines]

end Lines

/-! ## The reading of a line -/

section Reading

variable {line name value : List Char}

/-- What a line assigns by what stands before and behind its first equals sign. -/
theorem assignmentOf?_eq (hcomment : (trim line).head? ≠ some '#')
    (hline : dropExport (trim line) = name ++ '=' :: value) (hname : '=' ∉ name) :
    assignmentOf? line = if (trim name).isEmpty then none
      else some ⟨.ofList (trim name), .ofList (withoutQuotes (trim value))⟩ := by
  have hbefore : ∀ c ∈ name, (c != '=') = true := by
    intro c hc
    rw [bne_iff_ne]
    rintro rfl
    exact hname hc
  have htake : (name ++ '=' :: value).takeWhile (· != '=') = name := by
    rw [List.takeWhile_append_of_pos hbefore, List.takeWhile_cons_of_neg (by decide),
      List.append_nil]
  have hdrop : (name ++ '=' :: value).dropWhile (· != '=') = '=' :: value := by
    rw [List.dropWhile_append_of_pos hbefore, List.dropWhile_cons_of_neg (by decide)]
  simp only [assignmentOf?, if_neg hcomment, hline, htake, hdrop]

theorem assignmentOf?_of_comment (h : (trim line).head? = some '#') : assignmentOf? line = none :=
  if_pos h

theorem dropExport_sublist (line : List Char) : (dropExport line).Sublist line := by
  unfold dropExport
  split
  · exact List.drop_sublist _ _
  · exact List.Sublist.refl _

theorem assignmentOf?_of_no_equals (h : '=' ∉ line) : assignmentOf? line = none := by
  have hnone : ∀ c ∈ dropExport (trim line), (c != '=') = true := by
    intro c hc
    rw [bne_iff_ne]
    rintro rfl
    exact h ((trim_sublist line).mem ((dropExport_sublist _).mem hc))
  unfold assignmentOf?
  simp only [List.dropWhile_eq_nil_iff.2 hnone]
  split <;> rfl

theorem withoutQuotes_quoted (quote : QuoteMark) (value : List Char) :
    withoutQuotes (quote.char :: (value ++ [quote.char])) = value := by
  have hquoted : unquoteBy quote.char (quote.char :: (value ++ [quote.char])) = some value :=
    unquoteBy_quoted quote.char value
  cases quote with
  | double =>
      rw [QuoteMark.char] at hquoted ⊢
      rw [withoutQuotes, hquoted, Option.some_or, Option.getD_some]
  | single =>
      rw [QuoteMark.char] at hquoted ⊢
      have hother : unquoteBy '"' ('\'' :: (value ++ ['\''])) = none := by simp [unquoteBy]
      rw [withoutQuotes, hother, Option.none_or, hquoted, Option.getD_some]

end Reading

theorem dropExport_append (rest : List Char) : dropExport (exportWord ++ rest) = rest := by
  rw [dropExport, if_pos (List.isPrefixOf_iff_prefix.2 (List.prefix_append _ _)),
    List.drop_left]

theorem dropExport_key (key : Key) {c : Char} (hc : isBlank c = true ∨ c = '=')
    (rest : List Char) : dropExport (key.chars ++ c :: rest) = key.chars ++ c :: rest := by
  refine if_neg ?_
  rw [List.isPrefixOf_iff_prefix]
  rintro ⟨more, hmore⟩
  rw [List.append_eq_append_iff] at hmore
  obtain ⟨within, hkey, -⟩ | ⟨behind, hword, hrest⟩ := hmore
  · have hprefix : exportWord.isPrefixOf key.chars = true :=
      List.isPrefixOf_iff_prefix.2 ⟨within, hkey.symm⟩
    rw [key.no_export] at hprefix
    cases hprefix
  · cases behind with
    | nil =>
        have hprefix : exportWord.isPrefixOf key.chars = true := by
          rw [hword, List.append_nil]
          exact List.isPrefixOf_iff_prefix.2 (List.prefix_refl _)
        rw [key.no_export] at hprefix
        cases hprefix
    | cons d behind =>
        -- the name would have to end where the blank of the word stands
        obtain ⟨rfl, -⟩ := List.cons.inj hrest
        have hmem : c ∈ exportWord := by simp [hword]
        obtain rfl : c = ' ' := by
          simp only [exportWord, List.mem_cons, List.not_mem_nil, or_false] at hmem
          rcases hmem with rfl | rfl | rfl | rfl | rfl | rfl | rfl <;> revert hc <;> decide
        have hname : exportName = key.chars ++ (' ' :: behind).dropLast := by
          rw [← List.dropLast_append_of_ne_nil (by simp), ← hword]
          rfl
        cases behind with
        | nil => exact key.ne_export (by simpa using hname.symm)
        | cons e behind =>
            have hblank : ' ' ∈ exportName := by simp [hname]
            revert hblank
            decide

theorem dropExport_key_gap (key : Key) (gap : Gap) (rest : List Char) :
    dropExport (key.chars ++ (gap.chars ++ '=' :: rest)) =
      key.chars ++ (gap.chars ++ '=' :: rest) := by
  cases hgap : gap.chars with
  | nil => exact dropExport_key key (.inr rfl) rest
  | cons c cs =>
      have hblank := gap.blank
      rw [hgap, allBlank, List.all_cons, Bool.and_eq_true] at hblank
      exact dropExport_key key (.inl hblank.1) _

theorem notMem_of_allBlank {blanks : List Char} {c : Char} (h : allBlank blanks = true)
    (hc : isBlank c = false) : c ∉ blanks := by
  intro hmem
  have hblank := List.all_eq_true.1 h c hmem
  rw [hc] at hblank
  cases hblank

theorem allBlank_append {first second : List Char} (h : allBlank first = true)
    (h' : allBlank second = true) : allBlank (first ++ second) = true := by
  rw [allBlank, List.all_append, Bool.and_eq_true]
  exact ⟨h, h'⟩

theorem Key.exists_cons (key : Key) :
    ∃ c cs, key.chars = c :: cs ∧ isBlank c = false ∧ c ≠ '#' := by
  cases hkey : key.chars with
  | nil => exact absurd hkey key.ne_nil
  | cons c cs =>
      have htrimmed := key.trimmed
      have hcomment := key.no_comment
      rw [hkey] at htrimmed hcomment
      refine ⟨c, cs, rfl, isBlank_head_of_trimmed htrimmed, ?_⟩
      rintro rfl
      exact hcomment rfl

/-- What is left of a margin in front of a text that is not taken for the word `export`. -/
theorem Margin.exists_rest (m : Margin) {c : Char} {cs : List Char} (hc : isBlank c = false)
    (hcomment : c ≠ '#') (hexport : dropExport (c :: trimEnd cs) = c :: trimEnd cs) :
    ∃ gap, allBlank gap = true ∧ (trim (m.chars ++ c :: cs)).head? ≠ some '#' ∧
      dropExport (trim (m.chars ++ c :: cs)) = gap ++ c :: trimEnd cs := by
  unfold chars
  cases m.exported with
  | false =>
      have hblank : allBlank (m.before.chars ++ ([] ++ m.behind.chars)) = true :=
        allBlank_append m.before.blank m.behind.blank
      have htrim := trim_blanks_append_cons hblank hc cs
      refine ⟨[], rfl, ?_, ?_⟩
      · rw [if_neg Bool.false_ne_true, htrim]
        simpa using hcomment
      · rw [if_neg Bool.false_ne_true, htrim]
        exact hexport
  | true =>
      have htrim : trim (m.before.chars ++ (exportWord ++ m.behind.chars) ++ c :: cs) =
          exportWord ++ (m.behind.chars ++ c :: trimEnd cs) := by
        have hword : m.before.chars ++ (exportWord ++ m.behind.chars) ++ c :: cs =
            m.before.chars ++ 'e' :: (exportWord.tail ++ m.behind.chars ++ c :: cs) := by
          simp [exportWord]
        rw [hword, trim_blanks_append_cons m.before.blank (by decide), trimEnd_append_cons hc]
        simp [exportWord]
      refine ⟨m.behind.chars, m.behind.blank, ?_, ?_⟩
      · rw [if_pos rfl, htrim]
        simp [exportWord]
      · rw [if_pos rfl, htrim, dropExport_append]

/-! ## Lines -/

theorem QuoteMark.not_blank (quote : QuoteMark) : isBlank quote.char = false := by
  cases quote <;> decide

theorem assignmentOf?_nameless (m : Margin) (value : List Char) :
    assignmentOf? (m.chars ++ '=' :: value) = none := by
  have hequals : isBlank '=' = false := by decide
  have hexport : dropExport ('=' :: trimEnd value) = '=' :: trimEnd value := rfl
  obtain ⟨gap, hgap, hcomment, hline⟩ := m.exists_rest hequals (by decide) hexport
  rw [assignmentOf?_eq hcomment hline (notMem_of_allBlank hgap hequals), trim_of_allBlank hgap]
  rfl

theorem assignmentOf?_written (w : Written) : assignmentOf? w.chars = some w.assignment := by
  obtain ⟨c, cs, hkey, hc, hcomment⟩ := w.key.exists_cons
  let quoted := w.quote.char :: (w.value.chars ++ [w.quote.char])
  have hquote := w.quote.not_blank
  have hequals : isBlank '=' = false := by decide
  have hchars : w.chars = w.margin.chars ++ c :: (cs ++ w.right.chars ++ '=' :: w.lead.chars ++
      w.quote.char :: w.value.chars ++ w.quote.char :: w.behind.chars) := by
    simp [Written.chars, hkey]
  have hend : trimEnd (cs ++ w.right.chars ++ '=' :: w.lead.chars ++
      w.quote.char :: w.value.chars ++ w.quote.char :: w.behind.chars) =
      cs ++ (w.right.chars ++ '=' :: (w.lead.chars ++ quoted)) := by
    rw [trimEnd_append_cons hquote, trimEnd_of_allBlank w.behind.blank]
    simp [quoted]
  have hexport : dropExport (c :: (cs ++ (w.right.chars ++ '=' :: (w.lead.chars ++ quoted)))) =
      c :: (cs ++ (w.right.chars ++ '=' :: (w.lead.chars ++ quoted))) := by
    have hword := dropExport_key_gap w.key w.right (w.lead.chars ++ quoted)
    rwa [hkey, List.cons_append] at hword
  obtain ⟨gap, hgap, hhead, hline⟩ :=
    w.margin.exists_rest hc hcomment (by rw [hend]; exact hexport)
  have hname : gap ++ c :: (cs ++ (w.right.chars ++ '=' :: (w.lead.chars ++ quoted))) =
      gap ++ (w.key.chars ++ w.right.chars) ++ '=' :: (w.lead.chars ++ quoted) := by
    simp [hkey]
  have hno : '=' ∉ gap ++ (w.key.chars ++ w.right.chars) := by
    simp only [List.mem_append, not_or]
    exact ⟨notMem_of_allBlank hgap hequals, w.key.no_equals,
      notMem_of_allBlank w.right.blank hequals⟩
  have hvalue : trim (w.lead.chars ++ quoted) = quoted :=
    trim_of_ends w.lead.blank (rfl : allBlank [] = true) hquote hquote w.value.chars
  have hsome : w.key.chars.isEmpty = false := by simp [hkey]
  rw [hend, hname, ← hchars] at hline
  rw [← hchars] at hhead
  rw [assignmentOf?_eq hhead hline hno, trim_of_blanks hgap w.right.blank, w.key.trimmed, hvalue,
    withoutQuotes_quoted, hsome]
  rfl

namespace Line

theorem assignmentOf?_chars (l : Line) : assignmentOf? l.chars = l.assignment? := by
  cases l with
  | blank gap =>
      exact assignmentOf?_of_no_equals (notMem_of_allBlank gap.blank (by decide))
  | comment before text =>
      apply assignmentOf?_of_comment
      rw [chars, trim_blanks_append_cons before.blank (by decide)]
      rfl
  | other text no_equals => exact assignmentOf?_of_no_equals no_equals
  | nameless margin value => exact assignmentOf?_nameless margin value.chars
  | assigning w => exact assignmentOf?_written w

theorem inline_chars (l : Line) : '\n' ∉ l.chars := by
  have hmargin (m : Margin) : '\n' ∉ m.chars := by
    unfold Margin.chars
    have hbefore := m.before.inline
    have hbehind := m.behind.inline
    split <;> simp [exportWord, hbefore, hbehind]
  have hquote (q : QuoteMark) : '\n' ≠ q.char := by cases q <;> decide
  cases l with
  | blank gap => exact gap.inline
  | comment before text => simp [chars, before.inline, text.inline]
  | other text _ => exact text.inline
  | nameless margin value => simp [chars, hmargin, value.inline]
  | assigning w =>
      simp [chars, Written.chars, hmargin, hquote, w.key.inline, w.right.inline, w.lead.inline,
        w.value.inline, w.behind.inline]

theorem assignmentsOf_fileText (lines : List Line) :
    assignmentsOf (fileText lines) = assignments lines := by
  rw [assignmentsOf, fileText, String.toList_ofList]
  cases lines with
  | nil => rfl
  | cons first lines =>
      have hinline : ∀ line ∈ first.chars :: lines.map chars, '\n' ∉ line := by
        intro line hline
        rw [← List.map_cons, List.mem_map] at hline
        obtain ⟨l, -, rfl⟩ := hline
        exact l.inline_chars
      have hread : assignmentOf? ∘ chars = assignment? := funext assignmentOf?_chars
      rw [List.map_cons, splitLines_intercalate _ hinline, ← List.map_cons, List.filterMap_map,
        hread, assignments]

end Line

end CypherBridge.Settings
