import CypherBridge.Text.Blank

/-!
# Trimmed texts

Trimming takes away blanks in front of the first other character and behind the last one, and
leaves what lies between them as it is.
-/

namespace CypherBridge.Text

variable {blanks before behind : List Char} {c d : Char}

theorem trimEnd_sublist (cs : List Char) : (trimEnd cs).Sublist cs := by
  have hdrop := (List.dropWhile_sublist isBlank (l := cs.reverse)).reverse
  rwa [List.reverse_reverse] at hdrop

theorem trim_sublist (cs : List Char) : (trim cs).Sublist cs :=
  (trimEnd_sublist _).trans (List.dropWhile_sublist _)

theorem trimEnd_of_allBlank (h : allBlank blanks = true) : trimEnd blanks = [] := by
  have hreverse : allBlank blanks.reverse = true := by simpa [allBlank] using h
  rw [trimEnd, show blanks.reverse.dropWhile isBlank = [] from (trimStart_eq_nil_iff _).2 hreverse]
  rfl

theorem trim_of_allBlank (h : allBlank blanks = true) : trim blanks = [] := by
  rw [trim, (trimStart_eq_nil_iff blanks).2 h]
  rfl

theorem trimEnd_append_cons (h : isBlank c = false) (before behind : List Char) :
    trimEnd (before ++ c :: behind) = before ++ c :: trimEnd behind := by
  have hreverse : (before ++ c :: behind).reverse = behind.reverse ++ c :: before.reverse := by simp
  rw [trimEnd, hreverse, List.dropWhile_append, List.dropWhile_cons_of_neg (by simp [h])]
  split
  · rename_i hempty
    rw [trimEnd, List.isEmpty_iff.1 hempty]
    simp
  · simp [trimEnd]

theorem trim_blanks_append_cons (hblanks : allBlank blanks = true) (h : isBlank c = false)
    (cs : List Char) : trim (blanks ++ c :: cs) = c :: trimEnd cs := by
  have hblank : ∀ b ∈ blanks, isBlank b = true := List.all_eq_true.1 hblanks
  rw [trim, trimStart, List.dropWhile_append_of_pos hblank,
    List.dropWhile_cons_of_neg (by simp [h])]
  exact trimEnd_append_cons h [] cs

/-- What stands between two characters that are not blank stays. -/
theorem trim_of_ends (hbefore : allBlank before = true) (hbehind : allBlank behind = true)
    (hc : isBlank c = false) (hd : isBlank d = false) (cs : List Char) :
    trim (before ++ c :: (cs ++ d :: behind)) = c :: (cs ++ [d]) := by
  rw [trim_blanks_append_cons hbefore hc, trimEnd_append_cons hd, trimEnd_of_allBlank hbehind]

end CypherBridge.Text
