/-!
# Blank text

The characters with the Unicode property White_Space, and trimming by it.
A text of such characters alone counts as blank.
-/

namespace CypherBridge.Text

def isBlank (c : Char) : Bool :=
  let n := c.toNat
  (0x09 ≤ n && n ≤ 0x0D) || n == 0x20 || n == 0x85 || n == 0xA0 || n == 0x1680 ||
    (0x2000 ≤ n && n ≤ 0x200A) || n == 0x2028 || n == 0x2029 || n == 0x202F ||
    n == 0x205F || n == 0x3000

def trimStart (cs : List Char) : List Char := cs.dropWhile isBlank

def trimEnd (cs : List Char) : List Char := (cs.reverse.dropWhile isBlank).reverse

def trim (cs : List Char) : List Char := trimEnd (trimStart cs)

def allBlank (cs : List Char) : Bool := cs.all isBlank

theorem trimStart_eq_nil_iff (cs : List Char) : trimStart cs = [] ↔ allBlank cs = true := by
  induction cs with
  | nil => simp [trimStart, allBlank]
  | cons c cs ih => cases h : isBlank c <;> simp_all [trimStart, allBlank, List.dropWhile]

def isBlankString (s : String) : Bool := allBlank s.toList

theorem trim_of_blanks {before behind : List Char} (hbefore : allBlank before = true)
    (hbehind : allBlank behind = true) (cs : List Char) :
    trim (before ++ (cs ++ behind)) = trim cs := by
  have hdrop {blanks : List Char} (h : allBlank blanks = true) (ds : List Char) :
      (blanks ++ ds).dropWhile isBlank = ds.dropWhile isBlank :=
    List.dropWhile_append_of_pos (by simpa [allBlank] using h)
  have hreverse : allBlank behind.reverse = true := by
    simpa [allBlank] using hbehind
  have hend (ds : List Char) : trimEnd (ds ++ behind) = trimEnd ds := by
    rw [trimEnd, List.reverse_append, hdrop hreverse, trimEnd]
  have hstart : trimStart (before ++ (cs ++ behind)) = (cs ++ behind).dropWhile isBlank :=
    hdrop hbefore _
  rw [trim, hstart, List.dropWhile_append]
  cases hcs : cs.dropWhile isBlank with
  | nil =>
      have hblank := hdrop hbehind []
      rw [List.append_nil] at hblank
      rw [trim, trimStart, hcs, List.isEmpty_nil, if_pos rfl, hblank]
      rfl
  | cons c cs' =>
      rw [List.isEmpty_cons, if_neg Bool.false_ne_true, hend, trim, trimStart, hcs]

theorem trim_of_no_blank {cs : List Char} (h : ∀ c ∈ cs, isBlank c = false) : trim cs = cs := by
  have hdrop {ds : List Char} (hds : ∀ c ∈ ds, isBlank c = false) : ds.dropWhile isBlank = ds := by
    cases ds with
    | nil => rfl
    | cons d ds => rw [List.dropWhile_cons_of_neg (by simp [hds d List.mem_cons_self])]
  rw [trim, trimStart, hdrop h, trimEnd, hdrop (by simpa using h), List.reverse_reverse]

theorem length_trim_le (cs : List Char) : (trim cs).length ≤ cs.length := by
  have hend := (List.dropWhile_suffix isBlank (l := (trimStart cs).reverse)).length_le
  have hstart := (List.dropWhile_suffix isBlank (l := cs)).length_le
  simp only [trim, trimEnd, List.length_reverse, trimStart] at hend ⊢
  omega

theorem isBlank_head_of_trimmed {c : Char} {cs : List Char} (h : trim (c :: cs) = c :: cs) :
    isBlank c = false := by
  cases hblank : isBlank c with
  | false => rfl
  | true =>
      have hfront : allBlank [c] = true := by simpa [allBlank] using hblank
      have htrim := trim_of_blanks hfront (rfl : allBlank [] = true) cs
      rw [List.append_nil, List.singleton_append, h] at htrim
      have hle := length_trim_le cs
      rw [← htrim, List.length_cons] at hle
      omega

end CypherBridge.Text
