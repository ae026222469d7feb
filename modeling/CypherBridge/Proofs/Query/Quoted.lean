import CypherBridge.Proofs.Text.Boundaries
import CypherBridge.Query.Columns

/-!
# Quoted parts of a query

What stands in quotes, the quotes included, is left alone by the scan for comments and is nothing
at the top level.  An identifier in backticks is such a part, whatever its characters are, and
the name read from it is the name it was written for.
-/

namespace CypherBridge.Query

namespace Quoting

/-- Whether all the bytes are quotes or stand in quotes. -/
def covers (q : Quoting) : List UInt8 → Bool
  | [] => true
  | b :: bs => (q != .outside || isQuote b) && (q.step b).covers bs

variable {q : Quoting} {bs : List UInt8}

theorem covers_append (q : Quoting) (as bs : List UInt8) :
    q.covers (as ++ bs) = (q.covers as && (q.run as).covers bs) := by
  induction as generalizing q with
  | nil => rfl
  | cons a as ih => simp only [List.cons_append, covers, ih, run_cons, Bool.and_assoc]

theorem step_inside_backticks {b : UInt8} (h : b ≠ backtick) :
    (Quoting.inside backtick).step b = .inside backtick := by
  simp [step, h]

theorem inside_backticks (h : backtick ∉ bs) :
    (inside backtick).covers bs = true ∧ (inside backtick).run bs = .inside backtick := by
  induction bs with
  | nil => exact ⟨rfl, rfl⟩
  | cons b bs ih =>
      rw [List.mem_cons, not_or] at h
      have hstep := step_inside_backticks (Ne.symm h.1)
      rw [covers, run_cons, hstep]
      obtain ⟨hcovers, hrun⟩ := ih h.2
      exact ⟨by rw [hcovers]; rfl, hrun⟩

end Quoting

section Covered

variable {n : Nesting} {bs : List UInt8}

/-- What stands in quotes is left alone, whatever follows. -/
theorem CommentScan.output_append_of_covers {q : Quoting} (h : q.covers bs = true)
    (more : List UInt8) :
    (CommentScan.text q).output (bs ++ more) = bs ++ (CommentScan.text (q.run bs)).output more := by
  induction bs generalizing q with
  | nil => rfl
  | cons b bs ih =>
      simp only [Quoting.covers, Bool.and_eq_true, Bool.or_eq_true, bne_iff_ne] at h
      obtain ⟨hquoted, hrest⟩ := h
      have hcomment : ¬ (q = .outside ∧ b = slash) := by
        rintro ⟨rfl, rfl⟩
        rcases hquoted with hne | hquote
        · exact hne rfl
        · simp [isQuote, slash, backtick] at hquote
      have hstep (next : Option UInt8) :
          (CommentScan.text q).step b next = (.text (q.step b), [b]) := by
        rw [step, if_neg (fun h => hcomment ⟨h.1, h.2.1⟩), if_neg (fun h => hcomment ⟨h.1, h.2.1⟩)]
      simp only [List.cons_append, output, hstep, ih hrest, Quoting.run_cons, List.nil_append]

theorem CommentScan.output_of_covers {q : Quoting} (h : q.covers bs = true) :
    (CommentScan.text q).output bs = bs := by
  have hall := output_append_of_covers h []
  rwa [List.append_nil, show (CommentScan.text (q.run bs)).output [] = [] from rfl,
    List.append_nil] at hall

theorem not_bracket_of_isQuote {b : UInt8} (h : isQuote b = true) :
    Nesting.isOpening b = false ∧ Nesting.isClosing b = false := by
  simp only [isQuote, Bool.or_eq_true, beq_iff_eq] at h
  rcases h with (rfl | rfl) | rfl <;> decide

theorem Nesting.step_of_covered {b : UInt8} (h : n.quoting ≠ .outside ∨ isQuote b = true) :
    n.step b = ⟨n.quoting.step b, n.depth⟩ ∧ n.isTop b = false := by
  by_cases hquoting : n.quoting = .outside
  · have hquote := h.resolve_left (fun hne => hne hquoting)
    obtain ⟨hopening, hclosing⟩ := not_bracket_of_isQuote hquote
    simp [step, isTop, hquoting, hquote, hopening, hclosing]
  · simp [step, isTop, hquoting]

theorem Nesting.run_of_covers (h : n.quoting.covers bs = true) :
    n.run bs = ⟨n.quoting.run bs, n.depth⟩ := by
  induction bs generalizing n with
  | nil => rfl
  | cons b bs ih =>
      simp only [Quoting.covers, Bool.and_eq_true, Bool.or_eq_true, bne_iff_ne] at h
      obtain ⟨hstep, -⟩ := step_of_covered h.1
      have hrest : (n.step b).quoting.covers bs = true := h.2
      show (n.step b).run bs = _
      rw [ih hrest, hstep]
      rfl

theorem marks_of_covers (h : n.quoting.covers bs = true) : ∀ m ∈ marks n bs, m.top = false := by
  induction bs generalizing n with
  | nil => simp [marks]
  | cons b bs ih =>
      simp only [Quoting.covers, Bool.and_eq_true, Bool.or_eq_true, bne_iff_ne] at h
      obtain ⟨-, htop⟩ := Nesting.step_of_covered h.1
      intro m hm
      rcases List.mem_cons.1 hm with rfl | hm
      · exact htop
      · exact ih (n := n.step b) h.2 m hm

end Covered

def doubled : List Char → List Char
  | [] => []
  | c :: cs => if c = backtickChar then c :: c :: doubled cs else c :: doubled cs

def quoteIdentifier (name : String) : String :=
  String.ofList (backtickChar :: (doubled name.toList ++ [backtickChar]))

theorem undouble_cons_of_ne {c : Char} (h : c ≠ backtickChar) (cs : List Char) :
    undouble (c :: cs) = c :: undouble cs := by
  cases cs with
  | nil => rfl
  | cons d cs => simp [undouble, h]

theorem undouble_doubled (cs : List Char) : undouble (doubled cs) = cs := by
  induction cs with
  | nil => rfl
  | cons c cs ih =>
      by_cases hc : c = backtickChar
      · simp [doubled, hc, undouble, ih]
      · simp [doubled, hc, undouble_cons_of_ne, ih]

theorem doubled_ne_nil {cs : List Char} (h : cs ≠ []) : doubled cs ≠ [] := by
  cases cs with
  | nil => exact absurd rfl h
  | cons c cs =>
      rw [doubled]
      split <;> simp

theorem identifierName_of_doubled {cs : List Char} (h : cs ≠ []) :
    identifierName (backtickChar :: (doubled cs ++ [backtickChar])) = cs := by
  have hbetween : betweenBackticks? (backtickChar :: (doubled cs ++ [backtickChar])) =
      some (doubled cs) := by
    simp [betweenBackticks?]
  rw [identifierName, hbetween]
  cases hdoubled : doubled cs with
  | nil => exact absurd hdoubled (doubled_ne_nil h)
  | cons c inner =>
      show undouble (c :: inner) = cs
      rw [← hdoubled, undouble_doubled]

theorem trim_of_enclosed {b c : Char} (hb : Text.isBlank b = true) (hc : Text.isBlank c = false)
    (cs : List Char) : Text.trim (b :: c :: (cs ++ [c])) = c :: (cs ++ [c]) := by
  have hstart : Text.trimStart (b :: c :: (cs ++ [c])) = c :: (cs ++ [c]) := by
    rw [Text.trimStart, List.dropWhile_cons_of_pos hb, List.dropWhile_cons_of_neg (by simp [hc])]
  have hreverse : (c :: (cs ++ [c])).reverse = c :: (cs.reverse ++ [c]) := by simp
  rw [Text.trim, hstart, Text.trimEnd, hreverse, List.dropWhile_cons_of_neg (by simp [hc]),
    ← hreverse, List.reverse_reverse]

theorem nameOfText_quoteIdentifier {name : String} (h : name ≠ "") :
    nameOfText (" " ++ quoteIdentifier name) = some name := by
  have hname : name.toList ≠ [] := by simpa using h
  have htrim : Text.trim (" " ++ quoteIdentifier name).toList =
      backtickChar :: (doubled name.toList ++ [backtickChar]) := by
    have hchars : (" " ++ quoteIdentifier name).toList =
        ' ' :: backtickChar :: (doubled name.toList ++ [backtickChar]) := by
      simp [quoteIdentifier]
    rw [hchars]
    exact trim_of_enclosed (by decide) (by decide) _
  simp only [nameOfText, htrim, identifierName_of_doubled hname]
  simp

theorem backtick_notMem_encode {c : Char} (h : c ≠ backtickChar) :
    backtick ∉ String.utf8EncodeChar c := by
  intro hmem
  have hval := (Text.encode_of_ascii_mem hmem (by decide)).2
  exact h (Char.ext (UInt32.toNat_inj.1 hval))

theorem doubled_inside_backticks (cs : List Char) :
    (Quoting.inside backtick).covers ((doubled cs).flatMap String.utf8EncodeChar) = true ∧
      (Quoting.inside backtick).run ((doubled cs).flatMap String.utf8EncodeChar) =
        .inside backtick := by
  induction cs with
  | nil => exact ⟨rfl, rfl⟩
  | cons c cs ih =>
      by_cases hc : c = backtickChar
      · have hencode : String.utf8EncodeChar backtickChar = [backtick] := by decide
        simpa [doubled, hc, hencode, Quoting.covers, Quoting.step, isQuote, backtick, backslash]
          using ih
      · obtain ⟨hcovers, hrun⟩ := Quoting.inside_backticks (backtick_notMem_encode hc)
        simpa [doubled, hc, Quoting.covers_append, Quoting.run_append, hcovers, hrun] using ih

theorem bytes_quoteIdentifier (name : String) :
    Text.bytes (quoteIdentifier name) =
      backtick :: ((doubled name.toList).flatMap String.utf8EncodeChar ++ [backtick]) := by
  have hencode : String.utf8EncodeChar backtickChar = [backtick] := by decide
  simp [Text.bytes_eq_flatMap, quoteIdentifier, hencode]

theorem covers_quoteIdentifier (name : String) :
    Quoting.outside.covers (Text.bytes (quoteIdentifier name)) = true := by
  obtain ⟨hcovers, hrun⟩ := doubled_inside_backticks name.toList
  rw [bytes_quoteIdentifier, Quoting.covers]
  show (Quoting.inside backtick).covers (_ ++ _) = true
  rw [Quoting.covers_append, hcovers, hrun]
  rfl

theorem run_quoteIdentifier (name : String) :
    Quoting.outside.run (Text.bytes (quoteIdentifier name)) = .outside := by
  obtain ⟨-, hrun⟩ := doubled_inside_backticks name.toList
  rw [bytes_quoteIdentifier, Quoting.run_cons]
  show (Quoting.inside backtick).run (_ ++ _) = .outside
  rw [Quoting.run_append, hrun]
  rfl

end CypherBridge.Query
