import CypherBridge.Query.Comments

/-!
# Comments of texts put together

The scan of a text goes on in a second text where it stands behind the first one, and what is
written for both is what is written for each.  Only a slash or a star at the start of the second
text could change what its predecessor means.
-/

namespace CypherBridge.Query

namespace CommentScan

def outputBefore (s : CommentScan) (next : Option UInt8) : List UInt8 → List UInt8
  | [] => []
  | b :: rest =>
      let (s', written) := s.step b (rest.head?.or next)
      written ++ s'.outputBefore next rest

theorem output_cons (s : CommentScan) (b : UInt8) (bs : List UInt8) :
    s.output (b :: bs) = (s.step b bs.head?).2 ++ (s.step b bs.head?).1.output bs := rfl

theorem outputBefore_cons (s : CommentScan) (next : Option UInt8) (b : UInt8) (bs : List UInt8) :
    s.outputBefore next (b :: bs) = (s.step b (bs.head?.or next)).2 ++
      (s.step b (bs.head?.or next)).1.outputBefore next bs := rfl

theorem reach_cons (s : CommentScan) (next : Option UInt8) (b : UInt8) (bs : List UInt8) :
    s.reach next (b :: bs) = (s.step b (bs.head?.or next)).1.reach next bs := rfl

theorem outputBefore_none (s : CommentScan) (bs : List UInt8) :
    s.outputBefore none bs = s.output bs := by
  induction bs generalizing s with
  | nil => rfl
  | cons b bs ih => simp only [outputBefore, output, Option.or_none, ih]

theorem output_append (s : CommentScan) (bs more : List UInt8) :
    s.output (bs ++ more) =
      s.outputBefore more.head? bs ++ (s.reach more.head? bs).output more := by
  induction bs generalizing s with
  | nil => rfl
  | cons b bs ih =>
      simp only [List.cons_append, output, outputBefore, reach, List.head?_append, ih,
        List.append_assoc]

theorem reach_append (s : CommentScan) (next : Option UInt8) (bs more : List UInt8) :
    s.reach next (bs ++ more) = (s.reach (more.head?.or next) bs).reach next more := by
  induction bs generalizing s with
  | nil => rfl
  | cons b bs ih => simp only [List.cons_append, reach, List.head?_append, Option.or_assoc, ih]

/-- Whether a byte neither opens nor closes a comment together with the one before it. -/
def isNeutral (next : Option UInt8) : Bool := next != some slash && next != some star

theorem step_of_neutral {next : Option UInt8} (h : isNeutral next = true) (s : CommentScan)
    (b : UInt8) : s.step b next = s.step b none := by
  simp only [isNeutral, Bool.and_eq_true, bne_iff_ne] at h
  cases s <;> simp [step, h.1, h.2]

theorem outputBefore_of_neutral {next : Option UInt8} (h : isNeutral next = true)
    (s : CommentScan) (bs : List UInt8) : s.outputBefore next bs = s.output bs := by
  rw [← outputBefore_none]
  induction bs generalizing s with
  | nil => rfl
  | cons b bs ih =>
      cases bs with
      | nil => simp only [outputBefore, List.head?_nil, Option.none_or, step_of_neutral h]
      | cons c bs =>
          rw [outputBefore_cons, ih, outputBefore_cons]
          rfl

theorem reach_of_neutral {next : Option UInt8} (h : isNeutral next = true)
    (s : CommentScan) (bs : List UInt8) : s.reach next bs = s.reach none bs := by
  induction bs generalizing s with
  | nil => rfl
  | cons b bs ih =>
      cases bs with
      | nil => simp only [reach, List.head?_nil, Option.none_or, step_of_neutral h]
      | cons c bs =>
          rw [reach_cons, ih, reach_cons]
          rfl

theorem step_of_outside {s : CommentScan} {b : UInt8} (outside : (s.step b none).1 = .start)
    (h : b ≠ slash) (next : Option UInt8) : s.step b next = s.step b none := by
  cases s with
  | text q => simp [step, h]
  | block => simp [step, start] at outside
  | lineOpening | blockOpening | line | blockClosing => rfl

theorem eq_of_outside {s : CommentScan} {bs : List UInt8} (outside : s.reach none bs = .start)
    (h : bs.getLast? ≠ some slash) (next : Option UInt8) :
    s.reach next bs = .start ∧ s.outputBefore next bs = s.output bs := by
  rw [← outputBefore_none]
  induction bs generalizing s with
  | nil => exact ⟨outside, rfl⟩
  | cons b bs ih =>
      cases bs with
      | nil =>
          have hstep := step_of_outside outside (by simpa using h) next
          rw [reach_cons, outputBefore_cons, outputBefore_cons]
          simp only [List.head?_nil, Option.none_or, hstep]
          exact ⟨outside, rfl⟩
      | cons c bs =>
          obtain ⟨hreach, houtput⟩ := ih outside (by simpa using h)
          rw [reach_cons, outputBefore_cons, outputBefore_cons]
          exact ⟨hreach, congrArg _ houtput⟩

theorem output_of_no_slash {q : Quoting} {bs : List UInt8} (h : slash ∉ bs) :
    (CommentScan.text q).output bs = bs := by
  induction bs generalizing q with
  | nil => rfl
  | cons b bs ih =>
      rw [List.mem_cons, not_or] at h
      rw [output_cons, step, if_neg (fun hb => h.1 hb.2.1.symm), if_neg (fun hb => h.1 hb.2.1.symm),
        ih h.2]
      rfl

theorem length_output_le (s : CommentScan) (bs : List UInt8) :
    (s.output bs).length ≤ bs.length := by
  induction bs generalizing s with
  | nil => simp [output]
  | cons b bs ih =>
      have hrest := ih (s.step b bs.head?).1
      have hstep : (s.step b bs.head?).2.length ≤ 1 := by
        cases s <;> simp only [step] <;> (repeat' split) <;> simp
      simp only [output, List.length_append, List.length_cons]
      omega

theorem length_output_opening_lt {s : CommentScan}
    (h : s = .lineOpening ∨ s = .blockOpening) {bs : List UInt8} (more : bs ≠ []) :
    (s.output bs).length < bs.length := by
  cases bs with
  | nil => exact absurd rfl more
  | cons b bs =>
      rcases h with rfl | rfl
      · have hrest := length_output_le .line bs
        simp only [output, step, List.nil_append, List.length_cons]
        omega
      · have hrest := length_output_le .block bs
        simp only [output, step, List.nil_append, List.length_cons]
        omega

theorem reach_of_uncommented {q : Quoting} {bs : List UInt8}
    (h : (CommentScan.text q).output bs = bs) :
    (CommentScan.text q).reach none bs = .text (q.run bs) := by
  induction bs generalizing q with
  | nil => rfl
  | cons b bs ih =>
      have hopening {s : CommentScan} {written : List UInt8} {next : UInt8}
          (hs : s = .lineOpening ∨ s = .blockOpening) (hnext : bs.head? = some next)
          (hwritten : written.length = 1) : written ++ s.output bs ≠ b :: bs := by
        intro hsame
        have hmore : bs ≠ [] := by
          rintro rfl
          simp at hnext
        have hlength := congrArg List.length hsame
        have hlt := length_output_opening_lt hs hmore
        simp only [List.length_append, List.length_cons] at hlength
        omega
      simp only [output, step] at h
      simp only [reach, step, Option.or_none, Quoting.run_cons]
      split at h
      · rename_i hline
        exact absurd h (hopening (.inl rfl) hline.2.2 rfl)
      · rename_i hline
        split at h
        · rename_i hblock
          exact absurd h (hopening (.inr rfl) hblock.2.2 rfl)
        · rename_i hblock
          rw [if_neg hline, if_neg hblock]
          exact ih (List.cons.inj h).2

end CommentScan

/-- A text that the scan leaves as it is, and behind which it stands outside all quotes. -/
structure Uncommented (bs : List UInt8) : Prop where
  output : withoutComments bs = bs
  reach : CommentScan.start.reach none bs = .start

namespace Uncommented

variable {bs more : List UInt8}

theorem of_closed (output : withoutComments bs = bs) (quoting : Quoting.outside.run bs = .outside) :
    Uncommented bs where
  output := output
  reach := by
    rw [CommentScan.start, CommentScan.reach_of_uncommented output, quoting]

theorem append (h : Uncommented bs) (h' : Uncommented more)
    (neutral : CommentScan.isNeutral more.head? = true) : Uncommented (bs ++ more) where
  output := by
    rw [withoutComments, CommentScan.output_append, CommentScan.outputBefore_of_neutral neutral,
      CommentScan.reach_of_neutral neutral, h.reach]
    show withoutComments bs ++ withoutComments more = bs ++ more
    rw [h.output, h'.output]
  reach := by
    rw [CommentScan.reach_append, Option.or_none, CommentScan.reach_of_neutral neutral, h.reach]
    exact h'.reach

theorem cons {b : UInt8} (hstep : ∀ next, CommentScan.start.step b next = (.start, [b]))
    (h : Uncommented bs) : Uncommented (b :: bs) where
  output := by
    rw [withoutComments, CommentScan.output, hstep]
    show [b] ++ withoutComments bs = _
    rw [h.output]
    rfl
  reach := by rw [CommentScan.reach_cons, hstep, h.reach]

end Uncommented

/-- No comment can open or close with the last byte of one text and the first byte of the next. -/
def IsSeam (bs more : List UInt8) : Prop :=
  bs.getLast? ≠ some slash ∨ CommentScan.isNeutral more.head? = true

theorem CommentScan.eq_of_seam {bs more : List UInt8}
    (closed : CommentScan.start.reach none bs = .start) (seam : IsSeam bs more) :
    CommentScan.start.reach more.head? bs = .start ∧
      CommentScan.start.outputBefore more.head? bs = CommentScan.start.output bs := by
  rcases seam with hlast | hneutral
  · exact eq_of_outside closed hlast more.head?
  · rw [reach_of_neutral hneutral, outputBefore_of_neutral hneutral]
    exact ⟨closed, rfl⟩

theorem withoutComments_append_of_seam {bs more : List UInt8}
    (closed : CommentScan.start.reach none bs = .start) (seam : IsSeam bs more) :
    withoutComments (bs ++ more) = withoutComments bs ++ withoutComments more := by
  obtain ⟨hreach, houtput⟩ := CommentScan.eq_of_seam closed seam
  rw [withoutComments, CommentScan.output_append, hreach, houtput]
  rfl

theorem CommentScan.reach_append_of_seam {bs more : List UInt8}
    (closed : CommentScan.start.reach none bs = .start) (seam : IsSeam bs more) :
    CommentScan.start.reach none (bs ++ more) = CommentScan.start.reach none more := by
  rw [reach_append, Option.or_none, (eq_of_seam closed seam).1]

theorem withoutComments_append {bs more : List UInt8}
    (closed : CommentScan.start.reach none bs = .start) (h : withoutComments more = more)
    (neutral : CommentScan.isNeutral more.head? = true) :
    withoutComments (bs ++ more) = withoutComments bs ++ more := by
  rw [withoutComments_append_of_seam closed (.inr neutral), h]

end CypherBridge.Query
