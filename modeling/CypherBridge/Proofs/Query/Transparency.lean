import CypherBridge.Proofs.Query.Comments
import CypherBridge.Proofs.Query.Quoted

/-!
# Comments are transparent

A comment in the middle of a query counts as a blank, whatever it says and whatever stands behind
it.  What stands in quotes is no comment: it passes the scan unchanged, and a second scan changes
nothing.
-/

namespace CypherBridge.Query

namespace CommentScan

theorem output_lineComment {body : List UInt8} (h : newline ∉ body) (rest : List UInt8) :
    CommentScan.line.output (body ++ newline :: rest) = newline :: start.output rest := by
  induction body with
  | nil => rfl
  | cons b body ih =>
      rw [List.mem_cons, not_or] at h
      rw [List.cons_append, output_cons, step, if_neg (Ne.symm h.1)]
      exact ih h.2

theorem output_blockComment {body : List UInt8} (h : ¬ [star, slash] <:+: body)
    (rest : List UInt8) :
    CommentScan.block.output (body ++ star :: slash :: rest) = start.output rest := by
  induction body with
  | nil => rfl
  | cons b body ih =>
      have hbody : ¬ [star, slash] <:+: body := fun hin => h (hin.trans (List.suffix_cons ..).isInfix)
      have hopen : ¬ (b = star ∧ (body ++ star :: slash :: rest).head? = some slash) := by
        rintro ⟨rfl, hhead⟩
        cases body with
        | nil => cases hhead
        | cons c body =>
            cases hhead
            exact h (List.prefix_append [star, slash] body).isInfix
      rw [List.cons_append, output_cons, step, if_neg hopen]
      exact ih hbody

def quiet : CommentScan → CommentScan
  | .text q => .text q
  | .lineOpening | .blockOpening | .line | .block | .blockClosing => .start

theorem head_output_start (bs : List UInt8) :
    (start.output bs).head? = bs.head? ∨ (start.output bs).head? = some space := by
  cases bs with
  | nil => exact .inl rfl
  | cons b bs =>
      rw [output_cons, start, step]
      split
      · exact .inr rfl
      · split
        · exact .inr rfl
        · exact .inl rfl

theorem output_output (s : CommentScan) (bs : List UInt8) :
    s.quiet.output (s.output bs) = s.output bs := by
  induction bs generalizing s with
  | nil => rfl
  | cons b bs ih =>
      cases s with
      | lineOpening => exact ih .line
      | blockOpening => exact ih .block
      | blockClosing => exact ih .start
      | line =>
          rw [output_cons, step]
          split
          · next hnewline =>
              subst hnewline
              exact congrArg (newline :: ·) (ih .start)
          · exact ih .line
      | block =>
          rw [output_cons, step]
          split
          · exact ih .blockClosing
          · exact ih .block
      | text q =>
          rw [output_cons, step]
          split
          · next hline =>
              obtain ⟨rfl, -⟩ := hline
              exact congrArg (space :: ·) (ih .lineOpening)
          · next hline =>
              split
              · next hblock =>
                  obtain ⟨rfl, -⟩ := hblock
                  exact congrArg (space :: ·) (ih .blockOpening)
              · next hblock =>
                  -- the byte is written as it is, and what is written behind it opens nothing either
                  have hopener {next : UInt8} (hnext : next = slash ∨ next = star) :
                      ¬ (q = .outside ∧ b = slash ∧
                        ((CommentScan.text (q.step b)).output bs).head? = some next) := by
                    rintro ⟨rfl, rfl, hhead⟩
                    rcases head_output_start bs with hsame | hspace
                    · rcases hnext with rfl | rfl
                      · exact hline ⟨rfl, rfl, hsame.symm.trans hhead⟩
                      · exact hblock ⟨rfl, rfl, hsame.symm.trans hhead⟩
                    · cases Option.some.inj (hspace.symm.trans hhead)
                      rcases hnext with h | h <;> cases h
                  show (CommentScan.text q).output (b :: (CommentScan.text (q.step b)).output bs) = _
                  rw [output_cons, step, if_neg (hopener (.inl rfl)), if_neg (hopener (.inr rfl))]
                  exact congrArg (b :: ·) (ih (.text (q.step b)))

end CommentScan

/-! ## Literals -/

/-- What may stand between two quotes of a kind: a backslash takes the next byte along in a string,
and an identifier has its backticks twice. -/
inductive Enclosed (quote : UInt8) : List UInt8 → Prop
  | nothing : Enclosed quote []
  | plain {b : UInt8} {bs : List UInt8} (other : b ≠ quote)
      (taken : b = backslash → quote = backtick) (rest : Enclosed quote bs) : Enclosed quote (b :: bs)
  | escaped {b : UInt8} {bs : List UInt8} (string : quote ≠ backtick) (rest : Enclosed quote bs) :
      Enclosed quote (backslash :: b :: bs)
  | doubled {bs : List UInt8} (identifier : quote = backtick) (rest : Enclosed quote bs) :
      Enclosed quote (backtick :: backtick :: bs)

inductive IsLiteral : List UInt8 → Prop
  | intro {quote : UInt8} {bs : List UInt8} (opens : isQuote quote = true)
      (body : Enclosed quote bs) : IsLiteral (quote :: (bs ++ [quote]))

theorem Enclosed.inside {quote : UInt8} {bs : List UInt8} (h : Enclosed quote bs) :
    (Quoting.inside quote).covers bs = true ∧
      (Quoting.inside quote).run bs = .inside quote := by
  induction h with
  | nothing => exact ⟨rfl, rfl⟩
  | @plain b bs other taken rest ih =>
      have hstep : (Quoting.inside quote).step b = .inside quote := by
        rw [Quoting.step, if_neg (fun h => h.2 (taken h.1)), if_neg other]
      rw [Quoting.covers, Quoting.run_cons, hstep]
      exact ih
  | @escaped b bs string rest ih =>
      have hstep : (Quoting.inside quote).step backslash = .escaped quote := by
        rw [Quoting.step, if_pos ⟨rfl, string⟩]
      rw [Quoting.covers, Quoting.run_cons, hstep]
      exact ih
  | @doubled bs identifier rest ih =>
      subst identifier
      exact ih

namespace IsLiteral

variable {bs : List UInt8}

theorem covers (h : IsLiteral bs) : Quoting.outside.covers bs = true := by
  obtain ⟨opens, body⟩ := h
  obtain ⟨hcovers, hrun⟩ := body.inside
  rw [Quoting.covers, opens, Quoting.step, if_pos opens, Quoting.covers_append, hcovers, hrun]
  rfl

theorem run (h : IsLiteral bs) : Quoting.outside.run bs = .outside := by
  obtain @⟨quote, body, opens, enclosed⟩ := h
  obtain ⟨-, hrun⟩ := enclosed.inside
  have hescape : ¬ (quote = backslash ∧ quote ≠ backtick) := by
    rintro ⟨rfl, -⟩
    cases opens
  rw [Quoting.run_cons, Quoting.step, if_pos opens, Quoting.run_append, hrun, Quoting.run_cons,
    Quoting.step, if_neg hescape, if_pos rfl]
  rfl

theorem uncommented (h : IsLiteral bs) : Uncommented bs :=
  .of_closed (CommentScan.output_of_covers h.covers) h.run

theorem neutral_head (h : IsLiteral bs) (more : List UInt8) :
    CommentScan.isNeutral (bs ++ more).head? = true := by
  obtain ⟨opens, body⟩ := h
  simp only [isQuote, Bool.or_eq_true, beq_iff_eq] at opens
  rcases opens with (rfl | rfl) | rfl <;> rfl

theorem last_ne (h : IsLiteral bs) : bs.getLast? ≠ some slash := by
  obtain ⟨opens, body⟩ := h
  rw [← List.cons_append, List.getLast?_concat]
  rintro hsame
  cases Option.some.inj hsame
  cases opens

end IsLiteral

section Transparent

variable {before : List UInt8}

theorem withoutComments_blockComment (outside : CommentScan.start.reach none before = .start)
    (last : before.getLast? ≠ some slash) {body : List UInt8} (h : ¬ [star, slash] <:+: body)
    (behind : List UInt8) :
    withoutComments (before ++ slash :: star :: (body ++ star :: slash :: behind)) =
      withoutComments (before ++ space :: behind) := by
  have hcomment : withoutComments (slash :: star :: (body ++ star :: slash :: behind)) =
      withoutComments (space :: behind) :=
    congrArg (space :: ·) (CommentScan.output_blockComment h behind)
  rw [withoutComments_append_of_seam outside (.inl last), hcomment,
    withoutComments_append_of_seam outside (.inl last)]

theorem withoutComments_lineComment (outside : CommentScan.start.reach none before = .start)
    (last : before.getLast? ≠ some slash) {body : List UInt8} (h : newline ∉ body)
    (behind : List UInt8) :
    withoutComments (before ++ slash :: slash :: (body ++ newline :: behind)) =
      withoutComments (before ++ space :: newline :: behind) := by
  have hcomment : withoutComments (slash :: slash :: (body ++ newline :: behind)) =
      withoutComments (space :: newline :: behind) :=
    congrArg (space :: ·) (CommentScan.output_lineComment h behind)
  rw [withoutComments_append_of_seam outside (.inl last), hcomment,
    withoutComments_append_of_seam outside (.inl last)]

theorem withoutComments_literal (outside : CommentScan.start.reach none before = .start)
    {literal : List UInt8} (h : IsLiteral literal) (behind : List UInt8) :
    withoutComments (before ++ literal ++ behind) =
      withoutComments before ++ literal ++ withoutComments behind := by
  rw [List.append_assoc, withoutComments_append_of_seam outside (.inr (h.neutral_head behind)),
    withoutComments_append_of_seam h.uncommented.reach (.inl h.last_ne), h.uncommented.output,
    List.append_assoc]

theorem withoutComments_withoutComments (bs : List UInt8) :
    withoutComments (withoutComments bs) = withoutComments bs :=
  CommentScan.output_output .start bs

end Transparent

/-- Behind a text that leaves no quote and no comment open and does not end with a slash, a comment
can be put in the place of a blank.  Literals stay as they are. -/
theorem comments_are_transparent (a : String)
    (outside : CommentScan.start.reach none (Text.bytes a) = .start) :
    ((Text.bytes a).getLast? ≠ some slash → ∀ c b : String,
      (¬ [star, slash] <:+: Text.bytes c →
        resultColumns (a ++ "/*" ++ c ++ "*/" ++ b) = resultColumns (a ++ " " ++ b)) ∧
      (newline ∉ Text.bytes c →
        resultColumns (a ++ "//" ++ c ++ "\n" ++ b) = resultColumns (a ++ " \n" ++ b))) ∧
    (∀ literal b, IsLiteral literal →
      withoutComments (Text.bytes a ++ literal ++ b) =
        withoutComments (Text.bytes a) ++ literal ++ withoutComments b) ∧
    ∀ bs, withoutComments (withoutComments bs) = withoutComments bs := by
  refine ⟨fun last c b => ⟨fun hblock => ?_, fun hline => ?_⟩, fun literal b hliteral => ?_,
    withoutComments_withoutComments⟩
  · have hopen : Text.bytes "/*" = [slash, star] := by decide
    have hclose : Text.bytes "*/" = [star, slash] := by decide
    have hspace : Text.bytes " " = [space] := by decide
    have hsame := withoutComments_blockComment outside last hblock (Text.bytes b)
    simp only [resultColumns, scanColumns, Text.bytes_append, hopen, hclose, hspace,
      List.append_assoc, List.cons_append, List.nil_append, hsame]
  · have hopen : Text.bytes "//" = [slash, slash] := by decide
    have hclose : Text.bytes "\n" = [newline] := by decide
    have hspace : Text.bytes " \n" = [space, newline] := by decide
    have hsame := withoutComments_lineComment outside last hline (Text.bytes b)
    simp only [resultColumns, scanColumns, Text.bytes_append, hopen, hclose, hspace,
      List.append_assoc, List.cons_append, List.nil_append, hsame]
  · exact withoutComments_literal outside hliteral b

theorem comments_are_transparent_before_an_open_string :
    resultColumns ("MATCH (n) " ++ "/*" ++ "/ RETURN (' // *" ++ "*/" ++ "RETURN n.b, \"a") =
        resultColumns ("MATCH (n) " ++ " " ++ "RETURN n.b, \"a") ∧
      resultColumns ("MATCH (n) " ++ "//" ++ " RETURN */ `" ++ "\n" ++ "RETURN n.b, \"a") =
        resultColumns ("MATCH (n) " ++ " \n" ++ "RETURN n.b, \"a") ∧
      withoutComments (Text.bytes "MATCH (n) " ++ Text.bytes "'/*\\'//'" ++ Text.bytes "// b") =
        withoutComments (Text.bytes "MATCH (n) ") ++ Text.bytes "'/*\\'//'" ++
          withoutComments (Text.bytes "// b") := by
  obtain ⟨hcomments, hliterals, -⟩ :=
    comments_are_transparent "MATCH (n) " (by decide)
  have hliteral : IsLiteral (Text.bytes "'/*\\'//'") :=
    @IsLiteral.intro 0x27 [slash, star, backslash, 0x27, slash, slash] rfl
      (.plain (by decide) (by decide) (.plain (by decide) (by decide)
        (.escaped (by decide) (.plain (by decide) (by decide) (.plain (by decide) (by decide)
          .nothing)))))
  exact ⟨(hcomments (by decide) "/ RETURN (' // *" "RETURN n.b, \"a").1 (by decide),
    (hcomments (by decide) " RETURN */ `" "RETURN n.b, \"a").2 (by decide),
    hliterals _ _ hliteral⟩

end CypherBridge.Query
