import CypherBridge.Proofs.Query.Comments
import CypherBridge.Proofs.Query.Lexemes
import CypherBridge.Proofs.Query.Scanner.Loops

/-!
# The two scans of a query

Up to each position of its loop the scan for comments has written, or still has to copy, what is
left of the query there, and it copies from and up to positions between characters: a comment
opens with a slash and ends with one, at a new line or with the query.  The scan for the top level
has marked every byte up to its position.
-/

namespace CypherBridge.Query.Scanner

section Comment

variable {bs : List UInt8} {i : Nat}

theorem output_drop {s : CommentScan} {n : Nat}
    (h : ∀ j, i ≤ j → j < i + n → ∀ b rest, bs.drop j = b :: rest → s.step b rest.head? = (s, [])) :
    s.output (bs.drop i) = s.output (bs.drop (i + n)) := by
  induction n with
  | zero => rfl
  | succ n ih =>
      rw [ih (fun j hj hlt => h j hj (by omega)), ← Nat.add_assoc]
      cases hdrop : bs.drop (i + n) with
      | nil => rw [← List.tail_drop, hdrop]; rfl
      | cons b rest =>
          rw [drop_succ hdrop, CommentScan.output_cons, h (i + n) (by omega) (by omega) b rest hdrop]
          rfl

/-- A comment from one position to another, at which a text with these bytes can be cut. -/
structure IsComment (bs : List UInt8) (start stop : Nat) : Prop where
  after : start < stop
  bound : stop ≤ bs.length
  boundary : ∀ query, Text.bytes query = bs → Text.IsBoundary query stop
  output : CommentScan.start.output (bs.drop start) =
    space :: CommentScan.start.output (bs.drop stop)

variable {start : Nat} {rest : List UInt8}

theorem isComment_to_length (h : start < bs.length)
    (output : CommentScan.start.output (bs.drop start) = [space]) :
    IsComment bs start bs.length where
  after := h
  bound := Nat.le_refl _
  boundary := by
    rintro query rfl
    exact Text.isBoundary_length query
  output := by
    rw [output, List.drop_length]
    rfl

theorem exists_lineEnd (h : bs.drop start = slash :: slash :: rest) :
    ∃ stop, lineEnd bs start = .ok stop ∧ IsComment bs start stop := by
  have hsecond : bs.drop (start + 1) = slash :: rest := drop_succ h
  have hlt := lt_length_of_drop hsecond
  have hopen : CommentScan.start.output (bs.drop start) =
      space :: CommentScan.line.output (bs.drop (start + 2)) := by
    rw [h, drop_succ hsecond]
    rfl
  -- no position up to the end found holds the end of the line
  have hpass {n : Nat}
      (hn : ∀ j, start ≤ j → j < start + 2 + n → ((bs.drop j).head? == some newline) = false) :
      CommentScan.line.output (bs.drop (start + 2)) =
        CommentScan.line.output (bs.drop (start + 2 + n)) := by
    refine output_drop fun j hj hlt b more hb => ?_
    have hne := hn j (by omega) hlt
    rw [hb, List.head?_cons, beq_eq_false_iff_ne] at hne
    rw [CommentScan.step, if_neg (fun heq => hne (congrArg some heq))]
  have hreads : ∀ j, start ≤ j → j < start + (bs.length - start) →
      (do return (← read bs j) = newline : Except Fault Bool) =
        .ok ((bs.drop j).head? == some newline) := by
    intro j hj hlt
    obtain ⟨b, more, hb⟩ := exists_drop bs j (by omega)
    rw [read_of_drop hb, hb]
    exact congrArg Except.ok (Bool.eq_iff_iff.2 (by simp))
  rcases findFirst_cases hreads with ⟨hfind, hnone⟩ | ⟨m, hfind, hge, hbound, hm, hbefore⟩
  · refine ⟨bs.length, by rw [lineEnd, hfind]; rfl, isComment_to_length (by omega) ?_⟩
    have hall := hpass (n := bs.length - (start + 2)) (fun j hj hlt => hnone j hj (by omega))
    rw [hopen, hall, Nat.add_sub_cancel' hlt, List.drop_length]
    rfl
  · obtain ⟨b, more, hb⟩ := exists_drop bs m (by omega)
    obtain rfl : b = newline := by simpa [hb] using hm
    have hfirst : m ≠ start := by
      rintro rfl
      cases h.symm.trans hb
    have hnext : m ≠ start + 1 := by
      rintro rfl
      cases hsecond.symm.trans hb
    refine ⟨m, by rw [lineEnd, hfind]; rfl, by omega, by omega, ?_, ?_⟩
    · rintro query rfl
      exact (Text.isBoundary_of_ascii hb (by decide)).1
    · have hall := hpass (n := m - (start + 2)) (fun j hj hlt => hbefore j hj (by omega))
      rw [hopen, hall, Nat.add_sub_cancel' (by omega), hb]
      rfl

theorem exists_blockEnd (h : bs.drop start = slash :: star :: rest) :
    ∃ stop, blockEnd bs start = .ok stop ∧ IsComment bs start stop := by
  have hsecond : bs.drop (start + 1) = star :: rest := drop_succ h
  have hlt := lt_length_of_drop hsecond
  have hopen : CommentScan.start.output (bs.drop start) =
      space :: CommentScan.block.output (bs.drop (start + 2)) := by
    rw [h, drop_succ hsecond]
    rfl
  -- no position up to the end found holds the end of the comment
  have hpass {n : Nat}
      (hn : ∀ j, start + 2 ≤ j → j < start + 2 + n →
        ((bs.drop j).take 2 == [star, slash]) = false) :
      CommentScan.block.output (bs.drop (start + 2)) =
        CommentScan.block.output (bs.drop (start + 2 + n)) := by
    refine output_drop fun j hj hlt b more hb => ?_
    have hne := hn j hj hlt
    rw [hb, beq_eq_false_iff_ne] at hne
    rw [CommentScan.step, if_neg]
    rintro ⟨rfl, hhead⟩
    cases more with
    | nil => cases hhead
    | cons c more =>
        cases hhead
        exact hne rfl
  have hreads : ∀ j, start + 2 ≤ j → j < start + 2 + (bs.length - 1 - (start + 2)) →
      (do return (← slice bs j (j + 2)) = [star, slash] : Except Fault Bool) =
        .ok ((bs.drop j).take 2 == [star, slash]) := by
    intro j hj hlt
    rw [slice_eq_ok (Nat.le_add_right j 2) (by omega), Nat.add_sub_cancel_left]
    exact congrArg Except.ok (Bool.eq_iff_iff.2 (by simp))
  rcases findFirst_cases hreads with ⟨hfind, hnone⟩ | ⟨m, hfind, hge, hbound, hm, hbefore⟩
  · refine ⟨bs.length, by rw [blockEnd, hfind]; rfl, isComment_to_length (by omega) ?_⟩
    rw [hopen, hpass hnone]
    -- at most one byte is left
    cases hlast : bs.drop (start + 2 + (bs.length - 1 - (start + 2))) with
    | nil => rfl
    | cons b more =>
        have hlength := congrArg List.length hlast
        rw [List.length_drop, List.length_cons] at hlength
        obtain rfl : more = [] := List.length_eq_zero_iff.1 (by omega)
        rw [CommentScan.output_cons, CommentScan.step, if_neg (fun hclose => by cases hclose.2)]
        rfl
  · obtain ⟨b, more, hb⟩ := exists_drop bs m (by omega)
    obtain ⟨c, more', hc⟩ := exists_drop bs (m + 1) (by omega)
    obtain rfl : more = c :: more' := (drop_succ hb).symm.trans hc
    obtain ⟨rfl, rfl⟩ : b = star ∧ c = slash := by simpa [hb] using hm
    refine ⟨m + 2, by rw [blockEnd, hfind]; rfl, by omega, by omega, ?_, ?_⟩
    · rintro query rfl
      exact (Text.isBoundary_of_ascii hc (by decide)).2
    · have hall := hpass (n := m - (start + 2)) (fun j hj hlt => hbefore j hj (by omega))
      rw [hopen, hall, Nat.add_sub_cancel' hge, hb, drop_succ hc]
      rfl

end Comment

/-! ## The scan for comments -/

section Strip

variable {query : String} {s : Stripping}

theorem take_drop_append {α : Type} {xs part : List α} {start i stop : Nat}
    (h : xs.drop i = part ++ xs.drop stop) (hi : start ≤ i) (hstop : i ≤ stop)
    (bound : stop ≤ xs.length) :
    (xs.drop start).take (stop - start) = (xs.drop start).take (i - start) ++ part := by
  have hlength := congrArg List.length h
  rw [List.length_append, List.length_drop, List.length_drop] at hlength
  have hsplit : stop - start = (i - start) + part.length := by omega
  rw [hsplit, List.take_add, List.drop_drop, Nat.add_sub_cancel' hi, h, List.take_left]

/-- What is written, what is to be copied and what is left of the rest make up the whole. -/
structure Strips (query : String) (s : Stripping) : Prop where
  order : s.copied ≤ s.position
  bound : s.position ≤ (Text.bytes query).length
  boundary : Text.IsBoundary query s.copied
  output : withoutComments (Text.bytes query) = Text.bytes s.written ++
    (((Text.bytes query).drop s.copied).take (s.position - s.copied) ++
      CommentScan.start.output ((Text.bytes query).drop s.position))

theorem Strips.pass (h : Strips query s) {stop : Nat} {part : List UInt8}
    (hstop : s.position ≤ stop) (bound : stop ≤ (Text.bytes query).length)
    (parts : (Text.bytes query).drop s.position = part ++ (Text.bytes query).drop stop)
    (output : CommentScan.start.output ((Text.bytes query).drop s.position) =
      part ++ CommentScan.start.output ((Text.bytes query).drop stop)) :
    Strips query { s with position := stop } where
  order := Nat.le_trans h.order hstop
  bound := bound
  boundary := h.boundary
  output := by
    show _ = _ ++ (((Text.bytes query).drop s.copied).take (stop - s.copied) ++ _)
    rw [h.output, output, take_drop_append parts h.order hstop bound, List.append_assoc]

theorem Strips.quoted (h : Strips query s) {stop : Nat}
    (reaches : Reaches (Text.bytes query) s.position .outside stop)
    (bound : stop ≤ (Text.bytes query).length) : Strips query { s with position := stop } := by
  obtain ⟨part, hpart, hcovers, hrun⟩ := reaches.part
  refine h.pass (Nat.le_of_lt reaches.after) bound hpart ?_
  rw [hpart, CommentScan.start, CommentScan.output_append_of_covers hcovers]
  cases hbehind : (Text.bytes query).drop stop with
  | nil => rfl
  | cons c more => rw [hrun (by simp [hbehind])]

theorem Strips.comment (h : Strips query s) {b : UInt8} {rest : List UInt8}
    (hdrop : (Text.bytes query).drop s.position = slash :: b :: rest) {stop : Nat}
    (comment : IsComment (Text.bytes query) s.position stop) :
    ∃ piece, cutText query s.copied s.position = .ok piece ∧
      Strips query ⟨stop, stop, s.written ++ piece ++ " "⟩ := by
  obtain ⟨piece, hpiece, hbytes⟩ := exists_cutText h.order h.boundary
    (Text.isBoundary_of_ascii hdrop (by decide)).1
  refine ⟨piece, hpiece, Nat.le_refl _, comment.bound, comment.boundary query rfl, ?_⟩
  have hspace : Text.bytes " " = [space] := by decide
  simp [h.output, comment.output, hbytes, hspace]

theorem stripTurn_proceeds (h : Strips query s) (hs : s.position < (Text.bytes query).length) :
    Proceeds Stripping.position (Strips query)
      (fun s => Strips query s ∧ (Text.bytes query).length ≤ s.position) s (stripTurn query s) := by
  obtain ⟨b, rest, hdrop⟩ := exists_drop _ _ hs
  have hnext : (Text.bytes query)[s.position + 1]? = rest.head? := by
    rw [← List.head?_drop, drop_succ hdrop]
  simp only [stripTurn, read_of_drop hdrop, hnext, bind, Except.bind, pure, Except.pure]
  split
  · next hquote =>
      obtain ⟨stop, hskip, hreach, hbound⟩ := exists_skipQuoted hdrop hquote
      rw [hskip]
      exact .next hreach.after (h.quoted hreach hbound)
  · next hquote =>
      split
      · next hcomment =>
          obtain ⟨rfl, hsecond⟩ := hcomment
          rcases rest with _ | ⟨c, rest⟩
          · simp at hsecond
          · rw [read_of_drop (drop_succ hdrop)]
            rcases hsecond with hc | hc
            · cases hc
              obtain ⟨stop, hstop, hend⟩ := exists_lineEnd hdrop
              obtain ⟨piece, hpiece, hstrips⟩ := h.comment hdrop hend
              simp only [if_pos, hstop, hpiece]
              exact .next hend.after hstrips
            · cases hc
              obtain ⟨stop, hstop, hend⟩ := exists_blockEnd hdrop
              obtain ⟨piece, hpiece, hstrips⟩ := h.comment hdrop hend
              simp only [show ¬ star = slash by decide, if_false, hstop, hpiece]
              exact .next hend.after hstrips
      · next hcomment =>
          have hpart : (Text.bytes query).drop s.position =
              [b] ++ (Text.bytes query).drop (s.position + 1) := by
            rw [drop_succ hdrop, hdrop]
            rfl
          refine .next (Nat.lt_succ_self _) (h.pass (Nat.le_succ _) hs hpart ?_)
          rw [drop_succ hdrop, hdrop, CommentScan.output_cons, CommentScan.start, CommentScan.step,
            if_neg (fun hline => hcomment ⟨hline.2.1, .inl hline.2.2⟩),
            if_neg (fun hblock => hcomment ⟨hblock.2.1, .inr hblock.2.2⟩), Quoting.step,
            if_neg hquote]

theorem exists_stripComments (query : String) :
    ∃ text, stripComments query = .ok text ∧
      Text.bytes text = withoutComments (Text.bytes query) := by
  have hstart : Strips query ⟨0, 0, ""⟩ :=
    ⟨Nat.le_refl 0, Nat.zero_le _, Text.isBoundary_zero query, rfl⟩
  obtain ⟨s, hloop, h, hend⟩ : ∃ s, loop Stripping.position (Text.bytes query).length
      (stripTurn query) id ⟨0, 0, ""⟩ = .ok s ∧ Strips query s ∧
        (Text.bytes query).length ≤ s.position :=
    exists_loop (fun s h hs => stripTurn_proceeds h hs) (fun s h hend => ⟨h, hend⟩) hstart
  obtain ⟨piece, hpiece, hbytes⟩ := exists_cutText (Nat.le_trans h.order h.bound) h.boundary
    (Text.isBoundary_length query)
  have hposition := Nat.le_antisymm h.bound hend
  refine ⟨s.written ++ piece, ?_, ?_⟩
  · simp only [stripComments, hloop, hpiece, bind, Except.bind]
    rfl
  · rw [Text.bytes_append, hbytes, h.output, hposition, List.drop_length]
    exact congrArg _ (List.append_nil _).symm

end Strip

/-! ## The scan for the top level -/

section Mask

variable {bs : List UInt8} {s : Masking}

structure Masks (bs : List UInt8) (s : Masking) : Prop where
  bound : s.position ≤ bs.length
  parts : ∃ done, s.mask = done ++ List.replicate (bs.length - s.position) false ∧
    done.length = s.position ∧
      tops bs = done ++ (marks ⟨.outside, s.depth⟩ (bs.drop s.position)).map Mark.top

theorem Masks.pass (h : Masks bs s) {b : UInt8} {rest : List UInt8}
    (hdrop : bs.drop s.position = b :: rest) {depth : Nat}
    (hstep : Nesting.step ⟨.outside, s.depth⟩ b = ⟨.outside, depth⟩)
    (htop : Nesting.isTop ⟨.outside, s.depth⟩ b = false) :
    Masks bs { s with position := s.position + 1, depth := depth } where
  bound := lt_length_of_drop hdrop
  parts := by
    obtain ⟨done, hmask, hlength, hmarks⟩ := h.parts
    have hlt := lt_length_of_drop hdrop
    refine ⟨done ++ [false], ?_, by simp [hlength], ?_⟩
    · have hcount : bs.length - s.position = (bs.length - (s.position + 1)) + 1 := by omega
      rw [hmask, hcount, List.replicate_succ, List.append_assoc]
      rfl
    · rw [hmarks, hdrop, drop_succ hdrop, marks, hstep, htop, List.append_assoc]
      rfl

theorem Masks.quoted (h : Masks bs s) {stop : Nat} (reaches : Reaches bs s.position .outside stop)
    (bound : stop ≤ bs.length) : Masks bs { s with position := stop } where
  bound := bound
  parts := by
    obtain ⟨done, hmask, hlength, hmarks⟩ := h.parts
    obtain ⟨part, hpart, hcovers, hrun⟩ := reaches.part
    have hcount := congrArg List.length hpart
    have hafter := reaches.after
    rw [List.length_append, List.length_drop, List.length_drop] at hcount
    have hpartTops : (marks ⟨.outside, s.depth⟩ part).map Mark.top =
        List.replicate part.length false := by
      refine List.eq_replicate_iff.2 ⟨?_, ?_⟩
      · rw [List.length_map, ← List.length_map (f := Mark.byte), map_byte_marks]
      · intro t ht
        obtain ⟨m, hm, rfl⟩ := List.mem_map.1 ht
        exact marks_of_covers hcovers m hm
    refine ⟨done ++ List.replicate part.length false, ?_, ?_, ?_⟩
    · have hsplit : bs.length - s.position = part.length + (bs.length - stop) := by omega
      rw [hmask, hsplit, List.replicate_add, List.append_assoc]
    · rw [List.length_append, List.length_replicate, hlength]
      show _ = stop
      omega
    · rw [hmarks, hpart, marks_append, List.map_append, hpartTops, List.append_assoc,
        Nesting.run_of_covers hcovers]
      cases hbehind : bs.drop stop with
      | nil => rfl
      | cons c more => rw [hrun (by simp [hbehind])]

theorem Masks.exists_write (h : Masks bs s) {b : UInt8} {rest : List UInt8}
    (hdrop : bs.drop s.position = b :: rest)
    (hstep : Nesting.step ⟨.outside, s.depth⟩ b = ⟨.outside, s.depth⟩)
    (htop : Nesting.isTop ⟨.outside, s.depth⟩ b = (s.depth == 0)) :
    ∃ mask, write s.mask s.position (s.depth == 0) = .ok mask ∧
      Masks bs { s with position := s.position + 1, mask := mask } := by
  obtain ⟨done, hmask, hlength, hmarks⟩ := h.parts
  have hlt := lt_length_of_drop hdrop
  have hcount : bs.length - s.position = (bs.length - (s.position + 1)) + 1 := by omega
  have hin : s.position < s.mask.length := by
    rw [hmask, List.length_append, hlength, List.length_replicate]
    omega
  refine ⟨_, if_pos hin, hlt, done ++ [s.depth == 0], ?_, by rw [List.length_append, hlength]; rfl, ?_⟩
  · show s.mask.set s.position (s.depth == 0) = _
    rw [hmask, ← hlength, List.set_append_right _ _ (Nat.le_refl _), Nat.sub_self, hlength, hcount,
      List.replicate_succ, List.set_cons_zero, List.append_assoc]
    rfl
  · rw [hmarks, hdrop, marks, hstep, htop, drop_succ hdrop, List.append_assoc]
    rfl

theorem maskTurn_proceeds (h : Masks bs s) (hs : s.position < bs.length) :
    Proceeds Masking.position (Masks bs) (fun s => Masks bs s ∧ bs.length ≤ s.position) s
      (maskTurn bs s) := by
  obtain ⟨b, rest, hdrop⟩ := exists_drop _ _ hs
  simp only [maskTurn, read_of_drop hdrop, bind, Except.bind, pure, Except.pure]
  split
  · next hquote =>
      obtain ⟨stop, hskip, hreach, hbound⟩ := exists_skipQuoted hdrop hquote
      rw [hskip]
      exact .next hreach.after (h.quoted hreach hbound)
  · next hquote =>
      have hquoting : Quoting.outside.step b = .outside := by rw [Quoting.step, if_neg hquote]
      split
      · next hopening =>
          exact .next (Nat.lt_succ_self _) (h.pass hdrop
            (by simp [Nesting.step, hquoting, hopening]) (by simp [Nesting.isTop, hopening]))
      · next hopening =>
          split
          · next hclosing =>
              exact .next (Nat.lt_succ_self _) (h.pass hdrop
                (by simp [Nesting.step, hquoting, hopening, hclosing])
                (by simp [Nesting.isTop, hclosing]))
          · next hclosing =>
              obtain ⟨mask, hwrite, hmasks⟩ := h.exists_write hdrop
                (by simp [Nesting.step, hquoting, hopening, hclosing])
                (by simp [Nesting.isTop, hquote, hopening, hclosing])
              rw [hwrite]
              exact .next (Nat.lt_succ_self _) hmasks

theorem topMask_eq (bs : List UInt8) : topMask bs = .ok (tops bs) := by
  have hstart : Masks bs ⟨0, 0, List.replicate bs.length false⟩ :=
    ⟨Nat.zero_le _, [], rfl, rfl, rfl⟩
  obtain ⟨s, hloop, h, hend⟩ : ∃ s, loop Masking.position bs.length (maskTurn bs) id
      ⟨0, 0, List.replicate bs.length false⟩ = .ok s ∧ Masks bs s ∧ bs.length ≤ s.position :=
    exists_loop (fun s h hs => maskTurn_proceeds h hs) (fun s h hend => ⟨h, hend⟩) hstart
  obtain ⟨done, hmask, -, hmarks⟩ := h.parts
  have hposition := Nat.le_antisymm h.bound hend
  have hall : s.mask = tops bs := by
    rw [hmask, hmarks, hposition, List.drop_length, Nat.sub_self]
    rfl
  simp only [topMask, hloop, bind, Except.bind, hall]
  rfl

end Mask

end CypherBridge.Query.Scanner
