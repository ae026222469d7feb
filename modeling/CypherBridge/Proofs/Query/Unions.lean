import CypherBridge.Proofs.Query.Projection

/-!
# Columns of a union

Branches joined by `UNION` each project columns of their own.  A branch leaves no comment, quote or
bracket open, so the next one is read as if it stood alone, and the last `RETURN` of all is that of
the last branch.
-/

namespace CypherBridge.Query

namespace IsClosed

variable {s t : String}

theorem append (hs : IsClosed s) (ht : IsClosed t) (seam : IsSeam (Text.bytes s) (Text.bytes t)) :
    IsClosed (s ++ t) where
  comments := by
    rw [Text.bytes_append, CommentScan.reach_append_of_seam hs.comments seam, ht.comments]
  nesting := by
    rw [Text.bytes_append, withoutComments_append_of_seam hs.comments seam, Nesting.run_append,
      hs.nesting, ht.nesting]

theorem of_isPart (h : IsPart s) : IsClosed s where
  comments := h.uncommented_bytes.reach
  nesting := by rw [h.uncommented, h.closed]

theorem intercalate {texts : List String} (each : ∀ t ∈ texts, IsPart t) :
    IsClosed (", ".intercalate texts) := by
  induction texts with
  | nil => exact ⟨by decide, by decide⟩
  | cons text texts ih =>
      have htext := of_isPart (each text List.mem_cons_self)
      have hrest := ih fun t ht => each t (List.mem_cons_of_mem _ ht)
      cases texts with
      | nil => simpa using htext
      | cons other texts =>
          have hcomma : IsClosed ", " := ⟨by decide, by decide⟩
          rw [String.intercalate_cons_cons, String.append_assoc]
          refine htext.append (hcomma.append hrest (.inl (by decide))) (.inr ?_)
          rw [Text.bytes_append]
          rfl

end IsClosed

namespace IsFront

variable {front : String}

theorem isClosed (h : IsFront front) : IsClosed front := by
  cases h with
  | nothing => exact ⟨by decide, by decide⟩
  | closed h => exact h.append ⟨by decide, by decide⟩ (.inr (by decide))

theorem isSeam (h : IsFront front) (more : List UInt8) : IsSeam (Text.bytes front) more := by
  have hspace : Text.bytes " " = [space] := by decide
  cases h with
  | nothing => exact .inl (by decide)
  | closed h =>
      rw [Text.bytes_append, hspace]
      exact .inl (by simp [slash, space])

end IsFront

theorem isClosed_projection {front tail : String} (hfront : IsFront front) (htail : IsTail tail)
    (closed : IsClosed tail) (distinct : Bool) {texts : List String}
    (each : ∀ t ∈ texts, IsPart t) : IsClosed (projection front distinct texts tail) := by
  have hreturn : IsClosed "RETURN " := ⟨by decide, by decide⟩
  have hopening : IsClosed (if distinct then "DISTINCT " else "") := by
    cases distinct <;> exact ⟨by decide, by decide⟩
  have hitems : IsClosed (", ".intercalate texts ++ tail) :=
    (IsClosed.intercalate each).append closed (.inr htail.neutral_head)
  simp only [projection, String.append_assoc]
  refine hfront.isClosed.append (hreturn.append (hopening.append hitems ?_) (.inl (by decide)))
    (hfront.isSeam _)
  exact .inl (by cases distinct <;> decide)

/-- What a branch projects, the clauses in front of its `RETURN` and those behind its items. -/
structure Branch where
  front : String
  distinct : Bool
  items : List AliasedItem
  tail : String
  opens : IsFront front
  some : items ≠ []
  follows : IsTail tail
  closed : IsClosed tail

namespace Branch

variable (b : Branch)

def texts : List String := b.items.map AliasedItem.text

def names : List String := b.items.map AliasedItem.name

def text : String := projection b.front b.distinct b.texts b.tail

theorem isPart_of_mem : ∀ t ∈ b.texts, IsPart t := by
  intro t ht
  obtain ⟨i, -, rfl⟩ := List.mem_map.1 ht
  exact i.isItem.toIsPart

theorem resultColumns_behind {front : String} (hfront : IsFront front) :
    resultColumns (projection front b.distinct b.texts b.tail) = .some b.names :=
  resultColumns_projection hfront b.follows b.distinct (forall₂_isItem b.items)
    (by simpa [texts] using b.some)

end Branch

inductive UnionQuery where
  | single (b : Branch)
  | union (q : UnionQuery) (all : Bool) (b : Branch)

namespace UnionQuery

def unionWords (all : Bool) : String := if all then " UNION ALL" else " UNION"

def text : UnionQuery → String
  | single b => b.text
  | union q all b => q.text ++ (unionWords all ++ " ") ++ b.text

def first : UnionQuery → Branch
  | single b => b
  | union q _ _ => q.first

def last : UnionQuery → Branch
  | single b => b
  | union _ _ b => b

theorem isClosed_unionWords (all : Bool) : IsClosed (unionWords all) := by
  cases all <;> exact ⟨by decide, by decide⟩

theorem neutral_head_unionWords (all : Bool) (more : List UInt8) :
    CommentScan.isNeutral (Text.bytes (unionWords all) ++ more).head? = true := by
  cases all <;> rfl

theorem isSeam_unionWords (all : Bool) (more : List UInt8) :
    IsSeam (Text.bytes (unionWords all)) more := by
  cases all <;> exact .inl (by decide)

theorem isFront_behind {before front : String} (hbefore : IsClosed before) (all : Bool)
    (hfront : IsFront front) : IsFront (before ++ (unionWords all ++ " ") ++ front) := by
  have hspace : IsClosed " " := ⟨by decide, by decide⟩
  have hwords := isClosed_unionWords all
  have hseam {t : String} : IsSeam (Text.bytes before) (Text.bytes (unionWords all ++ t)) := by
    rw [Text.bytes_append]
    exact .inr (neutral_head_unionWords all _)
  cases hfront with
  | nothing =>
      rw [String.append_empty, ← String.append_assoc]
      refine .closed (hbefore.append hwords ?_)
      simpa using hseam (t := "")
  | @closed inner hinner =>
      rw [← String.append_assoc]
      refine .closed ?_
      rw [String.append_assoc, String.append_assoc]
      exact hbefore.append (hwords.append (hspace.append hinner (.inl (by decide)))
        (isSeam_unionWords all _)) hseam

theorem exists_front (q : UnionQuery) :
    ∃ front, IsFront front ∧
      q.text = projection front q.last.distinct q.last.texts q.last.tail := by
  have hclosed (b : Branch) {front : String} (hfront : IsFront front) :
      IsClosed (projection front b.distinct b.texts b.tail) :=
    isClosed_projection hfront b.follows b.closed b.distinct b.isPart_of_mem
  induction q with
  | single b => exact ⟨b.front, b.opens, rfl⟩
  | union q all b ih =>
      obtain ⟨front, hfront, htext⟩ := ih
      have hbefore : IsClosed q.text := by
        rw [htext]
        exact hclosed q.last hfront
      refine ⟨_, isFront_behind hbefore all b.opens, ?_⟩
      show q.text ++ (unionWords all ++ " ") ++ projection b.front b.distinct b.texts b.tail =
        projection _ b.distinct b.texts b.tail
      simp only [projection, String.append_assoc]

theorem resultColumns_text (q : UnionQuery) : resultColumns q.text = some q.last.names := by
  obtain ⟨front, hfront, htext⟩ := q.exists_front
  rw [htext]
  exact q.last.resultColumns_behind hfront

end UnionQuery

/-- The last branch orders the columns: the first one does so if it has the same order. -/
theorem last_branch_orders_columns (q : UnionQuery) :
    resultColumns q.text = some q.last.names ∧
      (resultColumns q.text = some q.first.names ↔ q.last.names = q.first.names) := by
  refine ⟨q.resultColumns_text, ?_⟩
  rw [q.resultColumns_text, Option.some_inj]

def branchOf (before : String) (closed : IsClosed before) (items : List AliasedItem)
    (some : items ≠ []) : Branch :=
  ⟨before ++ " ", false, items, "", .closed closed, some, isTail_empty, ⟨by decide, by decide⟩⟩

def displayItem : AliasedItem :=
  ⟨"n.name", "display", by decide, by decide, by decide, by decide⟩

def valueItem : AliasedItem :=
  ⟨"n.id", "value", by decide, by decide, by decide, by decide⟩

/-- Both branches project the same two names, and the order of the first one is lost. -/
theorem first_branch_is_overruled :
    let q := UnionQuery.union
      (.single (branchOf "MATCH (n:Compound)" ⟨by decide, by decide⟩ [displayItem, valueItem] (by simp)))
      false (branchOf "MATCH (n:Target)" ⟨by decide, by decide⟩ [valueItem, displayItem] (by simp))
    q.text = "MATCH (n:Compound) RETURN n.name AS `display`, n.id AS `value` UNION " ++
        "MATCH (n:Target) RETURN n.id AS `value`, n.name AS `display`" ∧
      q.first.names = ["display", "value"] ∧ q.last.names = ["value", "display"] ∧
      resultColumns q.text = some ["value", "display"] := by
  intro q
  exact ⟨by decide, rfl, rfl, q.resultColumns_text⟩

end CypherBridge.Query
