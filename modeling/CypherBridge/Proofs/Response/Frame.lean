import CypherBridge.Proofs.Json.Documents
import CypherBridge.Proofs.Message.Pace
import CypherBridge.Response.FrameReader

/-!
# Frames are read back

The text of a frame is one object that has a member for each part of the frame, and reading it
gives the frame back, whatever its type, its data and its error are.  Only data that is null
cannot be told from data that is absent, and no answer to a message has such data.
-/

namespace CypherBridge

open Json

namespace Json

variable {α : Type} {form : Form α} {written rest : List Char} {a : α} {depth : Nat}

theorem ofSyntax_readsBack {reader : Cursor → Except SyntaxError (α × Cursor)}
    (reads : ReadsBack reader written a rest) :
    ReadsBack (fun c => ofSyntax (reader c)) written a rest := by
  intro p
  obtain ⟨behind, hread⟩ := reads p
  refine ⟨behind, ?_⟩
  simp only [hread]
  rfl

theorem readText_readsBack (s : String) (rest : List Char) :
    ReadsBack readText (printString s.toList) s rest := by
  intro p
  exact ofSyntax_readsBack (readString_readsBack s rest) (p.past '"')

theorem readAny_readsBack {v : Value} (readable : v.Readable depth) (ends : EndsNumber rest) :
    ReadsBack (readAny depth) v.print v rest := by
  intro p
  have hfuel : 2 * (v.print ++ rest).length ≤ Cursor.fuel ⟨v.print ++ rest, p⟩ :=
    Nat.le_add_right _ 2
  exact ofSyntax_readsBack (readValue_readsBack readable ends hfuel) p

theorem print_startsValue {v : Value} (whole : v.AllNumbers Number.Whole) :
    StartsValue v.print := by
  cases v with
  | null => exact ⟨rfl, by decide⟩
  | bool b => cases b <;> exact ⟨rfl, by decide⟩
  | number n =>
      cases n with
      | float x => exact whole.elim
      | integer n =>
          obtain ⟨d, ds, hds, hd⟩ := printInt_head n
          obtain ⟨hblank, hclosing, -⟩ := number_head hd
          rw [Value.print, Number.print, hds]
          exact ⟨hblank, hclosing⟩
  | string s => exact ⟨rfl, by decide⟩
  | array items => cases items <;> exact ⟨rfl, by decide⟩
  | object members => cases members <;> exact ⟨rfl, by decide⟩

theorem print_head_ne {v : Value} (whole : v.AllNumbers Number.Whole) (present : v ≠ .null) :
    v.print.head? ≠ some 'n' := by
  cases v with
  | null => exact absurd rfl present
  | bool b => cases b <;> simp [Value.print]
  | number n =>
      cases n with
      | float x => exact whole.elim
      | integer n =>
          obtain ⟨d, ds, hds, hd⟩ := printInt_head n
          obtain ⟨-, -, hne, -⟩ := number_head hd
          simpa [Value.print, Number.print, hds] using hne
  | string s => simp [Value.print, printString]
  | array items => cases items <;> simp [Value.print]
  | object members => cases members <;> simp [Value.print]

theorem printMembers_endsNumber (members : List (String × Value)) (rest : List Char) :
    EndsNumber (Value.printMembers members ++ rest) := by
  cases members <;> exact ⟨rfl, by decide, by decide, by decide⟩

theorem readOptional_null (form : Form α) (rest : List Char) :
    ReadsBack (readOptional form) (Value.print .null) none rest :=
  fun _ => ⟨_, rfl⟩

theorem readOptional_some (starts : StartsValue written) (present : written.head? ≠ some 'n')
    (reads : ReadsBack form written a rest) :
    ReadsBack (readOptional form) written (some a) rest := by
  intro p
  obtain ⟨behind, hread⟩ := reads p
  refine ⟨behind, ?_⟩
  cases written with
  | nil => exact starts.elim
  | cons c cs =>
      have hc : c ≠ 'n' := by simpa using present
      have hskip : Cursor.skipBlanks ⟨c :: cs ++ rest, p⟩ = ⟨c :: cs ++ rest, p⟩ := by
        simp [Cursor.skipBlanks, Cursor.skipBlanksFrom, starts.1]
      simp only [readOptional, hskip]
      split
      · rename_i hsame
        exact absurd (List.cons.inj hsame).1 hc
      · rw [hread]
        rfl

end Json

/-! ## The members of a frame -/

def ErrorReport.document (info : ErrorReport) : Value :=
  .object [("code", .string info.code), ("message", .string info.message)]

theorem ErrorReport.document_readable (info : ErrorReport) (depth : Nat) :
    info.document.Readable (depth + 1) where
  sorted := by
    have hkeys : ["code", "message"].Pairwise (· < ·) := by decide
    exact ⟨hkeys, trivial, trivial, trivial⟩
  whole := ⟨trivial, trivial, trivial⟩
  shallow := by simp [document, Value.depth, Value.depthMembers]

namespace Frame

/-- The type first, then the data and the error, each only if present. -/
def members (f : Frame) : List (String × Value) :=
  ("type", .string f.type) :: ((f.data.map fun v => ("data", v)).toList ++
    (f.error.map fun info => ("error", info.document)).toList)

theorem print_eq (f : Frame) : f.print = (Value.object f.members).print := by
  obtain ⟨type, data, error⟩ := f
  cases data <;> cases error <;>
    simp [print, members, Value.print, Value.printMembers, printField, printError,
      ErrorReport.document]

theorem text_eq (f : Frame) : f.text = (Value.object f.members).text := by
  rw [text, print_eq]
  rfl

section Members

variable {α : Type} {form : Form α} {written rest : List Char} {a : α} {fuel : Nat} {first : Bool}
  {c : Cursor} {p : Position}

theorem nextMember_first (key : String) (cs : List Char) (p : Position) :
    nextMember true ⟨printString key.toList ++ cs, p⟩ =
      .ok (.another, ⟨printString key.toList ++ cs, p⟩) := rfl

theorem nextMember_comma (key : String) (cs : List Char) (p : Position) :
    nextMember false ⟨',' :: (printString key.toList ++ cs), p⟩ =
      .ok (.another, ⟨printString key.toList ++ cs, p.past ','⟩) := rfl

theorem nextMember_printMembers (key : String) (v : Value) (members : List (String × Value))
    (rest : List Char) (p : Position) :
    nextMember false ⟨Value.printMembers ((key, v) :: members) ++ rest, p⟩ =
      .ok (.another, ⟨printString key.toList ++
        ':' :: (v.print ++ (Value.printMembers members ++ rest)), p.past ','⟩) := by
  rw [Value.printMembers, List.cons_append, List.append_assoc, List.cons_append, List.append_assoc]
  exact nextMember_comma key _ p

theorem exists_readMember (name : String) (reads : ReadsBack form written a rest) (p : Position) :
    ∃ named behind,
      readString (Cursor.advance ⟨printString name.toList ++ ':' :: (written ++ rest), p⟩) =
        .ok (name, ⟨':' :: (written ++ rest), named⟩) ∧
      readMember name none form ⟨':' :: (written ++ rest), named⟩ =
        .ok (some a, ⟨rest, behind⟩) := by
  obtain ⟨named, hkey⟩ := readString_readsBack name (':' :: (written ++ rest)) (p.past '"')
  obtain ⟨behind, hread⟩ := reads (named.past ':')
  have hcolon : readColon ⟨':' :: (written ++ rest), named⟩ =
      .ok ⟨written ++ rest, named.past ':'⟩ := rfl
  refine ⟨named, behind, hkey, ?_⟩
  simp only [readMember, hcolon, ofSyntax, bind, Except.bind, hread]
  rfl

section Info

variable {code message : String} {more : List Char} {info : ErrorReport}

theorem readInfoMembers_code {before : Option String}
    (opens : nextMember first c = .ok (.another, ⟨printString "code".toList ++
      ':' :: (printString code.toList ++ (more ++ rest)), p⟩))
    (others : ReadsBack (readInfoMembers fuel false ⟨some code, before⟩) more info rest) :
    ∃ behind, readInfoMembers (fuel + 1) first ⟨none, before⟩ c =
      .ok (info, ⟨rest, behind⟩) := by
  obtain ⟨named, between, hkey, hvalue⟩ := exists_readMember "code"
    (readText_readsBack code (more ++ rest)) p
  obtain ⟨behind, hothers⟩ := others between
  refine ⟨behind, ?_⟩
  rw [readInfoMembers]
  simp only [opens, ofSyntax, bind, Except.bind, hkey, if_true, hvalue, hothers]

theorem readInfoMembers_message {before : Option String}
    (opens : nextMember first c = .ok (.another, ⟨printString "message".toList ++
      ':' :: (printString message.toList ++ (more ++ rest)), p⟩))
    (others : ReadsBack (readInfoMembers fuel false ⟨before, some message⟩) more info rest) :
    ∃ behind, readInfoMembers (fuel + 1) first ⟨before, none⟩ c =
      .ok (info, ⟨rest, behind⟩) := by
  obtain ⟨named, between, hkey, hvalue⟩ := exists_readMember "message"
    (readText_readsBack message (more ++ rest)) p
  obtain ⟨behind, hothers⟩ := others between
  have hother : "message" ≠ "code" := by decide
  refine ⟨behind, ?_⟩
  rw [readInfoMembers]
  simp only [opens, ofSyntax, bind, Except.bind, hkey, hother, if_false, if_true, hvalue, hothers]

theorem readInfo_readsBack (info : ErrorReport) (rest : List Char) :
    ReadsBack readInfo info.document.print info rest := by
  intro p
  let message := Value.printMembers [("message", .string info.message)]
  let inside := printString "code".toList ++
    ':' :: (printString info.code.toList ++ (message ++ rest))
  have hwritten : info.document.print ++ rest = '{' :: inside := by
    simp [ErrorReport.document, Value.print, inside, message]
  have hopen : readInfo ⟨'{' :: inside, p⟩ =
      readInfoMembers (inside.length + 2) true ⟨none, none⟩ ⟨inside, p.past '{'⟩ := rfl
  obtain ⟨fuel, hfuel⟩ : ∃ fuel, inside.length + 2 = fuel + 3 := ⟨_, rfl⟩
  have hmessage : ReadsBack (readInfoMembers (fuel + 2) false ⟨some info.code, none⟩) message info
      rest := by
    intro p
    exact readInfoMembers_message (nextMember_printMembers "message" _ [] rest p)
      (fun _ => ⟨_, rfl⟩)
  obtain ⟨behind, hread⟩ := readInfoMembers_code (nextMember_first "code" _ (p.past '{')) hmessage
  exact ⟨behind, by rw [hwritten, hopen, hfuel, hread]⟩

end Info

section Parts

variable {type : String} {data? : Option (Option Value)} {error? : Option (Option ErrorReport)}
  {more : List Char} {f : Frame}

theorem readFrameMembers_type
    (opens : nextMember first c = .ok (.another, ⟨printString "type".toList ++
      ':' :: (printString type.toList ++ (more ++ rest)), p⟩))
    (others : ReadsBack (readFrameMembers fuel false ⟨some type, data?, error?⟩) more f rest) :
    ∃ behind, readFrameMembers (fuel + 1) first ⟨none, data?, error?⟩ c =
      .ok (f, ⟨rest, behind⟩) := by
  obtain ⟨named, between, hkey, hvalue⟩ := exists_readMember "type"
    (readText_readsBack type (more ++ rest)) p
  obtain ⟨behind, hothers⟩ := others between
  refine ⟨behind, ?_⟩
  rw [readFrameMembers]
  simp only [opens, ofSyntax, bind, Except.bind, hkey, if_true, hvalue, hothers]

theorem readFrameMembers_data {type? : Option String} {data : Option Value}
    (opens : nextMember first c = .ok (.another, ⟨printString "data".toList ++
      ':' :: (written ++ (more ++ rest)), p⟩))
    (value : ReadsBack readData written data (more ++ rest))
    (others : ReadsBack (readFrameMembers fuel false ⟨type?, some data, error?⟩) more f rest) :
    ∃ behind, readFrameMembers (fuel + 1) first ⟨type?, none, error?⟩ c =
      .ok (f, ⟨rest, behind⟩) := by
  obtain ⟨named, between, hkey, hvalue⟩ := exists_readMember "data" value p
  obtain ⟨behind, hothers⟩ := others between
  have hother : "data" ≠ "type" := by decide
  refine ⟨behind, ?_⟩
  rw [readFrameMembers]
  simp only [opens, ofSyntax, bind, Except.bind, hkey, hother, if_false, if_true, hvalue, hothers]

theorem readFrameMembers_error {type? : Option String} {error : Option ErrorReport}
    (opens : nextMember first c = .ok (.another, ⟨printString "error".toList ++
      ':' :: (written ++ (more ++ rest)), p⟩))
    (value : ReadsBack (readOptional readInfo) written error (more ++ rest))
    (others : ReadsBack (readFrameMembers fuel false ⟨type?, data?, some error⟩) more f rest) :
    ∃ behind, readFrameMembers (fuel + 1) first ⟨type?, data?, none⟩ c =
      .ok (f, ⟨rest, behind⟩) := by
  obtain ⟨named, between, hkey, hvalue⟩ := exists_readMember "error" value p
  obtain ⟨behind, hothers⟩ := others between
  have hother : "error" ≠ "type" := by decide
  have hother' : "error" ≠ "data" := by decide
  refine ⟨behind, ?_⟩
  rw [readFrameMembers]
  simp only [opens, ofSyntax, bind, Except.bind, hkey, hother, hother', if_false, if_true, hvalue,
    hothers]

end Parts

end Members

/-! ## Reading frames -/

/-- What is read of a frame: data that is null stands for no data. -/
def withoutNull (f : Frame) : Frame :=
  { f with data := if f.data = some .null then none else f.data }

/-- Whether the data of a frame, if it has any, can be read back inside a frame. -/
def IsReadable (f : Frame) : Prop := ∀ v, f.data = some v → v.Readable (nestingLimit - 1)

variable {f : Frame} {fuel : Nat} {rest : List Char}

theorem readData_readsBack {v : Value} (readable : v.Readable (nestingLimit - 1))
    (ends : EndsNumber rest) :
    ReadsBack readData v.print (if v = .null then none else some v) rest := by
  by_cases hnull : v = .null
  · subst hnull
    exact readOptional_null _ rest
  · rw [if_neg hnull]
    exact readOptional_some (print_startsValue readable.whole)
      (print_head_ne readable.whole hnull) (readAny_readsBack readable ends)

theorem readFrameMembers_behindData (type : String) (data? : Option (Option Value))
    (error : Option ErrorReport) (rest : List Char) :
    ReadsBack (readFrameMembers (fuel + 2) false ⟨some type, data?, none⟩)
      (Value.printMembers (error.map fun info => ("error", info.document)).toList)
      ⟨type, data?.join, error⟩ rest := by
  intro p
  cases error with
  | none => exact ⟨_, rfl⟩
  | some info =>
      have hvalue := readOptional_some (print_startsValue (info.document_readable 0).whole)
        (by simp [ErrorReport.document, Value.print])
        (readInfo_readsBack info (Value.printMembers [] ++ rest))
      exact readFrameMembers_error (nextMember_printMembers "error" _ [] rest p) hvalue
        (fun _ => ⟨_, rfl⟩)

theorem readFrameMembers_behindType (type : String) (data : Option Value)
    (error : Option ErrorReport) (readable : ∀ v, data = some v → v.Readable (nestingLimit - 1))
    (rest : List Char) :
    ReadsBack (readFrameMembers (fuel + 3) false ⟨some type, none, none⟩)
      (Value.printMembers ((data.map fun v => ("data", v)).toList ++
        (error.map fun info => ("error", info.document)).toList))
      (withoutNull ⟨type, data, error⟩) rest := by
  cases data with
  | none => exact readFrameMembers_behindData type none error rest
  | some v =>
      intro p
      have hvalue := readData_readsBack (readable v rfl) (printMembers_endsNumber
        (error.map fun info => ("error", info.document)).toList rest)
      have hframe : withoutNull ⟨type, some v, error⟩ =
          ⟨type, (some (if v = .null then none else some v)).join, error⟩ := by
        simp [withoutNull]
      rw [hframe]
      exact readFrameMembers_data (nextMember_printMembers "data" v _ rest p) hvalue
        (readFrameMembers_behindData type _ error rest)

theorem readFrame_readsBack (readable : f.IsReadable) (rest : List Char) :
    ReadsBack readFrame f.print f.withoutNull rest := by
  intro p
  let others := Value.printMembers ((f.data.map fun v => ("data", v)).toList ++
    (f.error.map fun info => ("error", info.document)).toList)
  let inside := printString "type".toList ++
    ':' :: (printString f.type.toList ++ (others ++ rest))
  have hwritten : f.print ++ rest = '{' :: inside := by
    simp [print_eq, members, Value.print, inside, others]
  have hopen : readFrame ⟨'{' :: inside, p⟩ =
      readFrameMembers (inside.length + 2) true ⟨none, none, none⟩ ⟨inside, p.past '{'⟩ := rfl
  obtain ⟨fuel, hfuel⟩ : ∃ fuel, inside.length + 2 = fuel + 4 := ⟨_, rfl⟩
  obtain ⟨behind, hread⟩ := readFrameMembers_type (nextMember_first "type" _ (p.past '{'))
    (readFrameMembers_behindType f.type f.data f.error readable rest)
  exact ⟨behind, by rw [hwritten, hopen, hfuel, hread]⟩

theorem parse_text (readable : f.IsReadable) : parse f.text = .ok f.withoutNull := by
  have hstart : Cursor.ofString f.text = ⟨f.print, .start⟩ := by
    rw [Cursor.ofString, text, String.toList_ofList]
  obtain ⟨behind, hread⟩ := readFrame_readsBack readable [] .start
  rw [List.append_nil] at hread
  rw [parse]
  simp only [hstart, hread, bind, Except.bind]
  rfl

theorem members_readable (readable : f.IsReadable) :
    ∀ m ∈ f.members, m.2.Readable (nestingLimit - 1) := by
  have htype : (Value.string f.type).Readable (nestingLimit - 1) :=
    ⟨trivial, trivial, Nat.zero_le _⟩
  intro m hm
  simp only [members, List.mem_cons, List.mem_append, Option.mem_toList,
    Option.map_eq_some_iff] at hm
  rcases hm with rfl | ⟨v, hv, rfl⟩ | ⟨info, -, rfl⟩
  · exact htype
  · exact readable v hv
  · exact info.document_readable _

end Frame

/-! ## Frames of a response -/

theorem shape_ne_null {kind : Response.Kind} {r : Record} {data : Value}
    (h : shape kind r = .ok data) : data ≠ .null := by
  unfold shape at h
  split at h
  · split at h
    · cases h
      simp
    · cases h
  · cases h
    simp [Record.toValue]

theorem Response.data_ne_null (kind : Response.Kind) (events : List Poll) :
    ∀ f ∈ frames kind events, f.data ≠ some .null := by
  induction events with
  | nil => simp [frames]
  | cons event events ih =>
      cases event with
      | record r =>
          cases hshape : shape kind r with
          | ok data =>
              simpa [frames, hshape, shape_ne_null hshape] using ih
          | error e => simp [frames, hshape]
      | failed e => cases e <;> simp [frames, DatabaseError.frame]
      | ended => simp [frames]
      | pending => simpa [frames] using ih

theorem Prospect.data_ne_null {σ : Type} (p : Prospect σ) (polls : Nat) :
    ∀ f ∈ p.frames polls, f.data ≠ some .null := by
  cases p with
  | refused r => cases r <;> simp [frames, Rejection.frame]
  | granted kind course => exact Response.data_ne_null kind _

theorem Delivery.data_ne_null {β σ : Type} [Database β σ] (text : String) (g : Gateway β)
    (capacity : Nat) (appetite : Appetite) (pace : Nat → Nat) (n : Nat) :
    ∀ f ∈ (start text g capacity appetite).handedIn pace n, f.data ≠ some .null := by
  intro f hf
  have hstands := stands_paced text g capacity appetite pace n
  exact Prospect.data_ne_null _ _ f (hstands.task.sent_prefix.subset hf)

/-- A frame is read back from its text, and the frames that a message can hand over come back as
they are. -/
theorem frame_is_read_back (f : Frame) (sorted : ∀ v, f.data = some v → v.Sorted)
    (whole : ∀ v, f.data = some v → v.AllNumbers Number.Whole)
    (shallow : ∀ v, f.data = some v → v.depth ≤ 126) :
    Frame.parse f.text = .ok { f with data := if f.data = some .null then none else f.data } ∧
    f.text = (Value.object f.members).text ∧
    Json.parse f.text = .ok (.ofMembers f.members) ∧
    ∀ {β σ : Type} [Database β σ] (text : String) (g : Gateway β) (capacity : Nat)
      (appetite : Appetite) (pace : Nat → Nat) (n : Nat),
      f ∈ (Delivery.start text g capacity appetite).handedIn pace n →
        ∃ g, Frame.parse f.text = .ok g ∧ g = f ∧ g.isError = f.isError ∧
          g.endsResponse = f.endsResponse := by
  have hreadable : f.IsReadable := fun v hv => ⟨sorted v hv, whole v hv, shallow v hv⟩
  have hparse := Frame.parse_text hreadable
  refine ⟨hparse, f.text_eq, ?_, ?_⟩
  · rw [f.text_eq]
    exact parse_text_ofMembers (Frame.members_readable hreadable)
  · intro β σ _ text g capacity appetite pace n handed
    have hnull := Delivery.data_ne_null text g capacity appetite pace n f handed
    have hsame : f.withoutNull = f := by rw [Frame.withoutNull, if_neg hnull]
    rw [hsame] at hparse
    exact ⟨f, hparse, rfl, rfl, rfl⟩

theorem frame_is_read_back_of_type_done :
    let text := "\x7b\"message\":\"a\",\"type\":\"done\"\x7d"
    let row := Frame.ofData (.passthrough "done") sampleRow.toValue
    row ∈ (Delivery.start text (sampleGateway .ends) 1 .all).handedIn (fun _ => 1) 3 ∧
      Frame.parse row.text = .ok row ∧ row.endsResponse = false ∧
      Json.parse row.text =
        .ok (.ofMembers [("type", .string "done"), ("data", sampleRow.toValue)]) := by
  intro text row
  have hhanded : row ∈
      (Delivery.start text (sampleGateway .ends) 1 .all).handedIn (fun _ => 1) 3 := by
    decide +kernel
  have hkeys : ["_fieldLookup", "_fields", "keys", "length"].Pairwise (· < ·) := by decide
  have hkey : ["x"].Pairwise (· < ·) := List.pairwise_singleton _ _
  have hzero : minInteger ≤ 0 ∧ (0 : Int) ≤ maxUnsigned := by decide
  have hone : minInteger ≤ 1 ∧ (1 : Int) ≤ maxUnsigned := by decide
  have hsorted : sampleRow.toValue.Sorted :=
    ⟨hkeys, ⟨hkey, trivial, trivial⟩, ⟨trivial, trivial⟩, ⟨trivial, trivial⟩, trivial, trivial⟩
  have hwhole : sampleRow.toValue.AllNumbers Number.Whole :=
    ⟨⟨hzero, trivial⟩, ⟨trivial, trivial⟩, ⟨trivial, trivial⟩, hone, trivial⟩
  have hdepth : sampleRow.toValue.depth ≤ 126 := by decide
  obtain ⟨-, -, hdocument, hhands⟩ := frame_is_read_back row
    (fun v hv => Option.some.inj hv ▸ hsorted) (fun v hv => Option.some.inj hv ▸ hwhole)
    (fun v hv => Option.some.inj hv ▸ hdepth)
  obtain ⟨g, hparse, hsame, -⟩ := hhands text (sampleGateway .ends) 1 .all (fun _ => 1) 3 hhanded
  rw [hsame] at hparse
  exact ⟨hhanded, hparse, rfl, hdocument⟩

end CypherBridge
