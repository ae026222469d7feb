import CypherBridge.Gateway.Stream

/-!
# The frames of a response

What the events of a query make of its response: one frame for each record, up to the first
final event, and one frame for that event.  Further events never take a frame back, and the
frame of the final event is the only one that ends the response.  The frames are written out as
the protocol has them, and the bridge's own constructors are proved to agree.
-/

namespace CypherBridge

/-- What a client is told of a rejected message. -/
def Rejection.frame : Rejection → Frame
  | .notJson e => ⟨"error", none, some ⟨"ParseError", "invalid JSON: " ++ e.message⟩⟩
  | .malformed m =>
      ⟨"error", none, some ⟨"MalformedRequest", "malformed request: " ++ m.reason⟩⟩

/-- What a client is told of a query that fails. -/
def DatabaseError.frame : DatabaseError → Frame
  | .connectivity reason =>
      ⟨"error", none, some ⟨"ConnectivityError", "database unreachable: " ++ reason⟩⟩
  | .query code message => ⟨"error", none, some ⟨code, message⟩⟩
  | .decode reason =>
      ⟨"error", none, some ⟨"DecodeError", "failed to decode record: " ++ reason⟩⟩
  | .closed => ⟨"error", none, some ⟨"GatewayClosed", "gateway is closed"⟩⟩
  | .config reason =>
      ⟨"error", none, some ⟨"ConfigError", "invalid driver configuration: " ++ reason⟩⟩

theorem Rejection.ofError_info (r : Rejection) : Frame.ofError r.info = r.frame := by
  cases r <;> rfl

theorem Rejection.endsResponse_frame (r : Rejection) : r.frame.endsResponse = true := by
  cases r <;> rfl

theorem DatabaseError.ofError_info (e : DatabaseError) : Frame.ofError e.info = e.frame := by
  cases e <;> rfl

theorem DatabaseError.endsResponse_frame (e : DatabaseError) : e.frame.endsResponse = true := by
  cases e <;> rfl

theorem ShapeFault.eq_of_shape {kind : Response.Kind} {r : Record} {e : ShapeFault}
    (h : shape kind r = .error e) : e = ⟨kind.type, r.length⟩ := by
  unfold shape at h
  split at h
  · split at h
    · cases h
    · exact (Except.error.inj h).symm
  · cases h

namespace Response

/-- A record that does not fit the kind ends its response like a failure. -/
def isFinal (kind : Kind) : Poll → Bool
  | .record r => !(shape kind r).isOk
  | .failed _ | .ended => true
  | .pending => false

def isOver (kind : Kind) (events : List Poll) : Bool := events.any (isFinal kind)

def frames (kind : Kind) : List Poll → List Frame
  | [] => []
  | .record r :: events =>
      match shape kind r with
      | .ok data => ⟨kind.type, some data, none⟩ :: frames kind events
      | .error _ =>
          [⟨"error", none, some ⟨"ShapeError",
            s!"{kind.type} results need at least 2 fields, record has {r.length}"⟩⟩]
  | .failed e :: _ => [e.frame]
  | .ended :: _ => [⟨if kind = .counts then "counts" else "done", none, none⟩]
  | .pending :: events => frames kind events

theorem frames_of_data {kind : Kind} {r : Record} {data : Json.Value}
    (h : shape kind r = .ok data) : frames kind [.record r] = [.ofData kind data] := by
  simp only [frames, h]
  rfl

theorem frames_of_shapeFault {kind : Kind} {r : Record} {e : ShapeFault}
    (h : shape kind r = .error e) : frames kind [.record r] = [.ofError e.info] := by
  simp only [frames, h, ShapeFault.eq_of_shape h]
  rfl

theorem frames_of_failure (kind : Kind) (e : DatabaseError) :
    frames kind [.failed e] = [.ofError e.info] := by
  rw [frames, e.ofError_info]

theorem frames_of_end (kind : Kind) : frames kind [.ended] = [.completion kind] := by
  cases kind <;> rfl

@[simp] theorem isOver_nil (kind : Kind) : isOver kind [] = false := rfl

@[simp] theorem isOver_cons (kind : Kind) (event : Poll) (events : List Poll) :
    isOver kind (event :: events) = (isFinal kind event || isOver kind events) :=
  rfl

@[simp] theorem isOver_append (kind : Kind) (before after : List Poll) :
    isOver kind (before ++ after) = (isOver kind before || isOver kind after) := by
  simp [isOver]

theorem isFinal_of_ok {kind : Kind} {r : Record} {data : Json.Value}
    (h : shape kind r = .ok data) : isFinal kind (.record r) = false := by
  simp [isFinal, h, Except.isOk, Except.toBool]

theorem isFinal_of_error {kind : Kind} {r : Record} {e : ShapeFault}
    (h : shape kind r = .error e) : isFinal kind (.record r) = true := by
  simp [isFinal, h, Except.isOk, Except.toBool]

theorem frames_append_of_open {kind : Kind} {before : List Poll}
    (h : isOver kind before = false) (after : List Poll) :
    frames kind (before ++ after) = frames kind before ++ frames kind after := by
  induction before with
  | nil => rfl
  | cons event before ih =>
      simp only [isOver_cons, Bool.or_eq_false_iff] at h
      have hrest := ih h.2
      cases event with
      | record r =>
          cases hshape : shape kind r with
          | ok data => simp [frames, hshape, hrest]
          | error e => simp [isFinal_of_error hshape] at h
      | failed e => simp [isFinal] at h
      | ended => simp [isFinal] at h
      | pending => simpa [frames] using hrest

theorem frames_append_of_over {kind : Kind} {before : List Poll}
    (h : isOver kind before = true) (after : List Poll) :
    frames kind (before ++ after) = frames kind before := by
  induction before with
  | nil => simp at h
  | cons event before ih =>
      cases event with
      | record r =>
          cases hshape : shape kind r with
          | ok data =>
              have hrest : isOver kind before = true := by
                simpa [isFinal_of_ok hshape] using h
              simp [frames, hshape, ih hrest]
          | error e => simp [frames, hshape]
      | failed e => rfl
      | ended => rfl
      | pending =>
          have hrest : isOver kind before = true := by simpa [isFinal] using h
          simpa [frames] using ih hrest

theorem frames_prefix_append (kind : Kind) (before after : List Poll) :
    frames kind before <+: frames kind (before ++ after) := by
  cases h : isOver kind before with
  | false =>
      rw [frames_append_of_open h]
      exact List.prefix_append _ _
  | true =>
      exact frames_append_of_over h _ ▸ List.prefix_rfl

theorem endsResponse_of_open {kind : Kind} {events : List Poll}
    (h : isOver kind events = false) :
    ∀ f ∈ frames kind events, f.endsResponse = false := by
  induction events with
  | nil => simp [frames]
  | cons event events ih =>
      simp only [isOver_cons, Bool.or_eq_false_iff] at h
      have hrest := ih h.2
      cases event with
      | record r =>
          cases hshape : shape kind r with
          | ok data => simpa [frames, hshape, Frame.endsResponse, Frame.isError] using hrest
          | error e => simp [isFinal_of_error hshape] at h
      | failed e => simp [isFinal] at h
      | ended => simp [isFinal] at h
      | pending => simpa [frames] using hrest

theorem exists_frames_of_final {kind : Kind} {event : Poll} (h : isFinal kind event = true) :
    ∃ last, frames kind [event] = [last] ∧ last.endsResponse = true := by
  cases event with
  | record r =>
      cases hshape : shape kind r with
      | ok data => simp [isFinal_of_ok hshape] at h
      | error e => exact ⟨.ofError e.info, frames_of_shapeFault hshape, rfl⟩
  | failed e => exact ⟨e.frame, rfl, e.endsResponse_frame⟩
  | ended => exact ⟨_, rfl, by cases kind <;> rfl⟩
  | pending => simp [isFinal] at h

theorem exists_split_of_over {kind : Kind} {events : List Poll}
    (h : isOver kind events = true) :
    ∃ before event after, events = before ++ event :: after ∧
      isOver kind before = false ∧ isFinal kind event = true := by
  induction events with
  | nil => simp at h
  | cons event events ih =>
      cases hfinal : isFinal kind event with
      | true => exact ⟨[], event, events, rfl, rfl, hfinal⟩
      | false =>
          have hrest : isOver kind events = true := by simpa [hfinal] using h
          obtain ⟨before, last, after, rfl, hopen, hlast⟩ := ih hrest
          exact ⟨event :: before, last, after, rfl, by simp [hfinal, hopen], hlast⟩

theorem exists_last_of_over {kind : Kind} {events : List Poll}
    (h : isOver kind events = true) :
    ∃ data last, frames kind events = data ++ [last] ∧ last.endsResponse = true ∧
      ∀ f ∈ data, f.endsResponse = false := by
  obtain ⟨before, event, after, rfl, hopen, hfinal⟩ := exists_split_of_over h
  obtain ⟨last, hlast, hends⟩ := exists_frames_of_final hfinal
  refine ⟨frames kind before, last, ?_, hends, endsResponse_of_open hopen⟩
  have hover : isOver kind (before ++ [event]) = true := by simp [hfinal]
  rw [show before ++ event :: after = (before ++ [event]) ++ after by simp,
    frames_append_of_over hover, frames_append_of_open hopen, hlast]

end Response

end CypherBridge
