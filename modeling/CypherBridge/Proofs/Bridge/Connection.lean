import CypherBridge.Bridge.Connection
import CypherBridge.Proofs.Message.Step

/-!
# What a connection does for one message

For every message number a connection has at most one task or one reply of its read loop, and
the frames that it has sent under this number.  Each action is described by what it changes for
its own number; for all others it changes nothing.
-/

namespace CypherBridge

def Incoming.text? : Incoming → Option String
  | .text s => some s
  | .binary payload => Text.ofBytes? payload

def framesOf (number : Nat) (sent : List Outgoing) : List Frame :=
  (sent.filter fun out => out.message == number).map Outgoing.frame

@[simp] theorem framesOf_append (number : Nat) (first second : List Outgoing) :
    framesOf number (first ++ second) = framesOf number first ++ framesOf number second := by
  simp [framesOf]

theorem framesOf_mono (number : Nat) {first second : List Outgoing} (h : first <+: second) :
    framesOf number first <+: framesOf number second :=
  (h.filter _).map _

theorem framesOf_tagged (number : Nat) (frames : List Frame) :
    framesOf number (frames.map fun f => ⟨number, f⟩) = frames := by
  induction frames with
  | nil => rfl
  | cons f frames ih => simpa [framesOf] using ih

theorem framesOf_tagged_of_ne {number other : Nat} (h : other ≠ number) (frames : List Frame) :
    framesOf number (frames.map fun f => ⟨other, f⟩) = [] := by
  simp [framesOf, h]

namespace Connection

variable {σ : Type} {c : Connection σ} {number other : Nat}

/-- Everything that went into the channel and was not lost. -/
def sent (c : Connection σ) : List Outgoing := c.written ++ c.channel.queue

/-- The frame that the read loop waits to send under this number. -/
def reply? (c : Connection σ) (number : Nat) : Option Frame :=
  match c.readLoop with
  | .replying out => if out.message = number then some out.frame else none
  | _ => none

theorem reply?_of_reading (reading : c.isReading = true) (number : Nat) :
    c.reply? number = none := by
  have hloop : c.readLoop = .reading := by simpa [isReading] using reading
  simp [reply?, hloop]

theorem task?_startTask_of_ne (text : String) (h : c.nextMessage ≠ number) :
    (c.startTask text).task? number = c.task? number := by
  simp [task?, startTask, List.find?_append, h]

theorem task?_startTask (text : String) (h : c.task? c.nextMessage = none) :
    (c.startTask text).task? c.nextMessage = some (.received text) := by
  simp only [task?, Option.map_eq_none_iff] at h
  simp [task?, startTask, List.find?_append, h]

theorem task?_setTask {t : Task σ} (h : c.task? number = some t) (task : Task σ) :
    (c.setTask number task).task? number = some task := by
  simp only [task?, Option.map_eq_some_iff] at h
  obtain ⟨entry, hfound, -⟩ := h
  have hnumber : entry.number = number := by simpa using List.find?_some hfound
  have hpick : (fun t : InFlight σ => t.number == number) ∘
      (fun t => if t.number = number then { t with task } else t) =
        fun t => t.number == number := by
    funext t
    by_cases ht : t.number = number <;> simp [ht]
  simp only [task?, setTask, List.find?_map, hpick, hfound, Option.map_some, hnumber, if_true]

theorem task?_setTask_of_ne (h : number ≠ other) (task : Task σ) :
    (c.setTask number task).task? other = c.task? other := by
  have hpick : (fun t : InFlight σ => t.number == other) ∘
      (fun t => if t.number = number then { t with task } else t) =
        fun t => t.number == other := by
    funext t
    by_cases ht : t.number = number <;> simp [ht]
  simp only [task?, setTask, List.find?_map, hpick]
  cases hfound : c.tasks.find? fun t => t.number == other with
  | none => rfl
  | some entry =>
      have hnumber : entry.number = other := by simpa using List.find?_some hfound
      simp [hnumber, h.symm]

theorem task?_removeTask (c : Connection σ) (number : Nat) :
    (c.removeTask number).task? number = none := by
  simp [task?, removeTask]

theorem task?_removeTask_of_ne (h : number ≠ other) :
    (c.removeTask number).task? other = c.task? other := by
  have hpick : (fun t : InFlight σ =>
      decide ((t.number != number) = true ∧ (t.number == other) = true)) =
        fun t => t.number == other := by
    funext t
    by_cases ht : t.number = other <;> simp [ht, h.symm]
  simp only [task?, removeTask, List.find?_filter, hpick]

/-! ## What goes into the channel -/

theorem sent_put {next : Connection σ} {items : List Outgoing}
    (alive : c.channel.receiverGone = false) (written : next.written = c.written)
    (channel : next.channel = c.channel.put items) : next.sent = c.sent ++ items := by
  rw [sent, written, channel, Channel.put_queue_of_alive alive, sent, List.append_assoc]

def Extends (c next : Connection σ) : Prop :=
  next.channel.receiverGone = false → c.channel.receiverGone = false ∧ c.sent <+: next.sent

namespace Extends

variable {next : Connection σ}

theorem refl (c : Connection σ) : c.Extends c := fun alive => ⟨alive, List.prefix_rfl⟩

theorem trans {last : Connection σ} (h : c.Extends next) (h' : next.Extends last) :
    c.Extends last := by
  intro alive
  obtain ⟨hnext, hlast⟩ := h' alive
  obtain ⟨hfirst, hmore⟩ := h hnext
  exact ⟨hfirst, hmore.trans hlast⟩

theorem of_put (items : List Outgoing) (written : next.written = c.written)
    (channel : next.channel = c.channel.put items) : c.Extends next := by
  intro alive
  rw [channel, Channel.put_receiverGone] at alive
  rw [sent_put alive written channel]
  exact ⟨alive, List.prefix_append _ _⟩

theorem of_same (written : next.written = c.written) (channel : next.channel = c.channel) :
    c.Extends next :=
  of_put [] written (by rw [channel, Channel.put_nil])

end Extends

theorem task?_write (c : Connection σ) (number : Nat) :
    c.write.task? number = c.task? number := by
  unfold write
  split <;> rfl

theorem reply?_write (c : Connection σ) (number : Nat) :
    c.write.reply? number = c.reply? number := by
  unfold write
  split <;> rfl

theorem sent_write (c : Connection σ) : c.write.sent = c.sent := by
  cases hqueue : c.channel.queue with
  | nil => simp [write, Channel.take?, hqueue]
  | cons out rest => simp [write, Channel.take?, sent, hqueue]

theorem receiverGone_write (c : Connection σ) :
    c.write.channel.receiverGone = c.channel.receiverGone := by
  cases hqueue : c.channel.queue with
  | nil => simp [write, Channel.take?, hqueue]
  | cons out rest => simp [write, Channel.take?, hqueue]

/-- What was handed over under a number has been sent, unless the writer has gone. -/
structure Carries (number : Nat) (handed : List Frame) (c : Connection σ) : Prop where
  sent : framesOf number c.sent <+: handed
  whole : c.channel.receiverGone = false → framesOf number c.sent = handed

namespace Carries

variable {handed : List Frame}

theorem put {next : Connection σ} (h : c.Carries number handed) (items : List Outgoing)
    (written : next.written = c.written) (channel : next.channel = c.channel.put items) :
    next.Carries number (handed ++ framesOf number items) := by
  cases hgone : c.channel.receiverGone with
  | true =>
      rw [Channel.put_of_gone hgone] at channel
      have hsent : next.sent = c.sent := by rw [Connection.sent, written, channel, Connection.sent]
      refine ⟨?_, fun alive => ?_⟩
      · rw [hsent]
        exact h.sent.trans (List.prefix_append _ _)
      · rw [channel, hgone] at alive
        exact absurd alive (by simp)
  | false =>
      have hframes : framesOf number next.sent = handed ++ framesOf number items := by
        rw [sent_put hgone written channel, framesOf_append, h.whole hgone]
      refine ⟨?_, fun _ => hframes⟩
      exact hframes ▸ List.prefix_rfl

theorem of_same {next : Connection σ} (h : c.Carries number handed)
    (written : next.written = c.written) (channel : next.channel = c.channel) :
    next.Carries number handed := by
  have hput := h.put [] written (by rw [channel, Channel.put_nil])
  simpa [framesOf] using hput

theorem write (h : c.Carries number handed) : c.write.Carries number handed := by
  refine ⟨?_, fun alive => ?_⟩
  · rw [sent_write]
    exact h.sent
  · rw [receiverGone_write] at alive
    rw [sent_write]
    exact h.whole alive

theorem loseWriter (h : c.Carries number handed) : c.loseWriter.Carries number handed where
  sent := by
    refine (framesOf_mono number ?_).trans h.sent
    simp [Connection.sent, Connection.loseWriter, Channel.dropReceiver]
  whole alive := by simp [Connection.loseWriter, Channel.dropReceiver] at alive

end Carries

/-! ## Replies of the read loop -/

theorem sendReply_of_full (h : c.channel.isFull = true) (out : Outgoing) :
    c.sendReply out = { c with readLoop := .replying out } := by
  simp [sendReply, Channel.offer_of_full h]

theorem sendReply_of_room (h : c.channel.isFull = false) (out : Outgoing) :
    c.sendReply out = { c with channel := c.channel.put [out], readLoop := .reading } := by
  cases hgone : c.channel.receiverGone with
  | true =>
      simp [sendReply, Channel.offer_of_room h, hgone, Channel.put_of_gone hgone]
  | false => simp [sendReply, Channel.offer_of_room h, hgone]

theorem task?_sendReply (c : Connection σ) (out : Outgoing) (number : Nat) :
    (c.sendReply out).task? number = c.task? number := by
  unfold sendReply
  split <;> rfl

theorem nextMessage_sendReply (c : Connection σ) (out : Outgoing) :
    (c.sendReply out).nextMessage = c.nextMessage := by
  unfold sendReply
  split <;> rfl

theorem cancels_sendReply (c : Connection σ) (out : Outgoing) :
    (c.sendReply out).cancelOnDisconnect = c.cancelOnDisconnect := by
  unfold sendReply
  split <;> rfl

theorem extends_sendReply (c : Connection σ) (out : Outgoing) :
    c.Extends (c.sendReply out) := by
  cases hfull : c.channel.isFull with
  | true =>
      rw [sendReply_of_full hfull]
      exact .of_same rfl rfl
  | false =>
      rw [sendReply_of_room hfull]
      exact .of_put [out] rfl rfl

theorem reply?_sendReply_of_ne {out : Outgoing} (h : out.message ≠ number) :
    (c.sendReply out).reply? number = none := by
  cases hfull : c.channel.isFull with
  | true => simp [sendReply_of_full hfull, reply?, h]
  | false => simp [sendReply_of_room hfull, reply?]

namespace Carries

variable {handed : List Frame} {out : Outgoing}

theorem sendReply_of_ne (h : c.Carries number handed) (other : out.message ≠ number) :
    (c.sendReply out).Carries number handed := by
  cases hfull : c.channel.isFull with
  | true =>
      rw [sendReply_of_full hfull]
      exact h.of_same rfl rfl
  | false =>
      rw [sendReply_of_room hfull]
      have hput : Carries number (handed ++ framesOf number [out])
          { c with channel := c.channel.put [out], readLoop := .reading } :=
        h.put [out] rfl rfl
      simpa [framesOf, other] using hput

theorem sendReply (h : c.Carries out.message handed) :
    ∃ sent, (c.sendReply out).Carries out.message sent ∧
      sent ++ ((c.sendReply out).reply? out.message).toList = handed ++ [out.frame] := by
  cases hfull : c.channel.isFull with
  | true =>
      rw [sendReply_of_full hfull]
      refine ⟨handed, h.of_same rfl rfl, ?_⟩
      simp [reply?]
  | false =>
      rw [sendReply_of_room hfull]
      refine ⟨handed ++ framesOf out.message [out], h.put [out] rfl rfl, ?_⟩
      simp [reply?, framesOf]

end Carries

theorem receive_of_text {m : Incoming} {text : String} (reading : c.isReading = true)
    (h : m.text? = some text) : c.receive m = c.startTask text := by
  cases m with
  | text s =>
      simp only [Incoming.text?, Option.some.injEq] at h
      simp [receive, reading, h]
  | binary payload =>
      simp only [Incoming.text?] at h
      simp [receive, reading, h]

theorem receive_of_not_text {m : Incoming} (reading : c.isReading = true)
    (h : m.text? = none) :
    c.receive m =
      { c with nextMessage := c.nextMessage + 1 }.sendReply (notTextReply c.nextMessage) := by
  cases m with
  | text s => simp [Incoming.text?] at h
  | binary payload =>
      simp only [Incoming.text?] at h
      simp [receive, reading, h]

theorem getElem?_concat_of_ne {messages : List Incoming} {m : Incoming}
    (h : number ≠ messages.length) : (messages ++ [m])[number]? = messages[number]? := by
  rcases Nat.lt_or_gt_of_ne h with hlt | hgt
  · exact List.getElem?_append_left hlt
  · rw [List.getElem?_eq_none, List.getElem?_eq_none (Nat.le_of_lt hgt)]
    rw [List.length_append, List.length_singleton]
    exact hgt

/-- The messages that the connection takes in with an action. -/
def hears (c : Connection σ) : Action → List Incoming
  | .receive m => if c.isReading then [m] else []
  | _ => []

/-! ## Moves -/

variable {β : Type} [Database β σ]

/-- What an action can do to a connection and to the gateway, and what it puts into the log. -/
inductive Move (c : Connection σ) (g : Gateway β) :
    Action → Connection σ → Gateway β → List Event → Prop
  | stay {a : Action} (deaf : c.hears a = []) : Move c g a c g []
  | start {m : Incoming} {text : String} (reading : c.isReading = true)
      (text? : m.text? = some text) : Move c g (.receive m) (c.startTask text) g []
  | refuse {m : Incoming} (reading : c.isReading = true) (text? : m.text? = none) :
      Move c g (.receive m)
        ({ c with nextMessage := c.nextMessage + 1 }.sendReply (notTextReply c.nextMessage)) g []
  | reply {out : Outgoing} (replying : c.readLoop = .replying out) :
      Move c g .reply (c.sendReply out) g []
  | leave {departure : Departure} (reading : c.isReading = true) :
      Move c g (.leave departure) { c with readLoop := .leaving departure c.tasks.length } g []
  | step {number : Nat} {t : Task σ} (task : c.task? number = some t) :
      Move c g (.step number)
        { c.setTask number (t.step number g c.channel).task with
          channel := (t.step number g c.channel).channel }
        (t.step number g c.channel).gateway (t.step number g c.channel).log
  | join {number : Nat} (reading : c.isReading = true) (task : c.task? number = some .finished) :
      Move c g (.join number) (c.removeTask number) g []
  | cancel {number : Nat} {t : Task σ} (leaving : c.isLeaving = true)
      (cancels : c.cancelOnDisconnect = true) (task : c.task? number = some t) :
      Move c g (.cancel number) (c.removeTask number) (t.drop g).1 (t.drop g).2
  | conclude {departure : Departure} {inFlight : Nat}
      (leaving : c.readLoop = .leaving departure inFlight)
      (done : c.cancelOnDisconnect = true → c.tasks.isEmpty = true) :
      Move c g .conclude { c with readLoop := .ended departure } g c.conclude.2
  | write : Move c g .write c.write g []
  | loseWriter : Move c g .loseWriter c.loseWriter g []

omit [Database β σ] in
theorem cancel_cases (c : Connection σ) (number : Nat) (g : Gateway β) :
    c.cancel number g = (c, g, []) ∨ ∃ t, c.isLeaving = true ∧ c.cancelOnDisconnect = true ∧
      c.task? number = some t ∧
      c.cancel number g = (c.removeTask number, (t.drop g).1, (t.drop g).2) := by
  cases hleaving : c.isLeaving with
  | false => exact .inl (by simp [cancel, hleaving])
  | true =>
      cases hcancels : c.cancelOnDisconnect with
      | false => exact .inl (by simp [cancel, hcancels])
      | true =>
          cases htask : c.task? number with
          | none => exact .inl (by simp [cancel, htask])
          | some t => exact .inr ⟨t, rfl, rfl, rfl, by simp [cancel, hleaving, hcancels, htask]⟩

theorem act_move (c : Connection σ) (a : Action) (g : Gateway β) :
    c.Move g a (c.act a g).1 (c.act a g).2.1 (c.act a g).2.2 := by
  cases a with
  | receive m =>
      simp only [act]
      cases hreading : c.isReading with
      | false =>
          rw [show c.receive m = c by simp [receive, hreading]]
          exact .stay (by simp [hears, hreading])
      | true =>
          cases htext : m.text? with
          | some text =>
              rw [receive_of_text hreading htext]
              exact .start hreading htext
          | none =>
              rw [receive_of_not_text hreading htext]
              exact .refuse hreading htext
  | reply =>
      simp only [act, reply]
      cases hloop : c.readLoop with
      | replying out => exact .reply hloop
      | reading | leaving | ended => exact .stay rfl
  | leave departure =>
      simp only [act, leave]
      cases hreading : c.isReading with
      | true => exact .leave hreading
      | false => exact .stay rfl
  | step number =>
      simp only [act, stepTask]
      cases htask : c.task? number with
      | some t => exact .step htask
      | none => exact .stay rfl
  | join number =>
      simp only [act, join]
      cases htask : c.task? number with
      | none => exact .stay rfl
      | some t =>
          cases t with
          | finished =>
              cases hreading : c.isReading with
              | true => exact .join hreading htask
              | false => exact .stay rfl
          | received | reading | sending => exact .stay rfl
  | cancel number =>
      simp only [act, cancel]
      cases hleaving : c.isLeaving with
      | false => exact .stay rfl
      | true =>
          cases hcancels : c.cancelOnDisconnect with
          | false => exact .stay rfl
          | true =>
              cases htask : c.task? number with
              | none => exact .stay rfl
              | some t => exact .cancel hleaving hcancels htask
  | conclude =>
      simp only [act]
      cases hloop : c.readLoop with
      | leaving departure inFlight =>
          by_cases hwaits : c.cancelOnDisconnect = true ∧ c.tasks.isEmpty = false
          · rw [show c.conclude = (c, []) by simp [conclude, hloop, hwaits]]
            exact .stay rfl
          · have hdone : c.cancelOnDisconnect = true → c.tasks.isEmpty = true := by
              simpa using hwaits
            rw [show c.conclude.1 = { c with readLoop := .ended departure } by
              cases hcancels : c.cancelOnDisconnect with
              | true => simp [conclude, hloop, hcancels, hdone hcancels]
              | false => simp [conclude, hloop, hcancels]]
            exact .conclude hloop hdone
      | reading | replying | ended =>
          rw [show c.conclude = (c, []) by simp [conclude, hloop]]
          exact .stay rfl
  | write => exact .write
  | loseWriter => exact .loseWriter

namespace Move

variable {g g' : Gateway β} {a : Action} {next : Connection σ} {log : List Event}

theorem nextMessage_eq (h : c.Move g a next g' log) :
    next.nextMessage = c.nextMessage + (c.hears a).length := by
  cases h with
  | stay deaf => simp [deaf]
  | start reading _ => simp [hears, reading, startTask]
  | refuse reading _ => simp [hears, reading, nextMessage_sendReply]
  | reply _ => simp [hears, nextMessage_sendReply]
  | write =>
      simp only [Connection.write, hears]
      split <;> rfl
  | leave | step | join | cancel | conclude | loseWriter => rfl

theorem extend (h : c.Move g a next g' log) : c.Extends next := by
  cases h with
  | stay | start | leave | join | cancel | conclude => exact .of_same rfl rfl
  | refuse => exact extends_sendReply { c with nextMessage := c.nextMessage + 1 } _
  | reply => exact extends_sendReply c _
  | step => exact .of_put _ rfl (Task.step_channel ..)
  | write =>
      intro alive
      rw [receiverGone_write] at alive
      rw [sent_write]
      exact ⟨alive, List.prefix_rfl⟩
  | loseWriter =>
      intro alive
      simp [Connection.loseWriter, Channel.dropReceiver] at alive

end Move

/-- Whether the read loop goes on, if only once it has sent its reply. -/
def isListening (c : Connection σ) : Bool :=
  match c.readLoop with
  | .reading | .replying _ => true
  | .leaving .. | .ended _ => false

theorem isListening_of_reading (reading : c.isReading = true) : c.isListening = true := by
  have hloop : c.readLoop = .reading := by simpa [isReading] using reading
  simp [isListening, hloop]

theorem isListening_of_leaving (leaving : c.isLeaving = true) : c.isListening = false := by
  cases hloop : c.readLoop <;> simp_all [isLeaving, isListening]

theorem isListening_sendReply (c : Connection σ) (out : Outgoing) :
    (c.sendReply out).isListening = true := by
  cases hfull : c.channel.isFull with
  | true => simp [sendReply_of_full hfull, isListening]
  | false => simp [sendReply_of_room hfull, isListening]

theorem Move.isListening {g g' : Gateway β} {a : Action} {next : Connection σ}
    {log : List Event} (h : c.Move g a next g' log) (listening : c.isListening = true)
    (stays : ∀ departure, a ≠ .leave departure) : next.isListening = true := by
  cases h with
  | stay | start | step | join | cancel | loseWriter => exact listening
  | refuse | reply => exact isListening_sendReply ..
  | leave => exact absurd rfl (stays _)
  | conclude leaving _ => simp [Connection.isListening, leaving] at listening
  | write =>
      simp only [Connection.write]
      split <;> exact listening

end Connection

end CypherBridge
