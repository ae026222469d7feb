import CypherBridge.Proofs.Bridge.Connection
import CypherBridge.Proofs.Message.Progress
import CypherBridge.Proofs.Message.Scripted

/-!
# Answers to the messages of a connection

The invariant of a connection before a database of scripts, one message number at a time: what
was handed over under a number is where its task, or the reply of the read loop, has come to.
No action for another number disturbs it.
-/

namespace CypherBridge

def notTextFrame : Frame :=
  ⟨"error", none, some ⟨"ParseError", "binary frame is not valid UTF-8"⟩⟩

namespace Connection

variable {database : ScriptedDatabase} {number : Nat} {m? : Option Incoming}
  {c next : Connection Replay}

/-- Where the task of a text has come to that has handed over these frames.  A task that is gone
was finished or dropped. -/
def Handles (database : ScriptedDatabase) (text : String) (handed : List Frame) :
    Option (Task Replay) → Prop
  | some t =>
      ∃ polls, t.Stands ((Gateway.ofDatabase database).prospect text) text polls handed
  | none => ∃ polls, handed <+: ((Gateway.ofDatabase database).prospect text).frames polls

def Answers (database : ScriptedDatabase) (number : Nat) (m : Incoming)
    (c : Connection Replay) : Prop :=
  ∃ handed, c.Carries number handed ∧
    match m.text? with
    | some text => c.reply? number = none ∧ Handles database text handed (c.task? number)
    | none => c.task? number = none ∧ handed ++ (c.reply? number).toList = [notTextFrame]

def IsSilent (number : Nat) (c : Connection Replay) : Prop :=
  c.Carries number [] ∧ c.task? number = none ∧ c.reply? number = none

/-- What holds under a number, whether or not there is a message of this number yet. -/
def Holds (database : ScriptedDatabase) (number : Nat) (c : Connection Replay) :
    Option Incoming → Prop
  | some m => c.Answers database number m
  | none => c.IsSilent number

namespace Holds

theorem of_same (h : c.Holds database number m?) (task : next.task? number = c.task? number)
    (reply : next.reply? number = c.reply? number)
    (carries : ∀ handed, c.Carries number handed → next.Carries number handed) :
    next.Holds database number m? := by
  cases m? with
  | none =>
      obtain ⟨hcarries, htask, hreply⟩ := h
      exact ⟨carries [] hcarries, task.trans htask, reply.trans hreply⟩
  | some m =>
      obtain ⟨handed, hcarries, hrest⟩ := h
      refine ⟨handed, carries handed hcarries, ?_⟩
      rw [task, reply]
      exact hrest

theorem exists_of_task {t : Task Replay} (h : c.Holds database number m?)
    (task : c.task? number = some t) :
    ∃ m text handed polls, m? = some m ∧ m.text? = some text ∧ c.Carries number handed ∧
      c.reply? number = none ∧
      t.Stands ((Gateway.ofDatabase database).prospect text) text polls handed := by
  cases m? with
  | none =>
      obtain ⟨-, htask, -⟩ := h
      simp [task] at htask
  | some m =>
      obtain ⟨handed, hcarries, hrest⟩ := h
      cases htext : m.text? with
      | none =>
          simp only [htext, task] at hrest
          simp at hrest
      | some text =>
          simp only [htext, task] at hrest
          obtain ⟨hreply, polls, hstands⟩ := hrest
          exact ⟨m, text, handed, polls, rfl, htext, hcarries, hreply, hstands⟩

theorem of_text {m : Incoming} {text : String} {handed : List Frame}
    (htext : m.text? = some text) (carries : c.Carries number handed)
    (reply : c.reply? number = none)
    (handles : Handles database text handed (c.task? number)) :
    c.Holds database number (some m) := by
  refine ⟨handed, carries, ?_⟩
  simp only [htext]
  exact ⟨reply, handles⟩

theorem of_reply {m : Incoming} {handed : List Frame} (htext : m.text? = none)
    (carries : c.Carries number handed) (task : c.task? number = none)
    (reply : handed ++ (c.reply? number).toList = [notTextFrame]) :
    c.Holds database number (some m) := by
  refine ⟨handed, carries, ?_⟩
  simp only [htext]
  exact ⟨task, reply⟩

/-! ## Actions -/

theorem stepTask {g : Gateway ScriptedDatabase} (h : c.Holds database number m?)
    (alike : g.database.Alike database) (stepped : Nat) :
    (c.stepTask stepped g).1.Holds database number m? := by
  unfold Connection.stepTask
  cases htask : c.task? stepped with
  | none => exact h
  | some t =>
      let after : Connection Replay := { c.setTask stepped (t.step stepped g c.channel).task with
        channel := (t.step stepped g c.channel).channel }
      have hput (handed : List Frame) (carries : c.Carries number handed) :
          after.Carries number
            (handed ++ framesOf number ((t.handed c.channel).map fun f => ⟨stepped, f⟩)) :=
        carries.put _ rfl (t.step_channel stepped g c.channel)
      by_cases hnumber : stepped = number
      · subst hnumber
        obtain ⟨m, text, handed, polls, rfl, htext, hcarries, hreply, hstands⟩ :=
          h.exists_of_task htask
        have hafter : after.task? stepped = some (t.step stepped g c.channel).task :=
          task?_setTask htask _
        have hsent := hput handed hcarries
        rw [framesOf_tagged] at hsent
        refine of_text htext hsent hreply ?_
        rw [hafter]
        refine ⟨polls + t.polls, hstands.step stepped c.channel ?_ ?_⟩
        · exact fun _ => alike.prospect_eq text
        · exact fun kind course granted _ =>
            ScriptedDatabase.poll_course granted g.database polls
      · refine h.of_same (task?_setTask_of_ne hnumber _) rfl fun handed carries => ?_
        have hsent := hput handed carries
        rwa [framesOf_tagged_of_ne hnumber, List.append_nil] at hsent

theorem removeTask {t : Task Replay} {removed : Nat} (h : c.Holds database number m?)
    (task : c.task? removed = some t) : (c.removeTask removed).Holds database number m? := by
  by_cases hnumber : removed = number
  · subst hnumber
    obtain ⟨m, text, handed, polls, rfl, htext, hcarries, hreply, hstands⟩ :=
      h.exists_of_task task
    refine of_text htext (hcarries.of_same rfl rfl) hreply ?_
    rw [task?_removeTask]
    exact ⟨polls, hstands.sent_prefix⟩
  · exact h.of_same (task?_removeTask_of_ne hnumber) rfl fun _ carries => carries.of_same rfl rfl

theorem sendReply_of_ne {out : Outgoing} (h : c.Holds database number m?)
    (other : out.message ≠ number) (reply : c.reply? number = none) :
    (c.sendReply out).Holds database number m? :=
  h.of_same (task?_sendReply c out number) ((reply?_sendReply_of_ne other).trans reply.symm)
    fun _ carries => carries.sendReply_of_ne other

theorem reply (h : c.Holds database number m?) : c.reply.Holds database number m? := by
  unfold Connection.reply
  cases hloop : c.readLoop with
  | replying out =>
      by_cases hnumber : out.message = number
      · subst hnumber
        have hreply : c.reply? out.message = some out.frame := by simp [reply?, hloop]
        cases m? with
        | none =>
            obtain ⟨-, -, hsilent⟩ := h
            simp [hreply] at hsilent
        | some m =>
            obtain ⟨handed, hcarries, hrest⟩ := h
            cases htext : m.text? with
            | some text =>
                simp only [htext, hreply] at hrest
                simp at hrest
            | none =>
                simp only [htext, hreply] at hrest
                obtain ⟨htask, hframes⟩ := hrest
                obtain ⟨sent, hsent, hboth⟩ := hcarries.sendReply
                refine of_reply htext hsent ?_ (hboth.trans hframes)
                rw [task?_sendReply, htask]
      · refine h.sendReply_of_ne hnumber ?_
        simp [reply?, hloop, hnumber]
  | reading | leaving | ended => exact h

theorem start {m : Incoming} {text : String} (h : c.Holds database c.nextMessage none)
    (htext : m.text? = some text) :
    (c.startTask text).Holds database c.nextMessage (some m) := by
  obtain ⟨hcarries, htask, hreply⟩ := h
  refine of_text htext (hcarries.of_same rfl rfl) hreply ?_
  rw [task?_startTask text htask]
  exact ⟨0, rfl, rfl, rfl⟩

theorem refuse {m : Incoming} (h : c.Holds database number none) (htext : m.text? = none) :
    (c.sendReply (notTextReply number)).Holds database number (some m) := by
  obtain ⟨hcarries, htask, -⟩ := h
  have hnumber : c.Carries (notTextReply number).message [] := hcarries
  obtain ⟨sent, hsent, hboth⟩ := hnumber.sendReply
  refine of_reply htext hsent ?_ hboth
  rw [task?_sendReply]
  exact htask

end Holds

namespace Holds

variable {m : Incoming} {text : String}

theorem exists_frames (h : c.Holds database number (some m)) (htext : m.text? = some text) :
    ∃ polls, framesOf number c.sent <+:
      ((Gateway.ofDatabase database).prospect text).frames polls := by
  obtain ⟨handed, hcarries, hrest⟩ := h
  simp only [htext] at hrest
  cases htask : c.task? number with
  | some t =>
      rw [htask] at hrest
      obtain ⟨-, polls, hstands⟩ := hrest
      exact ⟨polls, hcarries.sent.trans hstands.sent_prefix⟩
  | none =>
      rw [htask] at hrest
      obtain ⟨-, polls, hframes⟩ := hrest
      exact ⟨polls, hcarries.sent.trans hframes⟩

theorem eq_of_task {t : Task Replay} (h : c.Holds database number (some m))
    (htext : m.text? = some text) (task : c.task? number = some t) (begun : t.hasBegun = true)
    (alive : c.channel.receiverGone = false) :
    ∃ polls, framesOf number c.sent ++ t.inHand =
      ((Gateway.ofDatabase database).prospect text).frames polls := by
  obtain ⟨handed, hcarries, hrest⟩ := h
  simp only [htext, task] at hrest
  obtain ⟨-, polls, hstands⟩ := hrest
  refine ⟨polls, ?_⟩
  rw [hcarries.whole alive]
  exact (hstands.frames_eq begun).symm

theorem eq_of_finished (h : c.Holds database number (some m)) (htext : m.text? = some text)
    (task : c.task? number = some .finished) (alive : c.channel.receiverGone = false) :
    ∃ polls, ((Gateway.ofDatabase database).prospect text).isOver polls = true ∧
      framesOf number c.sent =
        ((Gateway.ofDatabase database).prospect text).frames polls := by
  obtain ⟨handed, hcarries, hrest⟩ := h
  simp only [htext, task] at hrest
  obtain ⟨-, polls, hover, hframes⟩ := hrest
  exact ⟨polls, hover, (hcarries.whole alive).trans hframes.symm⟩

theorem prefix_notText (h : c.Holds database number (some m)) (htext : m.text? = none) :
    framesOf number c.sent <+: [notTextFrame] := by
  obtain ⟨handed, hcarries, hrest⟩ := h
  simp only [htext] at hrest
  exact hcarries.sent.trans ⟨_, hrest.2⟩

theorem eq_notText (h : c.Holds database number (some m)) (htext : m.text? = none)
    (alive : c.channel.receiverGone = false) (replied : c.reply? number = none) :
    framesOf number c.sent = [notTextFrame] := by
  obtain ⟨handed, hcarries, hrest⟩ := h
  simp only [htext, replied, Option.toList_none, List.append_nil] at hrest
  rw [hcarries.whole alive]
  exact hrest.2

end Holds

/-! ## A connection -/

theorem Move.alike {a : Action} {g g' : Gateway ScriptedDatabase} {log : List Event}
    (h : c.Move g a next g' log) :
    g'.database.Alike g.database := by
  cases h with
  | step => exact ScriptedDatabase.step_alike ..
  | cancel => exact ScriptedDatabase.drop_alike ..
  | stay | start | refuse | reply | leave | join | conclude | write | loseWriter =>
      exact .refl _

structure Sound (database : ScriptedDatabase) (messages : List Incoming)
    (c : Connection Replay) : Prop where
  counted : c.nextMessage = messages.length
  holds : ∀ number, c.Holds database number messages[number]?

theorem Sound.accept (peer : String) (cancelOnDisconnect : Bool) :
    (Connection.accept peer cancelOnDisconnect).Sound database [] where
  counted := rfl
  holds number := by
    refine ⟨⟨List.nil_prefix, fun _ => rfl⟩, rfl, rfl⟩

namespace Sound

variable {messages : List Incoming} {m : Incoming} {text : String}

theorem holds_next (h : c.Sound database messages) : c.Holds database c.nextMessage none := by
  have hnone := h.holds c.nextMessage
  rwa [h.counted, List.getElem?_eq_none (Nat.le_refl _), ← h.counted] at hnone

/-- One more message is answered under its number, and those before it as they were. -/
theorem of_message (h : c.Sound database messages)
    (counted : next.nextMessage = c.nextMessage + 1)
    (answers : next.Holds database c.nextMessage (some m))
    (others : ∀ number, c.nextMessage ≠ number → ∀ m?, c.Holds database number m? →
      next.Holds database number m?) : next.Sound database (messages ++ [m]) where
  counted := by rw [counted, h.counted, List.length_append, List.length_singleton]
  holds number := by
    by_cases hnumber : c.nextMessage = number
    · subst hnumber
      rw [h.counted, List.getElem?_concat_length, ← h.counted]
      exact answers
    · rw [getElem?_concat_of_ne (Ne.symm (h.counted ▸ hnumber))]
      exact others number hnumber _ (h.holds number)

theorem start (h : c.Sound database messages) (htext : m.text? = some text) :
    (c.startTask text).Sound database (messages ++ [m]) := by
  refine h.of_message rfl (h.holds_next.start htext) fun number hnumber m? hholds => ?_
  exact hholds.of_same (task?_startTask_of_ne text hnumber) rfl
    fun _ carries => carries.of_same rfl rfl

theorem refuse (h : c.Sound database messages) (reading : c.isReading = true)
    (htext : m.text? = none) :
    ({ c with nextMessage := c.nextMessage + 1 }.sendReply
      (notTextReply c.nextMessage)).Sound database (messages ++ [m]) := by
  have hcount {number : Nat} {m? : Option Incoming} (hholds : c.Holds database number m?) :
      ({ c with nextMessage := c.nextMessage + 1 } : Connection Replay).Holds database number m? :=
    hholds.of_same rfl rfl fun _ carries => carries.of_same rfl rfl
  refine h.of_message (nextMessage_sendReply ..) ((hcount h.holds_next).refuse htext)
    fun number hnumber m? hholds => ?_
  exact (hcount hholds).sendReply_of_ne hnumber (reply?_of_reading reading number)

theorem of_quiet (h : c.Sound database messages) (counted : next.nextMessage = c.nextMessage)
    (holds : ∀ number m?, c.Holds database number m? → next.Holds database number m?) :
    next.Sound database (messages ++ []) := by
  rw [List.append_nil]
  exact ⟨counted.trans h.counted, fun number => holds number _ (h.holds number)⟩

theorem move {a : Action} {g g' : Gateway ScriptedDatabase} {log : List Event}
    (sound : c.Sound database messages) (h : c.Move g a next g' log)
    (alike : g.database.Alike database) : next.Sound database (messages ++ c.hears a) := by
  have hcount := h.nextMessage_eq
  cases h with
  | stay deaf =>
      rw [deaf]
      exact sound.of_quiet rfl fun _ _ hholds => hholds
  | start reading htext =>
      simp only [hears, reading, if_true]
      exact sound.start htext
  | refuse reading htext =>
      simp only [hears, reading, if_true]
      exact sound.refuse reading htext
  | reply replying =>
      refine sound.of_quiet hcount fun number m? hholds => ?_
      have hreply := hholds.reply
      simpa only [Connection.reply, replying] using hreply
  | leave reading =>
      refine sound.of_quiet rfl fun number m? hholds => ?_
      exact hholds.of_same rfl (reply?_of_reading reading number).symm
        fun _ carries => carries.of_same rfl rfl
  | @step stepped t task =>
      refine sound.of_quiet rfl fun number m? hholds => ?_
      have hstep := hholds.stepTask alike stepped
      simpa only [stepTask, task] using hstep
  | join reading task =>
      exact sound.of_quiet rfl fun number m? hholds => hholds.removeTask task
  | cancel leaving cancels task =>
      exact sound.of_quiet rfl fun number m? hholds => hholds.removeTask task
  | conclude leaving done =>
      refine sound.of_quiet rfl fun number m? hholds => ?_
      have hreply : c.reply? number = none := by simp [reply?, leaving]
      exact hholds.of_same rfl hreply.symm fun _ carries => carries.of_same rfl rfl
  | write =>
      refine sound.of_quiet hcount fun number m? hholds => ?_
      exact hholds.of_same (task?_write c number) (reply?_write c number)
        fun _ carries => carries.write
  | loseWriter =>
      refine sound.of_quiet rfl fun number m? hholds => ?_
      exact hholds.of_same rfl rfl fun _ carries => carries.loseWriter

theorem message_lt (h : c.Sound database messages) {out : Outgoing} (hout : out ∈ c.sent) :
    out.message < messages.length := by
  cases Nat.lt_or_ge out.message messages.length with
  | inl hlt => exact hlt
  | inr hge =>
      have hholds := h.holds out.message
      rw [List.getElem?_eq_none hge] at hholds
      have hnone := List.prefix_nil.1 hholds.1.sent
      have hmem : out.frame ∈ framesOf out.message c.sent :=
        List.mem_map_of_mem (List.mem_filter.2 ⟨hout, by simp⟩)
      simp [hnone] at hmem

end Sound

end Connection

end CypherBridge
