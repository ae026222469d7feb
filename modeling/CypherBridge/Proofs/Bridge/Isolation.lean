import CypherBridge.Proofs.Bridge.Answers
import CypherBridge.Proofs.Bridge.Runs
import CypherBridge.Proofs.Message.Reception

/-!
# Messages do not disturb one another

Whatever the other messages and connections do, the frames that a connection writes for one of
its messages are those that the message leads to when it is handled alone.
-/

namespace CypherBridge

/-- What is received, within so many steps, of a message that is handled alone. -/
def Incoming.alone (database : ScriptedDatabase) (m : Incoming) (steps : Nat) : List Frame :=
  match m.text? with
  | some s =>
      ((Delivery.start s (.ofDatabase database) Connection.channelCapacity .all).run
        steps).receiver.taken
  | none => [notTextFrame]

theorem Incoming.exists_alone {database : ScriptedDatabase} {m : Incoming} {text : String}
    (h : m.text? = some text) (polls : Nat) :
    ∃ steps, ((Gateway.ofDatabase database).prospect text).frames polls <+:
      m.alone database steps := by
  unfold alone
  rw [h]
  exact Delivery.exists_run_takes (by decide : 0 < Connection.channelCapacity)
    (by simp : Appetite.all ≠ .none) polls

theorem Incoming.exists_alone_of_over {database : ScriptedDatabase} {m : Incoming}
    {text : String} (h : m.text? = some text) {polls : Nat}
    (ended : ((Gateway.ofDatabase database).prospect text).isOver polls = true) :
    ∃ last, ∀ steps, last ≤ steps → m.alone database steps =
      ((Gateway.ofDatabase database).prospect text).frames polls := by
  unfold alone
  rw [h]
  exact Delivery.exists_run_rests (by decide : 0 < Connection.channelCapacity)
    (by simp : Appetite.all ≠ .none) ended

namespace Bridge

variable {database : ScriptedDatabase} {b : Bridge ScriptedDatabase Replay}
  {messages : Nat → List Incoming}

theorem act_alike {a : Action} (unclosed : (b.act a).gateway.database.closed = false) :
    (b.act a).gateway.database.Alike b.gateway.database := by
  cases a with
  | accept peer cancelOnDisconnect => exact .refl _
  | closeGateway =>
      simp [act, Gateway.close, Database.close, ScriptedDatabase.close] at unclosed
  | connection index action =>
      cases hc : b.connections[index]? with
      | none =>
          rw [act_connection_of_none hc]
          exact .refl _
      | some c =>
          rw [act_connection hc]
          exact (c.act_move action b.gateway).alike

theorem unclosed_of_run {actions : List Action}
    (unclosed : (b.run actions).gateway.database.closed = false) :
    b.gateway.database.closed = false := by
  induction actions generalizing b with
  | nil => exact unclosed
  | cons a actions ih =>
      have hnext := ih unclosed
      rw [← (act_alike hnext).closed]
      exact hnext

structure Isolated (database : ScriptedDatabase) (messages : Nat → List Incoming)
    (b : Bridge ScriptedDatabase Replay) : Prop where
  alike : b.gateway.database.Alike database
  sound : ∀ index (c : Connection Replay), b.connections[index]? = some c →
    c.Sound database (messages index)
  unheard : ∀ index, b.connections[index]? = none → messages index = []

theorem Isolated.start (g : Gateway ScriptedDatabase) :
    (ofGateway g).Isolated g.database fun _ => [] where
  alike := .refl _
  sound index c h := by simp [ofGateway] at h
  unheard _ _ := rfl

theorem Isolated.act (h : b.Isolated database messages) {a : Action}
    (unclosed : (b.act a).gateway.database.closed = false) :
    (b.act a).Isolated database fun index => messages index ++ b.hears index a where
  alike := (act_alike unclosed).trans h.alike
  sound index next hnext := by
    cases hc : b.connections[index]? with
    | some c =>
        obtain ⟨after, hafter, hmove⟩ := act_connections hc a
        have hsame : after = next := Option.some.inj (hafter.symm.trans hnext)
        subst hsame
        obtain ⟨rfl, hdeaf⟩ | ⟨action, log, -, hhears, move⟩ := hmove
        · rw [hdeaf, List.append_nil]
          exact h.sound index after hc
        · rw [hhears]
          exact (h.sound index c hc).move move h.alike
    | none =>
        obtain ⟨peer, cancelOnDisconnect, rfl⟩ := act_new hc hnext
        rw [h.unheard index hc, hears_of_none hc]
        exact .accept peer cancelOnDisconnect
  unheard index hnone := by
    cases hc : b.connections[index]? with
    | some c =>
        obtain ⟨after, hafter, -⟩ := act_connections hc a
        exact absurd (hafter.symm.trans hnone) (by simp)
    | none => rw [h.unheard index hc, hears_of_none hc, List.append_nil]

theorem Isolated.run (h : b.Isolated database messages) {actions : List Action}
    (unclosed : (b.run actions).gateway.database.closed = false) :
    (b.run actions).Isolated database fun index => messages index ++ b.heard index actions := by
  induction actions generalizing b messages with
  | nil =>
      simp only [heard, List.append_nil]
      exact h
  | cons a actions ih =>
      have hrest := ih (h.act (unclosed_of_run unclosed)) unclosed
      simp only [List.append_assoc] at hrest
      exact hrest

theorem sound_of_run {g : Gateway ScriptedDatabase} {actions : List Action}
    (unclosed : ((ofGateway g).run actions).gateway.database.closed = false) {index : Nat}
    {c : Connection Replay} (h : ((ofGateway g).run actions).connections[index]? = some c) :
    c.Sound g.database ((ofGateway g).heard index actions) := by
  have hsound := ((Isolated.start g).run unclosed).sound index c h
  simpa using hsound

theorem sent_eq_of_finished {g : Gateway ScriptedDatabase} {before after : List Action}
    (unclosed : ((ofGateway g).run (before ++ after)).gateway.database.closed = false)
    {index number : Nat} {c d : Connection Replay}
    (hc : ((ofGateway g).run (before ++ after)).connections[index]? = some c)
    (hd : ((ofGateway g).run before).connections[index]? = some d)
    (finished : d.task? number = some .finished)
    (alive : c.channel.receiverGone = false) {m : Incoming}
    (hm : ((ofGateway g).heard index (before ++ after))[number]? = some m) :
    ∃ text polls, m.text? = some text ∧
      ((Gateway.ofDatabase g.database).prospect text).isOver polls = true ∧
      framesOf number c.sent =
        ((Gateway.ofDatabase g.database).prospect text).frames polls := by
  have hearlier : ((ofGateway g).run before).gateway.database.closed = false := by
    rw [run_append] at unclosed
    exact unclosed_of_run unclosed
  obtain ⟨m', text, -, -, hm', htext, -⟩ :=
    ((sound_of_run hearlier hd).holds number).exists_of_task finished
  have hsame : m' = m := by
    have hindex := (List.getElem?_eq_some_iff.1 hm').1
    rw [heard_append, List.getElem?_append_left hindex, hm'] at hm
    exact Option.some.inj hm
  subst hsame
  obtain ⟨next, hnext, hextends⟩ := run_extends hd after
  rw [← run_append] at hnext
  have hsame : next = c := Option.some.inj (hnext.symm.trans hc)
  subst hsame
  obtain ⟨halive, hmore⟩ := hextends alive
  have hbefore := (sound_of_run hearlier hd).holds number
  rw [hm'] at hbefore
  obtain ⟨polls, hover, hframes⟩ := hbefore.eq_of_finished htext finished halive
  have hafter := (sound_of_run unclosed hc).holds number
  rw [hm] at hafter
  obtain ⟨later, hlater⟩ := hafter.exists_frames htext
  refine ⟨text, polls, htext, hover, ?_⟩
  have hlow := framesOf_mono number hmore
  rw [hframes] at hlow
  have hhigh := hlater.trans (Prospect.frames_prefix_of_over _ hover later)
  exact hhigh.eq_of_length_le hlow.length_le

end Bridge

/-- Any messages on any connections of one gateway, in any order of actions.  The first part
holds of every frame, the second of the frames of one message, and the last of the read loop. -/
theorem messages_are_isolated (g : Gateway ScriptedDatabase) (actions : List Bridge.Action)
    (unclosed : ((Bridge.ofGateway g).run actions).gateway.database.closed = false)
    (index : Nat) (c : Connection Replay)
    (hc : ((Bridge.ofGateway g).run actions).connections[index]? = some c) :
    let messages := (Bridge.ofGateway g).heard index actions
    (∀ out ∈ c.sent, out.message < messages.length) ∧
    (∀ number m, messages[number]? = some m →
      (∃ steps, framesOf number c.written <+: m.alone g.database steps) ∧
      (m.text? = none → framesOf number c.written <+: [notTextFrame]) ∧
      (c.channel.receiverGone = false →
        (∀ text t, m.text? = some text → c.task? number = some t → t.hasBegun = true →
          ∃ polls, framesOf number c.sent ++ t.inHand =
            ((Gateway.ofDatabase g.database).prospect text).frames polls) ∧
        (c.channel.queue = [] →
          (m.text? = none → c.reply? number = none →
            framesOf number c.written = [notTextFrame]) ∧
          ∀ before d, before <+: actions →
            ((Bridge.ofGateway g).run before).connections[index]? = some d →
            d.task? number = some .finished →
            ∃ last, ∀ steps, last ≤ steps →
              framesOf number c.written = m.alone g.database steps))) ∧
    ((∀ departure, .connection index (.leave departure) ∉ actions) →
      c.isListening = true) := by
  intro messages
  have hsound := Bridge.sound_of_run unclosed hc
  refine ⟨fun out => hsound.message_lt, fun number m hm => ?_, fun stays => ?_⟩
  · have hholds := hsound.holds number
    rw [show ((Bridge.ofGateway g).heard index actions)[number]? = some m from hm] at hholds
    have hwritten : framesOf number c.written <+: framesOf number c.sent :=
      framesOf_mono number (List.prefix_append _ _)
    refine ⟨?_, fun htext => hwritten.trans (hholds.prefix_notText htext), fun alive => ⟨?_, ?_⟩⟩
    · cases htext : m.text? with
      | some text =>
          obtain ⟨polls, hframes⟩ := hholds.exists_frames htext
          obtain ⟨steps, hsteps⟩ := Incoming.exists_alone htext polls
          exact ⟨steps, hwritten.trans (hframes.trans hsteps)⟩
      | none =>
          refine ⟨0, ?_⟩
          simp only [Incoming.alone, htext]
          exact hwritten.trans (hholds.prefix_notText htext)
    · intro text t htext task begun
      exact hholds.eq_of_task htext task begun alive
    · intro drained
      have hsent : c.sent = c.written := by rw [Connection.sent, drained, List.append_nil]
      refine ⟨fun htext replied => ?_, ?_⟩
      · rw [← hsent]
        exact hholds.eq_notText htext alive replied
      · rintro before d ⟨after, rfl⟩ hd finished
        obtain ⟨text, polls, htext, hover, hframes⟩ :=
          Bridge.sent_eq_of_finished unclosed hc hd finished alive hm
        obtain ⟨last, hlast⟩ := Incoming.exists_alone_of_over htext hover
        refine ⟨last, fun steps hsteps => ?_⟩
        rw [← hsent, hframes, hlast steps hsteps]
  · have hstart : (Bridge.ofGateway g : Bridge ScriptedDatabase Replay).Listens index := by
      intro d hd
      simp [Bridge.ofGateway] at hd
    exact Bridge.run_listens hstart stays c hc

def sampleActions : List Bridge.Action :=
  .accept "peer" false ::
    ([.receive (.text sampleText), .receive (.binary [255]), .step 0, .step 0, .step 0, .step 0,
      .step 0, .write, .write, .write] : List Connection.Action).map (.connection 0)

def sampleBridge : Bridge ScriptedDatabase Replay :=
  (Bridge.ofGateway (sampleGateway .ends)).run sampleActions

theorem messages_are_isolated_from_a_bad_one :
    ∃ c, sampleBridge.connections[0]? = some c ∧ c.isListening = true ∧
      framesOf 1 c.written = [notTextFrame] ∧
      ∃ last, ∀ steps, last ≤ steps → framesOf 0 c.written =
        (Incoming.text sampleText).alone (sampleGateway .ends).database steps := by
  have hcalm : sampleBridge.connections[0]?.map (fun c => (c.channel, c.readLoop)) =
      some (⟨Connection.channelCapacity, [], false⟩, .reading) := by decide +kernel
  have hfinished : (sampleBridge.connections[0]?.bind fun c => c.task? 0).map
      Task.isFinished = some true := by decide +kernel
  have hheard : (Bridge.ofGateway (sampleGateway .ends)).heard 0 sampleActions =
      [.text sampleText, .binary [255]] := by decide +kernel
  obtain ⟨c, hc, hstate⟩ := Option.map_eq_some_iff.1 hcalm
  simp only [Prod.mk.injEq] at hstate
  obtain ⟨hchannel, hloop⟩ := hstate
  rw [hc, Option.bind_some] at hfinished
  obtain ⟨t, htask, hdone⟩ := Option.map_eq_some_iff.1 hfinished
  rw [Task.eq_finished hdone] at htask
  have hisolated := messages_are_isolated (sampleGateway .ends) sampleActions
    (by decide +kernel) 0 c hc
  simp only [hheard] at hisolated
  obtain ⟨-, hmessage, hlistens⟩ := hisolated
  have hfirst := (hmessage 0 _ rfl).2.2 (by rw [hchannel])
  have hsecond := (hmessage 1 _ rfl).2.2 (by rw [hchannel])
  refine ⟨c, hc, hlistens (by simp [sampleActions]), ?_, ?_⟩
  · exact (hsecond.2 (by rw [hchannel])).1 (by decide +kernel) (by simp [Connection.reply?, hloop])
  · exact (hfirst.2 (by rw [hchannel])).2 sampleActions c List.prefix_rfl hc htask

end CypherBridge
