import CypherBridge.Text.Bytes
import CypherBridge.WebSocket.Frame

/-!
# The server's end of a WebSocket

Bytes come in; messages, pings and one fault at most come out. A message may come in
fragments, with control frames between them. Behind a close frame or a fault nothing more
is read.
-/

namespace CypherBridge.WebSocket

inductive SocketEvent where
  | text (s : String)
  | binary (payload : List UInt8)
  | ping (payload : List UInt8)
  | pong (payload : List UInt8)
  | close
  | fault (f : Fault)
  deriving DecidableEq, Repr

namespace SocketEvent

def endsReading : SocketEvent → Bool
  | .close | .fault _ => true
  | .text _ | .binary _ | .ping _ | .pong _ => false

end SocketEvent

def maxMessageSize : Nat := 67108864

inductive MessageKind where
  | text
  | binary
  deriving DecidableEq, Repr

structure Partial where
  kind : MessageKind
  payload : List UInt8
  deriving DecidableEq, Repr

namespace Partial

def extend (p : Partial) (fragment : List UInt8) : Except Fault Partial :=
  let payload := p.payload ++ fragment
  if maxMessageSize < payload.length then .error (.tooLong payload.length maxMessageSize)
  else if p.kind = .text ∧ !Text.beginsText payload then .error .notUtf8
  else .ok { p with payload }

def complete (p : Partial) : SocketEvent :=
  match p.kind with
  | .binary => .binary p.payload
  | .text =>
      match Text.ofBytes? p.payload with
      | some s => .text s
      | none => .fault .notUtf8

end Partial

structure Socket where
  buffer : List UInt8
  message : Option Partial
  finished : Bool
  deriving DecidableEq, Repr

namespace Socket

def start : Socket := ⟨[], none, false⟩

/-- A close frame is empty, or a code of two bytes and a text. -/
def closeEvent (payload : List UInt8) : SocketEvent :=
  match payload with
  | [] => .close
  | [_] => .fault .invalidClose
  | _ :: _ :: reason =>
      if (Text.ofBytes? reason).isSome then .close else .fault .notUtf8

def continueMessage (message : Partial) (final : Bool) (payload : List UInt8) :
    Option Partial × Option SocketEvent :=
  match message.extend payload with
  | .error f => (none, some (.fault f))
  | .ok message => if final then (none, some message.complete) else (some message, none)

def receive (message : Option Partial) (f : RawFrame) : Option Partial × Option SocketEvent :=
  let failed (fault : Fault) := (none, some (.fault fault))
  if f.reserved then failed .reservedBits
  else if !f.masked then failed .unmasked
  else match f.opcode with
    | .data kind =>
        match kind, message with
        | .continuation, none => failed .nothingToContinue
        | .continuation, some m => continueMessage m f.final f.payload
        | kind, some _ => failed (.fragmentExpected kind)
        | .text, none => continueMessage ⟨.text, []⟩ f.final f.payload
        | .binary, none => continueMessage ⟨.binary, []⟩ f.final f.payload
    | control =>
        if !f.final then failed .fragmentedControl
        else if 125 < f.payload.length then failed .controlTooBig
        else match control with
          | .close => (message, some (closeEvent f.payload))
          | .ping => (message, some (.ping f.payload))
          | _ => (message, some (.pong f.payload))

/-- Reads the buffered frames. The fuel bounds them: each has two bytes at least. -/
def drain (fuel : Nat) (s : Socket) : Socket × List SocketEvent :=
  match fuel with
  | 0 => (s, [])
  | fuel + 1 =>
      if s.finished then (s, [])
      else match readFrame s.buffer with
        | .incomplete => (s, [])
        | .fault f => ({ s with finished := true }, [.fault f])
        | .frame f rest =>
            match receive s.message f with
            | (message, none) => drain fuel { s with buffer := rest, message }
            | (message, some e) =>
                let (s, events) :=
                  drain fuel ⟨rest, message, e.endsReading⟩
                (s, e :: events)

def feed (s : Socket) (bs : List UInt8) : Socket × List SocketEvent :=
  let s := { s with buffer := s.buffer ++ bs }
  s.drain (s.buffer.length + 1)

def hangUp (s : Socket) : Socket × List SocketEvent :=
  if s.finished then (s, []) else ({ s with finished := true }, [.fault .reset])

end Socket

end CypherBridge.WebSocket
