/-!
# Transport faults

What ends a WebSocket connection other than a close frame.
-/

namespace CypherBridge.WebSocket

inductive DataKind where
  | continuation
  | text
  | binary
  deriving DecidableEq, Repr

def DataKind.name : DataKind → String
  | .continuation => "CONTINUE"
  | .text => "TEXT"
  | .binary => "BINARY"

inductive Fault where
  | reservedBits
  | unmasked
  | fragmentedControl
  | controlTooBig
  | nothingToContinue
  | fragmentExpected (received : DataKind)
  | reset
  | invalidOpcode (opcode : Nat)
  | invalidClose
  | notUtf8
  | tooLong (size limit : Nat)
  deriving DecidableEq, Repr

namespace Fault

def protocol (reason : String) : String := "WebSocket protocol error: " ++ reason

def message : Fault → String
  | .reservedBits => protocol "Reserved bits are non-zero"
  | .unmasked => protocol "Received an unmasked frame from client"
  | .fragmentedControl => protocol "Fragmented control frame"
  | .controlTooBig =>
      protocol "Control frame too big (payload must be 125 bytes or less)"
  | .nothingToContinue => protocol "Continue frame but nothing to continue"
  | .fragmentExpected received =>
      protocol ("While waiting for more fragments received: " ++ received.name)
  | .reset => protocol "Connection reset without closing handshake"
  | .invalidOpcode opcode => protocol s!"Encountered invalid opcode: {opcode}"
  | .invalidClose => protocol "Invalid close sequence"
  | .notUtf8 => "UTF-8 encoding error"
  | .tooLong size limit => s!"Space limit exceeded: Message too long: {size} > {limit}"

end Fault

end CypherBridge.WebSocket
