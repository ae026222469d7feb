import CypherBridge.WebSocket.Error

/-!
# WebSocket frames

The binary form of a frame: a head of flags, opcode, length and mask, and the payload. A
frame is read once all of it is there; a bad opcode shows with the end of the head.
-/

namespace CypherBridge.WebSocket

inductive Opcode where
  | data (kind : DataKind)
  | close
  | ping
  | pong
  deriving DecidableEq, Repr

namespace Opcode

def number : Opcode → Nat
  | .data .continuation => 0
  | .data .text => 1
  | .data .binary => 2
  | .close => 8
  | .ping => 9
  | .pong => 10

def ofNumber? (n : Nat) : Option Opcode :=
  match n with
  | 0 => some (.data .continuation)
  | 1 => some (.data .text)
  | 2 => some (.data .binary)
  | 8 => some .close
  | 9 => some .ping
  | 10 => some .pong
  | _ => none

end Opcode

structure RawFrame where
  final : Bool
  reserved : Bool
  masked : Bool
  opcode : Opcode
  payload : List UInt8
  deriving DecidableEq, Repr

def maxFrameSize : Nat := 16777216

def bigEndian (bs : List UInt8) : Nat := bs.foldl (fun n b => n * 256 + b.toNat) 0

def splitBytes? (count : Nat) (bs : List UInt8) : Option (List UInt8 × List UInt8) :=
  if count ≤ bs.length then some (bs.splitAt count) else none

def unmask (mask payload : List UInt8) : List UInt8 :=
  payload.zipIdx.map fun b => b.1 ^^^ (mask[b.2 % 4]?.getD 0)

def lengthBytes (b : Nat) : Nat := if b = 126 then 2 else if b = 127 then 8 else 0

structure Head where
  first : Nat
  mask : Option (List UInt8)
  length : Nat
  deriving DecidableEq, Repr

/-- The head and what follows it, once all of it is there. -/
def readHead? (bs : List UInt8) : Option (Head × List UInt8) := do
  let (start, bs) ← splitBytes? 2 bs
  let (first, second) ← match start with
    | [a, b] => some (a.toNat, b.toNat)
    | _ => none
  let short := second % 128
  let (long, bs) ← splitBytes? (lengthBytes short) bs
  let length := if lengthBytes short = 0 then short else bigEndian long
  if 128 ≤ second then
    let (mask, bs) ← splitBytes? 4 bs
    return (⟨first, some mask, length⟩, bs)
  else return (⟨first, none, length⟩, bs)

inductive Reading where
  | incomplete
  | fault (f : Fault)
  | frame (f : RawFrame) (rest : List UInt8)
  deriving DecidableEq, Repr

def readFrame (bs : List UInt8) : Reading :=
  match readHead? bs with
  | none => .incomplete
  | some (head, bs) =>
      match Opcode.ofNumber? (head.first % 16) with
      | none => .fault (.invalidOpcode (head.first % 16))
      | some opcode =>
          if maxFrameSize < head.length then .fault (.tooLong head.length maxFrameSize)
          else match splitBytes? head.length bs with
            | none => .incomplete
            | some (payload, rest) =>
                .frame
                  { final := 128 ≤ head.first
                    reserved := 0 < head.first / 16 % 8
                    masked := head.mask.isSome
                    opcode
                    payload := match head.mask with
                      | some mask => unmask mask payload
                      | none => payload }
                  rest

def toBigEndian (count n : Nat) : List UInt8 :=
  (List.range count).reverse.map fun i => UInt8.ofNat (n / Nat.pow 256 i)

/-- A frame as a client sends it, under a mask of zeros. -/
def clientFrame (opcode : Opcode) (payload : List UInt8) : List UInt8 :=
  let n := payload.length
  let length :=
    if n < 126 then [UInt8.ofNat (128 + n)]
    else if n < 65536 then 254 :: toBigEndian 2 n
    else 255 :: toBigEndian 8 n
  UInt8.ofNat (128 + opcode.number) :: length ++ [0, 0, 0, 0] ++ payload

end CypherBridge.WebSocket
