import MiniVpn.Go.Runtime

/-! # Reads on the data channel

`muxer.Read` (vpn/muxer.go) is what the user of the tunnel reads through. It calls
`handleIncomingPacket` until one inbound packet turns out to be a data packet that decrypts,
whose plaintext is appended to `bufReader`, and only then fills the caller's buffer from
`bufReader`. Pings are answered, control, ACK and other packets are dropped, and a failed read,
parse or decryption ends the call with the error.

Which packets are pings, the packet parser and its classification, and `data.ReadPacket` are not
among the sources; they form a `DataPath` over an abstract parsed-packet type. Each read of the
carrier returns the next inbound packet or an error, and `io.EOF` once the carrier is drained.
-/

namespace MiniVpn.Muxer

/-- The helpers `handleIncomingPacket` calls, over the parsed packet type `P`. -/
structure DataPath (P : Type) where
  /-- `isPing(input)`. -/
  isPing : Bytes → Bool
  /-- `parsePacketFromBytes(input)`. -/
  parsePacketFromBytes : Bytes → Except GoError P
  /-- `p.isControl()`. -/
  isControl : P → Bool
  /-- `p.isACK()`. -/
  isACK : P → Bool
  /-- `p.isData()`. -/
  isData : P → Bool
  /-- `data.ReadPacket(p)`: the decrypted and decompressed payload. -/
  readPacket : P → Except GoError Bytes

/-- The muxer state the data path reads and writes. -/
structure DataConn where
  /-- What `readPacket(m.conn)` returns on each call; past the end, `io.EOF`. -/
  carrier : List (Except GoError Bytes)
  bufReader : Bytes
  /-- Pings answered through `handleDataPing`. -/
  pingReplies : Nat
  deriving DecidableEq

section DataPath

variable {P : Type} (dp : DataPath P)

/-- `handleIncomingPacket(nil)`: whether a data packet was buffered, and the error. -/
def handleIncomingPacket (m : DataConn) : (Bool × Option GoError) × DataConn :=
  match m.carrier with
  | [] => ((false, some .eof), m)
  | .error err :: rest => ((false, some err), { m with carrier := rest })
  | .ok input :: rest =>
    let m := { m with carrier := rest }
    if dp.isPing input then ((false, none), { m with pingReplies := m.pingReplies + 1 })
    else match dp.parsePacketFromBytes input with
    | .error err => ((false, some err), m)
    | .ok p =>
      if dp.isControl p then ((false, none), m)
      else if dp.isACK p then ((false, none), m)
      else if !dp.isData p then ((false, none), m)
      else match dp.readPacket p with
      | .error err => ((false, some err), m)
      | .ok plaintext => ((true, none), { m with bufReader := m.bufReader ++ plaintext })

/-- What a call of `Read` ends in. -/
inductive DataReadResult where
  | returned (read : Bytes) (err : Option GoError) (m : DataConn)
  | outOfFuel (m : DataConn)
  deriving DecidableEq

/-- `muxer.Read(b)` with `len(b) = size`, its `for` loop run at most `fuel` times. -/
def DataConn.read (m : DataConn) (size : Nat) : Nat → DataReadResult
  | 0 => .outOfFuel m
  | fuel + 1 =>
    match handleIncomingPacket dp m with
    | ((_, some err), m) => .returned [] (some err) m
    | ((true, none), m) =>
      let read := bufferRead m.bufReader size
      .returned read.1.1 read.1.2 { m with bufReader := read.2 }
    | ((false, none), m) => m.read size fuel

/-- Successive calls of `Read` with the given buffer sizes, each with fuel for one loop
iteration per packet left on the carrier and one more, up to the first that does not return:
what each returned, and the state the last returning call left. -/
def DataConn.readAll (m : DataConn) : List Nat → List (Bytes × Option GoError) × DataConn
  | [] => ([], m)
  | size :: sizes =>
    match m.read dp size (m.carrier.length + 1) with
    | .returned read err m' =>
      let (rest, final) := m'.readAll sizes
      ((read, err) :: rest, final)
    | .outOfFuel _ => ([], m)

end DataPath

end MiniVpn.Muxer
