import MiniVpn.Go.Runtime

/-! # Reading packets off the network connection

`readPacket` (vpn/transport.go) reads one OpenVPN packet from a `net.Conn`. On a datagram
network one `Read` is one packet. On a stream network each packet is preceded by its length as
a 2-byte big-endian number: `readPacketFromTCP` reads the two bytes with `io.ReadFull`, then
exactly that many more.

A connection is modelled by what its reads see: the segments the peer's bytes arrive in, and
the error `Read` returns once they are used up (`io.EOF` when the peer closed the connection).
A stream `Read` returns the head segment up to the buffer's length and keeps the rest for the
next call, so every way the network fragments or coalesces the byte stream is some list of
segments. The writing side, `maybeAddSizeFrame`, is not among the sources; its framing is
modelled as the spec describes it.
-/

namespace MiniVpn.Transport

/-- A `net.Conn` as its reads see it. -/
structure NetConn where
  /-- `conn.LocalAddr().Network()`. -/
  network : String
  /-- The segments successive reads return, in order. -/
  segments : List Bytes
  /-- What `Read` fails with once every segment is read. -/
  ending : GoError
  deriving DecidableEq, Repr

/-- The loop of `io.ReadAtLeast(conn, buf, min)` with `len(buf) = min`, after `got` bytes and
on the segments left: each iteration is one `conn.Read(buf[n:])`, which takes the head segment
up to the room left in `buf`. The loop stops once `min` bytes are in, or at the first read
error; `io.EOF` after some bytes is reported as `io.ErrUnexpectedEOF`. Returns the bytes read,
the error and the segments left. -/
def readAtLeast (ending : GoError) (min : Nat) (got : Bytes) :
    List Bytes → (Bytes × Option GoError) × List Bytes
  | [] =>
    if got.length < min then
      ((got, some (if !got.isEmpty && ending == .eof then .unexpectedEOF else ending)), [])
    else ((got, none), [])
  | segment :: rest =>
    if got.length < min then
      if segment.length ≤ min - got.length then readAtLeast ending min (got ++ segment) rest
      else ((got ++ segment.take (min - got.length), none),
        segment.drop (min - got.length) :: rest)
    else ((got, none), segment :: rest)

/-- `io.ReadFull(conn, buf)` with `len(buf) = size`: the bytes read into `buf` and the error. -/
def NetConn.readFull (c : NetConn) (size : Nat) : (Bytes × Option GoError) × NetConn :=
  let read := readAtLeast c.ending size [] c.segments
  (read.1, { c with segments := read.2 })

/-- `binary.BigEndian.Uint16(b)`: `uint16(b[1]) | uint16(b[0])<<8`. -/
def bigEndianUint16 (b : Bytes) : Nat :=
  (b.getD 0 0).toNat * 256 + (b.getD 1 0).toNat

/-- `readPacketFromTCP`: a 2-byte big-endian length, then exactly that many bytes, each read
with `io.ReadFull`; either failure is returned as it is. -/
def readPacketFromTCP (c : NetConn) : Except GoError Bytes × NetConn :=
  match c.readFull 2 with
  | ((_, some err), c) => (.error err, c)
  | ((lenbuf, none), c) =>
    match c.readFull (bigEndianUint16 lenbuf) with
    | ((_, some err), c) => (.error err, c)
    | ((buf, none), c) => (.ok buf, c)

/-- `readPacketFromUDP`: one `conn.Read` into a buffer of `1 << 17` bytes. A datagram read
returns one datagram, cut to the buffer. -/
def readPacketFromUDP (c : NetConn) : Except GoError Bytes × NetConn :=
  match c.segments with
  | [] => (.error c.ending, c)
  | datagram :: rest => (.ok (datagram.take 131072), { c with segments := rest })

/-- `readPacket`: dispatch on the network of the conn's local address. The source's third UDP
case is spelled "upd6". -/
def readPacket (c : NetConn) : Except GoError Bytes × NetConn :=
  match c.network with
  | "tcp" | "tcp4" | "tcp6" => readPacketFromTCP c
  | "udp" | "udp4" | "upd6" => readPacketFromUDP c
  | network => (.error (.badConnNetwork network), c)

/-- Successive calls of `readPacket`, as the transport's reading loop makes them: what each
returned, and the conn after the last. -/
def readPackets (c : NetConn) : Nat → List (Except GoError Bytes) × NetConn
  | 0 => ([], c)
  | count + 1 =>
    let first := readPacket c
    let rest := readPackets first.2 count
    (first.1 :: rest.1, rest.2)

/-- Modelled from the spec: `maybeAddSizeFrame` is not among the sources. On a stream network
each write is preceded by its length as a 2-byte big-endian number. -/
def sizeFrame (payload : Bytes) : Bytes :=
  [UInt8.ofNat (payload.length / 256), UInt8.ofNat payload.length] ++ payload

end MiniVpn.Transport
