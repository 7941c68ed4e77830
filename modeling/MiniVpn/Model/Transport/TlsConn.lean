import MiniVpn.Model.Session.Manager

/-! # Reads over the control channel

`TLSConn.Read` (vpn/transport.go) is the reliability layer the TLS handshake reads through. It
retries until the next packet by id is received: packets that arrive early are parked in the
session's `ackQueue`, a buffered channel, and every read either takes the queue's head or, when
the queue is empty or its head is not next, reads the carrier. A packet that is next is
acknowledged and its payload written to `bufReader`, from which the caller's buffer is filled;
when the acknowledgement fails, `Read` returns its error and the packet is gone.

The session helpers `isNextPacket` and `sendACK` are not among the sources; they are modelled
as `canRead`'s comment describes them, the error of each `sendACKFn` call being given in
advance like the carrier's packets. A send on a full `ackQueue` blocks the reading goroutine
for good, since nothing else drains the queue.
-/

namespace MiniVpn.Transport

open MiniVpn.Session (PacketID)

/-- The part of a `packet` the control channel reads: its id and payload. -/
structure ControlPacket where
  id : PacketID
  payload : Bytes
  deriving DecidableEq, Repr

/-- A `TLSConn` with the session state its reads touch. -/
structure TLSConn where
  /-- What `transport.ReadPacket()` returns on each call, in order; past the end it fails with
  `io.EOF`. -/
  carrier : List (Except GoError ControlPacket)
  /-- `session.ackQueue`, oldest first. -/
  ackQueue : List ControlPacket
  /-- `cap(session.ackQueue)`. -/
  capacity : Nat
  /-- The id the session acknowledged last. -/
  lastAcked : PacketID
  bufReader : Bytes
  /-- What `sendACKFn` returns on each call, in order; past the end it returns `nil`. -/
  acks : List (Option GoError)
  deriving DecidableEq

/-- What one attempt inside `Read`'s loop ends in. -/
inductive ReadStep where
  /-- `(true, n, err)`: `Read` returns; `delivered` is the packet acknowledged and buffered. -/
  | done (delivered : Option ControlPacket) (read : Bytes) (err : Option GoError) (t : TLSConn)
  /-- `(false, 0, nil)`: `Read` loops. -/
  | retry (t : TLSConn)
  /-- A channel operation that can never complete. -/
  | blocked (t : TLSConn)

/-- `doRead()`: the next result of `transport.ReadPacket()`. -/
def TLSConn.doRead (t : TLSConn) : Except GoError ControlPacket × TLSConn :=
  match t.carrier with
  | [] => (.error .eof, t)
  | r :: rest => (r, { t with carrier := rest })

/-- Modelled from the spec: `session.isNextPacket` is not among the sources; as `canRead`'s
comment says, a packet is next when its id follows the last acknowledged one. -/
def TLSConn.isNextPacket (t : TLSConn) (p : ControlPacket) : Bool :=
  p.id == t.lastAcked + 1

/-- `canRead`: the packet is not nil and is the next one. -/
def TLSConn.canRead (t : TLSConn) (p : ControlPacket) : Bool :=
  t.isNextPacket p

/-- Modelled from the spec: `sendACK` is not among the sources; it acknowledges the id to the
peer, failing with the next error of `acks`, and on success records the id as the last
acknowledged one. -/
def TLSConn.sendACK (t : TLSConn) (id : PacketID) : Option GoError × TLSConn :=
  match t.acks with
  | [] => (none, { t with lastAcked := id })
  | none :: rest => (none, { t with acks := rest, lastAcked := id })
  | some err :: rest => (some err, { t with acks := rest })

@[simp] theorem TLSConn.sendACK_bufReader (t : TLSConn) (n : PacketID) :
    (t.sendACK n).2.bufReader = t.bufReader := by
  unfold TLSConn.sendACK; split <;> rfl

/-- Only an acknowledgement that succeeds moves the last acknowledged id. -/
theorem TLSConn.sendACK_lastAcked (t : TLSConn) (n : PacketID) :
    (t.sendACK n).2.lastAcked = if (t.sendACK n).1.isSome then t.lastAcked else n := by
  unfold TLSConn.sendACK; split <;> rfl

/-- `writeAndReadFromBuffer(t.bufReader, b, payload)` with `len(b) = size`. -/
def TLSConn.writeAndReadFromBuffer (t : TLSConn) (size : Nat) (payload : Bytes) :
    (Bytes × Option GoError) × TLSConn :=
  let ((read, err), rest) := bufferRead (t.bufReader ++ payload) size
  ((read, err), { t with bufReader := rest })

/-- The `canRead` branch both readers share: acknowledge, buffer the payload, fill `b`; when
`sendACKFn` fails, `return true, 0, err` with the packet dropped. -/
def TLSConn.deliver (t : TLSConn) (size : Nat) (p : ControlPacket) : ReadStep :=
  match t.sendACK p.id with
  | (some err, t) => .done none [] (some err) t
  | (none, t) =>
    let ((read, err), t') := t.writeAndReadFromBuffer size p.payload
    .done (some p) read err t'

/-- `t.session.ackQueue <- p`, then `k` on success. -/
def TLSConn.pushAck (t : TLSConn) (p : ControlPacket) (k : TLSConn → ReadStep) : ReadStep :=
  if t.ackQueue.length < t.capacity then k { t with ackQueue := t.ackQueue ++ [p] }
  else .blocked t

/-- `doReadFromConn(t, b)`. -/
def doReadFromConn (t : TLSConn) (size : Nat) : ReadStep :=
  match t.doRead with
  | (.error err, t) => .done none [] (some err) t
  | (.ok p, t) => if t.canRead p then t.deliver size p else t.pushAck p .retry

/-- `doReadFromQueue(t, b)`: one receive from `ackQueue`; a head that is not next is sent back
and the carrier is read instead. -/
def doReadFromQueue (t : TLSConn) (size : Nat) : ReadStep :=
  match t.ackQueue with
  | [] => .blocked t
  | p :: rest =>
    let t := { t with ackQueue := rest }
    if t.canRead p then t.deliver size p
    else t.pushAck p fun t => doReadFromConn t size

/-- What a call of `Read` ends in. -/
inductive ReadResult where
  | returned (delivered : Option ControlPacket) (read : Bytes) (err : Option GoError) (t : TLSConn)
  | blocked (t : TLSConn)
  | outOfFuel (t : TLSConn)

/-- `TLSConn.Read(b)` with `len(b) = size`, its `for` loop run at most `fuel` times. -/
def TLSConn.read (t : TLSConn) (size : Nat) : Nat → ReadResult
  | 0 => .outOfFuel t
  | fuel + 1 =>
    match (if t.ackQueue.length = 0 then doReadFromConn t size else doReadFromQueue t size) with
    | .done delivered read err t => .returned delivered read err t
    | .retry t => t.read size fuel
    | .blocked t => .blocked t

/-- Successive calls of `Read` with the given buffer sizes, each with fuel for one loop
iteration per packet left on the carrier and one more, up to the first that does not return:
what each returned, and the connection as the last returning call left it. -/
def TLSConn.readAll (t : TLSConn) :
    List Nat → List (Option ControlPacket × Bytes × Option GoError) × TLSConn
  | [] => ([], t)
  | size :: sizes =>
    match t.read size (t.carrier.length + 1) with
    | .returned delivered read err t' =>
      let (rest, final) := t'.readAll sizes
      ((delivered, read, err) :: rest, final)
    | .blocked _ | .outOfFuel _ => ([], t)

end MiniVpn.Transport
