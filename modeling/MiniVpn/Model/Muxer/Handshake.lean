import MiniVpn.Model.Session.Manager

/-! # The hard-reset phase of the handshake

`muxer.handshake` (vpn/muxer.go) first calls `Reset` until it succeeds. `Reset` sends a hard
reset, then reads the carrier until `failed` is set, which `Handshake` does when its context is
done, or until a 26-byte reply arrives; it parses the reply's session id, stores it in the
session and acknowledges packet 0.

The `controlHandler` implementation is not among the sources. What `SendHardReset` and `SendACK`
return on each call depends on the carrier, so they are arbitrary sequences of outcomes, and
`ParseHardReset` is an arbitrary parser. Both loops run on fuel; the inner loop consumes a
carrier read per iteration and the outer one a `Reset` call.
-/

namespace MiniVpn.Muxer

open MiniVpn.Session (SessionID)

/-- The `controlHandler` methods the hard-reset phase calls: `sendHardReset n` and `sendACK n`
are the errors of the `n`-th calls, `parseHardReset` is `ParseHardReset`. -/
structure ControlHandler where
  sendHardReset : Nat → Option GoError
  parseHardReset : Bytes → SessionID × Option GoError
  sendACK : Nat → Option GoError

/-- The muxer state the hard-reset phase reads and writes. -/
structure ResetState where
  failed : Bool
  /-- What `readPacket(m.conn)` returns on each call; past the end, `io.EOF`. -/
  carrier : List (Except GoError Bytes)
  /-- `r.session.RemoteSessionID`. -/
  remoteSessionID : SessionID
  /-- Calls of `SendHardReset` so far. -/
  hardResetCalls : Nat
  /-- Hard-reset packets `SendHardReset` put on the wire so far. -/
  hardResetsSent : Nat
  /-- Calls of `SendACK` so far. -/
  ackCalls : Nat
  deriving DecidableEq

/-- `goodHardResetResponseLen`. -/
def goodHardResetResponseLen : Nat := 26

/-- How the reply loop of `Reset` ends. -/
inductive Awaited where
  | failed (m : ResetState)
  | replied (m : ResetState)
  | outOfFuel (m : ResetState)
  deriving DecidableEq

/-- The `for` loop of `Reset`: give up once `failed` is set, skip read errors and replies of the
wrong length, and store the session id `ParseHardReset` returns for the first 26-byte reply. -/
def awaitServerReset (h : ControlHandler) : Nat → ResetState → Awaited
  | 0, m => .outOfFuel m
  | fuel + 1, m =>
    if m.failed then .failed m
    else match m.carrier with
    | [] => awaitServerReset h fuel m
    | .error _ :: rest => awaitServerReset h fuel { m with carrier := rest }
    | .ok resp :: rest =>
      if resp.length ≠ goodHardResetResponseLen then
        awaitServerReset h fuel { m with carrier := rest }
      else .replied { m with carrier := rest, remoteSessionID := (h.parseHardReset resp).1 }

/-- What a call of `Reset` ends in. -/
inductive ResetResult where
  | returned (err : Option GoError) (m : ResetState)
  | outOfFuel (m : ResetState)
  deriving DecidableEq

/-- `muxer.Reset(conn, r)`, its reply loop run at most `fuel` times. -/
def reset (h : ControlHandler) (fuel : Nat) (m : ResetState) : ResetResult :=
  let call := m.hardResetCalls
  let m := { m with hardResetCalls := call + 1 }
  match h.sendHardReset call with
  | some err => .returned (some err) m
  | none =>
    match awaitServerReset h fuel { m with hardResetsSent := m.hardResetsSent + 1 } with
    | .failed m => .returned (some .cannotReadServerReset) m
    | .outOfFuel m => .outOfFuel m
    | .replied m => .returned (h.sendACK m.ackCalls) { m with ackCalls := m.ackCalls + 1 }

/-- How the reset phase of `muxer.handshake` ends. -/
inductive HandshakeResult where
  /-- `Reset` succeeded: the handshake goes on to TLS. -/
  | resetDone (m : ResetState)
  | outOfFuel (m : ResetState)
  deriving DecidableEq

/-- `for { if err := m.Reset(m.conn, m.reliable); err == nil { break } }`, at most `attempts`
calls of `Reset`, each with `fuel` for its reply loop. -/
def handshakeResets (h : ControlHandler) (fuel : Nat) : Nat → ResetState → HandshakeResult
  | 0, m => .outOfFuel m
  | attempts + 1, m =>
    match reset h fuel m with
    | .returned none m => .resetDone m
    | .returned (some _) m => handshakeResets h fuel attempts m
    | .outOfFuel m => .outOfFuel m

/-! ## A `ParseHardReset` from the spec -/

/-- Modelled from the spec: `control.ParseHardReset` is not among the sources. The packet codec
rejects a reply whose opcode, the high five bits of the first byte, is not
`CONTROL_HARD_RESET_SERVER_V2`; otherwise the remote session id is the eight bytes after the
opcode byte. A rejected reply yields the zero id, as Go's zero-valued result. -/
def parseHardResetFromSpec (hardResetServerV2 : UInt8) (resp : Bytes) :
    SessionID × Option GoError :=
  match resp with
  | first :: rest =>
    if h : first >>> 3 = hardResetServerV2 ∧ 8 ≤ rest.length then
      (⟨rest.take 8, by simp [h.2]⟩, none)
    else (.zero, some (.badInput "bad hard reset"))
  | [] => (.zero, some (.badInput "bad hard reset"))

end MiniVpn.Muxer
