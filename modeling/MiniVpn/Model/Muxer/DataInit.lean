import MiniVpn.Model.Session.Manager

/-! # The data-channel initialisation

`muxer.InitDataWithRemoteKey` (vpn/muxer.go) runs over the TLS stream once the TLS handshake is
done: it sends the key-exchange control message, reads records until one carries the server's
key, installs the data-channel keys, sends a push request and reads records until one is a push
reply. Both reading phases are `for` loops that retry on any error, which `retryUntilOk` models
once for both; they run on fuel.

The control-channel codec, the session's key store and the option parsers are not among the
sources: what they return is a `DataInitHandler`. Each `tls.Read` returns the next record of the
stream, or an error, and `io.EOF` once the stream has ended.
-/

namespace MiniVpn.Muxer

open MiniVpn.Session (TunnelInfo)

/-- The helpers `InitDataWithRemoteKey` calls that are not among the sources. -/
structure DataInitHandler where
  /-- The error of `control.ControlMessage` and of writing its result to the TLS stream. -/
  sendControlMessage : Option GoError
  /-- `isControlMessage(data)`. -/
  isControlMessage : Bytes → Bool
  /-- `control.ReadControlMessage(data)`: the remote key and the remote options string. -/
  readControlMessage : Bytes → Except GoError (Bytes × String)
  /-- The error of `session.ActiveKey()`. -/
  activeKey : Option GoError
  /-- The error of `key.addRemoteKey(remoteKey)`. -/
  addRemoteKey : Bytes → Option GoError
  /-- `newTunnelInfoFromRemoteOptionsString(remoteOptStr).mtu`. -/
  remoteMtu : String → Int
  /-- The error of `data.SetupKeys(key0)`. -/
  setupKeys : Option GoError
  /-- The error of writing `control.PushRequest()` to the TLS stream. -/
  sendPushRequest : Option GoError
  /-- `isBadAuthReply(resp)`. -/
  isBadAuthReply : Bytes → Bool
  /-- `isPushReply(resp)`. -/
  isPushReply : Bytes → Bool
  /-- `newTunnelInfoFromPushedOptions(control.ReadPushResponse(resp))`. -/
  pushedOptions : Bytes → TunnelInfo

/-- The muxer state `InitDataWithRemoteKey` reads and writes. -/
structure DataInitState where
  /-- What each `tls.Read` returns, in order; past the end, `io.EOF`. -/
  records : List (Except GoError Bytes)
  /-- Calls of `tls.Read` so far. -/
  reads : Nat
  /-- The remote key added to the active key. -/
  remoteKey : Option Bytes
  /-- `m.tunnel`. -/
  tunnel : TunnelInfo
  /-- The peer id handed to `data.SetPeerID`. -/
  dataPeerID : Option Int
  deriving DecidableEq

/-- `readTLSPacket(tls)`: one `tls.Read` into a fresh 4096-byte buffer, which is returned whole. -/
def DataInitState.readTLSPacket (s : DataInitState) : Except GoError Bytes × DataInitState :=
  let s' := { s with reads := s.reads + 1, records := s.records.drop 1 }
  match s.records with
  | [] => (.error .eof, s')
  | .error err :: _ => (.error err, s')
  | .ok record :: _ => (.ok (goCopy (List.replicate 4096 0) record), s')

/-- `readAndLoadRemoteKey(tls)`. -/
def readAndLoadRemoteKey (d : DataInitHandler) (s : DataInitState) :
    Option GoError × DataInitState :=
  match s.readTLSPacket with
  | (.error err, s) => (some err, s)
  | (.ok data, s) =>
    if !d.isControlMessage data then (some (.badControlMessage "expected null header"), s)
    else match d.readControlMessage data with
    | .error err => (some (.badHandshake err), s)
    | .ok (remoteKey, remoteOptStr) =>
      match d.activeKey with
      | some err => (some (.badHandshake err), s)
      | none =>
        match d.addRemoteKey remoteKey with
        | some err => (some (.badHandshake err), s)
        | none =>
          (none, { s with remoteKey := some remoteKey,
                          tunnel := { s.tunnel with mtu := d.remoteMtu remoteOptStr } })

/-- `readPushReply(tls)`. -/
def readPushReply (d : DataInitHandler) (s : DataInitState) : Option GoError × DataInitState :=
  match s.readTLSPacket with
  | (.error err, s) => (some err, s)
  | (.ok resp, s) =>
    if d.isBadAuthReply resp then (some .badAuth, s)
    else if !d.isPushReply resp then (some (.badServerReply "expected push reply"), s)
    else
      let ti := d.pushedOptions resp
      (none, { s with tunnel := { s.tunnel with ip := ti.ip, gw := ti.gw, peerID := ti.peerID } })

/-- How a retry loop ends. -/
inductive Looped (σ : Type) where
  | done (s : σ)
  | outOfFuel (s : σ)
  deriving DecidableEq

/-- `for { if err := attempt(); err == nil { break } }`, at most `fuel` attempts; the second loop
of `InitDataWithRemoteKey` also sleeps between attempts, which does not change the state. -/
def retryUntilOk {σ : Type} (attempt : σ → Option GoError × σ) : Nat → σ → Looped σ
  | 0, s => .outOfFuel s
  | fuel + 1, s =>
    match attempt s with
    | (none, s) => .done s
    | (some _, s) => retryUntilOk attempt fuel s

/-- What `InitDataWithRemoteKey` ends in. -/
inductive InitResult where
  | returned (err : Option GoError) (s : DataInitState)
  | outOfFuel (s : DataInitState)
  deriving DecidableEq

/-- `InitDataWithRemoteKey(tls)`, each retry loop run at most `fuel` times. -/
def initDataWithRemoteKey (d : DataInitHandler) (fuel : Nat) (s : DataInitState) : InitResult :=
  match d.sendControlMessage with
  | some err => .returned (some err) s
  | none =>
    match retryUntilOk (readAndLoadRemoteKey d) fuel s with
    | .outOfFuel s => .outOfFuel s
    | .done s =>
      match d.activeKey with
      | some err => .returned (some err) s
      | none =>
        match d.setupKeys with
        | some err => .returned (some err) s
        | none =>
          match d.sendPushRequest with
          | some err => .returned (some err) s
          | none =>
            match retryUntilOk (readPushReply d) fuel s with
            | .outOfFuel s => .outOfFuel s
            | .done s => .returned none { s with dataPeerID := some s.tunnel.peerID }

/-! ## Recognising `AUTH_FAILED` -/

/-- Modelled from the spec: `badAuth` is not among the sources; an authentication failure is a
control message whose payload starts with the ASCII text `AUTH_FAILED`. -/
def badAuth : Bytes := [65, 85, 84, 72, 95, 70, 65, 73, 76, 69, 68]

/-- Modelled from the spec: `isBadAuthReply` is not among the sources; it tests for the
`AUTH_FAILED` prefix. -/
def isBadAuthReplyFromSpec (b : Bytes) : Bool :=
  badAuth.isPrefixOf b

end MiniVpn.Muxer
