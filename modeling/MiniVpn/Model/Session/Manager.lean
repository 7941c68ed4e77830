import MiniVpn.Go.Strings

/-! # The session manager

`session.Manager` (internal/session/manager.go) is the only object more than one worker
touches: the key id, the two local packet-id counters, the session ids, the negotiation state
and the tunnel info, behind one mutex. Each method below is one critical section, so the
manager is a state machine whose requests are the exported methods; a failed
`runtimex.Assert` is a panic, after which no further request is served.

The declarations of `internal/model` the manager reads are not among the sources. Which opcodes
are control opcodes, and the two opcodes the manager stamps on packets it builds, are therefore
an `Opcodes` parameter, and `model.NewPacket` is modelled from the packet table of the spec.
-/

namespace MiniVpn.Session

/-- `model.PacketID`: an unsigned 32-bit counter. -/
abbrev PacketID := UInt32

/-- `math.MaxUint32`. -/
def maxUint32 : PacketID := 4294967295

/-- `model.SessionID`: eight bytes. -/
structure SessionID where
  bytes : Bytes
  length_bytes : bytes.length = 8
  deriving DecidableEq

/-- The zero value of `model.SessionID`. -/
def SessionID.zero : SessionID := ⟨List.replicate 8 0, rfl⟩

/-- `model.Opcode`. -/
abbrev Opcode := UInt8

/-- The opcode declarations of `internal/model` the manager reads. -/
structure Opcodes where
  /-- `Opcode.IsControl`. -/
  isControl : Opcode → Bool
  /-- `model.P_CONTROL_HARD_RESET_CLIENT_V2`. -/
  hardResetClientV2 : Opcode
  /-- `model.P_ACK_V1`. -/
  ackV1 : Opcode

/-- `model.NegotiationState`, an `int` enumeration in which `S_GENERATED_KEYS` is 7. -/
abbrev NegotiationState := Int

/-- `model.S_GENERATED_KEYS`. -/
def sGeneratedKeys : NegotiationState := 7

/-- `model.TunnelInfo`. -/
structure TunnelInfo where
  gw : String
  ip : String
  mtu : Int
  netMask : String
  peerID : Int
  deriving DecidableEq, Repr

/-- The zero value of `model.TunnelInfo`. -/
def TunnelInfo.zero : TunnelInfo := ⟨"", "", 0, "", 0⟩

/-- `model.Packet`. -/
structure Packet where
  opcode : Opcode
  keyID : UInt8
  peerID : Bytes
  localSessionID : SessionID
  acks : List PacketID
  remoteSessionID : SessionID
  id : PacketID
  payload : Bytes
  deriving DecidableEq

/-- Modelled from the spec: `model.NewPacket` is not among the sources. Following the packet
table, it sets the opcode, key id and payload it is given and leaves every other header field
at its zero value. -/
def newModelPacket (opcode : Opcode) (keyID : UInt8) (payload : Bytes) : Packet :=
  ⟨opcode, keyID, List.replicate 3 0, .zero, [], .zero, 0, payload⟩

/-- `session.Manager`, without the mutex, the logger, the tracer, the key slots and the
`Ready` channel (whose send the data-channel workers model). -/
structure Manager where
  keyID : UInt8
  localControlPacketID : PacketID
  localDataPacketID : PacketID
  localSessionID : SessionID
  negState : NegotiationState
  remoteSessionID : Option SessionID
  tunnelInfo : TunnelInfo
  deriving DecidableEq

/-- `NewManager` on its successful path, `randomFn(8)` having returned `random`: both counters
start at 1, since the hard reset owns packet id 0. -/
def newManager (random : SessionID) : Manager :=
  ⟨0, 1, 1, random, 0, none, .zero⟩

/-- The body `localControlPacketIDLocked` and `localDataPacketIDLocked` share: hand out the
counter and bump it, unless it is `math.MaxUint32`. Returns the id and the new counter. -/
def nextPacketID (pid : PacketID) : Except GoError (PacketID × PacketID) :=
  if pid = maxUint32 then .error .expiredKey else .ok (pid, pid + 1)

/-- `localControlPacketIDLocked`. -/
def Manager.localControlPacketIDLocked (m : Manager) : Except GoError (PacketID × Manager) :=
  (nextPacketID m.localControlPacketID).map fun (pid, next) =>
    (pid, { m with localControlPacketID := next })

/-- `localDataPacketIDLocked`. -/
def Manager.localDataPacketIDLocked (m : Manager) : Except GoError (PacketID × Manager) :=
  (nextPacketID m.localDataPacketID).map fun (pid, next) =>
    (pid, { m with localDataPacketID := next })

/-- `NewPacket`: a packet stamped with the local session id, the next id of the opcode's
channel and, once known, the remote session id. -/
def Manager.newPacket (ops : Opcodes) (m : Manager) (opcode : Opcode) (payload : Bytes) :
    Except GoError (Packet × Manager) :=
  let packet := { newModelPacket opcode m.keyID payload with localSessionID := m.localSessionID }
  let locked := if ops.isControl opcode then m.localControlPacketIDLocked
    else m.localDataPacketIDLocked
  match locked with
  | .error err => .error err
  | .ok (pid, m') =>
    let packet := { packet with id := pid }
    match m.remoteSessionID with
    | some remote => .ok ({ packet with remoteSessionID := remote }, m')
    | none => .ok (packet, m')

/-- `NewHardResetPacket`: always packet id 0, no counter consumed. -/
def Manager.newHardResetPacket (ops : Opcodes) (m : Manager) : Packet :=
  { newModelPacket ops.hardResetClientV2 m.keyID [] with
    id := 0, localSessionID := m.localSessionID }

/-- `NewACKForPacketIDs`. -/
def Manager.newACKForPacketIDs (ops : Opcodes) (m : Manager) (ids : List PacketID) :
    Except GoError Packet :=
  match m.remoteSessionID with
  | none => .error .noRemoteSessionID
  | some remote =>
    .ok ⟨ops.ackV1, m.keyID, List.replicate 3 0, m.localSessionID, ids, remote, 0, []⟩

/-- `SetRemoteSessionID`; `none` is the panic of `runtimex.Assert` on a second call. -/
def Manager.setRemoteSessionID (m : Manager) (remote : SessionID) : Option Manager :=
  if m.remoteSessionID.isNone then some { m with remoteSessionID := some remote } else none

/-- `newTunnelInfoFromRemoteOptionsString`: the last `tun-mtu` field sets the MTU, and the
first one whose value `strconv.Atoi` rejects fails the whole parse. -/
def newTunnelInfoFromRemoteOptionsString (remoteOpts : String) : Except GoError TunnelInfo :=
  List.foldlM (fun (t : TunnelInfo) opt =>
    match stringsSplit opt ' ' with
    | k :: v :: _ => if k = "tun-mtu" then (atoi v).map fun mtu => { t with mtu := mtu } else pure t
    | _ => pure t) TunnelInfo.zero (stringsSplit remoteOpts ',')

/-- `InitTunnelInfo`: replace the tunnel info on success, keep it on failure. -/
def Manager.initTunnelInfo (m : Manager) (remoteOption : String) : Except GoError Manager :=
  (newTunnelInfoFromRemoteOptionsString remoteOption).map fun ti => { m with tunnelInfo := ti }

/-- `UpdateTunnelInfo`: every field but the MTU comes from the pushed options. -/
def Manager.updateTunnelInfo (m : Manager) (ti : TunnelInfo) : Manager :=
  let info := m.tunnelInfo
  { m with
    tunnelInfo := { info with ip := ti.ip, gw := ti.gw, peerID := ti.peerID, netMask := ti.netMask } }

/-! ## Requests and runs -/

/-- A call of one of the manager's methods that can change its state or hand out an id. -/
inductive Request where
  | newPacket (opcode : Opcode) (payload : Bytes)
  | newHardResetPacket
  | localDataPacketID
  | newACKForPacketIDs (ids : List PacketID)
  | setRemoteSessionID (remote : SessionID)
  | setNegotiationState (sns : NegotiationState)
  | initTunnelInfo (remoteOption : String)
  | updateTunnelInfo (ti : TunnelInfo)

/-- What a method returns to its caller. -/
inductive Reply where
  | packet (p : Packet)
  | packetID (id : PacketID)
  | failed (err : GoError)
  | done
  deriving DecidableEq

/-- One method call under the mutex; `none` is a panic. A failing call keeps the state. -/
def Manager.step (ops : Opcodes) (m : Manager) : Request → Option (Reply × Manager)
  | .newPacket opcode payload =>
    match m.newPacket ops opcode payload with
    | .ok (p, m') => some (.packet p, m')
    | .error err => some (.failed err, m)
  | .newHardResetPacket => some (.packet (m.newHardResetPacket ops), m)
  | .localDataPacketID =>
    match m.localDataPacketIDLocked with
    | .ok (pid, m') => some (.packetID pid, m')
    | .error err => some (.failed err, m)
  | .newACKForPacketIDs ids =>
    match m.newACKForPacketIDs ops ids with
    | .ok p => some (.packet p, m)
    | .error err => some (.failed err, m)
  | .setRemoteSessionID remote => (m.setRemoteSessionID remote).map fun m' => (.done, m')
  | .setNegotiationState sns => some (.done, { m with negState := sns })
  | .initTunnelInfo remoteOption =>
    match m.initTunnelInfo remoteOption with
    | .ok m' => some (.done, m')
    | .error err => some (.failed err, m)
  | .updateTunnelInfo ti => some (.done, m.updateTunnelInfo ti)

/-- One served request, with the states around it. -/
structure Call where
  request : Request
  reply : Reply
  before : Manager
  after : Manager

/-- The calls a sequence of requests makes, in order, up to the first panic. -/
def Manager.run (ops : Opcodes) (m : Manager) : List Request → List Call
  | [] => []
  | r :: rs =>
    match m.step ops r with
    | some (reply, m') => ⟨r, reply, m, m'⟩ :: m'.run ops rs
    | none => []

end MiniVpn.Session
