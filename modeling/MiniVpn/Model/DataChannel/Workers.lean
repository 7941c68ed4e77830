import MiniVpn.Go.Runtime

/-! # The data-channel workers

`Service.StartWorkers` (datachannel) starts three goroutines that share the channels between the
muxer, the TUN layer and the TLS-state layer: `moveUpWorker` decrypts packets from the muxer for
the TUN layer, `moveDownWorker` encrypts TUN packets for the muxer once a key is ready, and
`keyWorker` installs the keys the TLS-state layer hands over, marks the session
`S_GENERATED_KEYS` and wakes `moveDownWorker` through the unbuffered `newKey`. Every worker's
deferred epilogue calls `OnWorkerDone` and `StartShutdown`.

The system is a state machine over the three workers' program points, the channel contents and
the shutdown signal, driven by a schedule of actions: one per `select` case a worker can take or
per operation of the peers (the muxer, the TUN layer, the TLS-state layer and the reader of
`Manager.Ready`). An action that is not enabled in a state stops the schedule, so every
interleaving, with every outcome of the cryptographic calls, is some schedule. A closed
`ShouldShutdown()` channel is a flag, and an unbuffered send completes only by a rendezvous with
its receiver. The `workers.Manager` and the data channel's `setupKeys`, `writePacket` and
`readPacket` are not among the sources; what the latter three return is part of the action.
-/

namespace MiniVpn.DataChannel

/-- Where `keyWorker` is. -/
inductive KeyPc where
  /-- The `select` on `keyReady` and `ShouldShutdown()`. -/
  | select
  /-- Inside `SetNegotiationState(S_GENERATED_KEYS)`, at `m.Ready <- true`, mutex held. -/
  | sendingReady
  /-- At `ws.newKey <- true`. -/
  | sendingNewKey
  /-- Returned: `OnWorkerDone` has run. -/
  | done
  deriving DecidableEq, Repr

/-- Where `moveDownWorker` is. -/
inductive DownPc where
  /-- The outer `select` on `newKey` and `ShouldShutdown()`. -/
  | awaitingKey
  /-- The inner `select` on `tunToData` and `ShouldShutdown()`. -/
  | reading
  /-- The `select` that sends to `dataOrControlToMuxer`, with `default` and `ShouldShutdown()`. -/
  | sending
  | done
  deriving DecidableEq, Repr

/-- Where `moveUpWorker` is. -/
inductive UpPc where
  /-- The `select` on `muxerToData` and `ShouldShutdown()`. -/
  | select
  /-- At `ws.dataToTUN <- decrypted`. -/
  | sendingToTUN
  | done
  deriving DecidableEq, Repr

/-- The workers, the messages waiting on the channels they read, and the shutdown signal. -/
structure Workers where
  key : KeyPc
  down : DownPc
  up : UpPc
  /-- `ShouldShutdown()` is closed. -/
  shutdown : Bool
  /-- Keys the TLS-state layer has handed to `keyReady` and `keyWorker` has not received. -/
  keyReady : Nat
  /-- Packets the TUN layer has written to `tunToData`. -/
  tunToData : Nat
  /-- Packets the muxer has written to `muxerToData`. -/
  muxerToData : Nat
  /-- Packets in `dataOrControlToMuxer`, and its capacity. -/
  toMuxer : Nat
  toMuxerCap : Nat
  deriving DecidableEq, Repr

/-- The workers as `StartWorkers` leaves them, over a muxer channel of capacity `cap`. -/
def Workers.start (cap : Nat) : Workers :=
  ⟨.select, .awaitingKey, .select, false, 0, 0, 0, 0, cap⟩

/-- One move of a worker or a peer. A `select` whose cases are both ready may take either. -/
inductive Action where
  /-- `keyWorker` receives a key; `setupKeys` succeeds when `installed`. -/
  | keyReceive (installed : Bool)
  /-- `keyWorker` takes `ShouldShutdown()` and returns. -/
  | keyExit
  /-- The reader of `Manager.Ready` receives. -/
  | readyReceive
  /-- `ws.newKey <- true` meets `<-ws.newKey`. -/
  | newKeyHandOver
  /-- `moveDownWorker` takes `ShouldShutdown()` and returns. -/
  | downExit
  /-- `moveDownWorker` receives from `tunToData`; `writePacket` succeeds when `encrypted`. -/
  | downRead (encrypted : Bool)
  /-- `moveDownWorker` sends the packet to the muxer. -/
  | downSend
  /-- `moveDownWorker` takes `default` and drops the packet. -/
  | downDrop
  /-- `moveUpWorker` receives from `muxerToData`; the plaintext goes up when `delivered`, that
  is when `readPacket` succeeds and the plaintext is not 16 bytes long. -/
  | upRead (delivered : Bool)
  /-- `moveUpWorker` takes `ShouldShutdown()` and returns. -/
  | upExit
  /-- The TUN layer receives from `dataToTUN`. -/
  | tunReceive
  /-- The TLS-state layer sends a key on `keyReady`. -/
  | deliverKey
  /-- The TUN layer sends a packet on `tunToData`. -/
  | tunSend
  /-- The muxer sends a packet on `muxerToData`. -/
  | muxerSend
  /-- The muxer receives from `dataOrControlToMuxer`. -/
  | muxerReceive
  /-- Some party calls `StartShutdown()`. -/
  | startShutdown
  deriving DecidableEq, Repr

/-- The state after `a`, or `none` when `a` is not enabled. -/
def Workers.step (s : Workers) : Action → Option Workers
  | .keyReceive installed =>
    if s.key = .select ∧ 0 < s.keyReady then
      some { s with keyReady := s.keyReady - 1,
                    key := if installed then .sendingReady else .select }
    else none
  | .keyExit => if s.key = .select ∧ s.shutdown then some { s with key := .done } else none
  | .readyReceive => if s.key = .sendingReady then some { s with key := .sendingNewKey } else none
  | .newKeyHandOver =>
    if s.key = .sendingNewKey ∧ s.down = .awaitingKey then
      some { s with key := .select, down := .reading }
    else none
  | .downExit => if s.down ≠ .done ∧ s.shutdown then some { s with down := .done } else none
  | .downRead encrypted =>
    if s.down = .reading ∧ 0 < s.tunToData then
      some { s with tunToData := s.tunToData - 1, down := if encrypted then .sending else .reading }
    else none
  | .downSend =>
    if s.down = .sending ∧ s.toMuxer < s.toMuxerCap then
      some { s with toMuxer := s.toMuxer + 1, down := .reading }
    else none
  | .downDrop =>
    if s.down = .sending ∧ s.toMuxerCap ≤ s.toMuxer ∧ !s.shutdown then
      some { s with down := .reading }
    else none
  | .upRead delivered =>
    if s.up = .select ∧ 0 < s.muxerToData then
      some { s with muxerToData := s.muxerToData - 1,
                    up := if delivered then .sendingToTUN else .select }
    else none
  | .upExit => if s.up = .select ∧ s.shutdown then some { s with up := .done } else none
  | .tunReceive => if s.up = .sendingToTUN then some { s with up := .select } else none
  | .deliverKey => some { s with keyReady := s.keyReady + 1 }
  | .tunSend => some { s with tunToData := s.tunToData + 1 }
  | .muxerSend => some { s with muxerToData := s.muxerToData + 1 }
  | .muxerReceive => if 0 < s.toMuxer then some { s with toMuxer := s.toMuxer - 1 } else none
  | .startShutdown => some { s with shutdown := true }

/-- The state after a schedule, or `none` when one of its actions is not enabled. -/
def Workers.run (s : Workers) : List Action → Option Workers
  | [] => some s
  | a :: schedule => (s.step a).bind fun s' => s'.run schedule

end MiniVpn.DataChannel
