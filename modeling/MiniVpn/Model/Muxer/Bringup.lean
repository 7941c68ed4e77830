import MiniVpn.Model.Muxer.Handshake
import MiniVpn.Model.Muxer.DataInit

/-! # The whole handshake

`muxer.handshake` (vpn/muxer.go) brings the tunnel up in three phases, reporting each stage to
the event listener: the `Reset` loop (`EventReset`), the TLS handshake (`EventTLSHandshake`, then
`EventTLSHandshakeDone`) and `InitDataWithRemoteKey` (`EventDataInitDone`). `emit` sends a stage
with a `select` that has a `default`, so it never blocks: a listener that is not receiving at
that moment misses the stage.

The `Reset` loop and `InitDataWithRemoteKey` are the models of `Handshake` and `DataInit`. The
TLS steps in between, the option checks, `newCertConfigFromOptions`, `initTLSFn` and
`tlsHandshakeFn`, are not among the sources: their outcomes are a `TLSSetup`. So is the reliable
transport, which alone could receive the final send on `m.reliable.doneHandshake`: whether it
does is part of the `TLSSetup`, and when it does not, `handshake` blocks at that send instead of
returning `nil`. The assignment of `m.reliable.Conn` is left out.
-/

namespace MiniVpn.Muxer

/-- The stages `muxer.handshake` reports through `emit`. -/
inductive Event where
  | reset
  | tlsHandshake
  | tlsHandshakeDone
  | dataInitDone
  deriving DecidableEq, Repr

/-- The outcomes of the steps of `muxer.handshake` that are not among the sources: the TLS steps,
and the reliable transport's receive on `doneHandshake`. -/
structure TLSSetup where
  /-- `m.options.hasAuthInfo()`. -/
  hasAuthInfo : Bool
  /-- The error of `newCertConfigFromOptions(m.options)`. -/
  certConfig : Option GoError
  /-- The error of `initTLSFn(certCfg)`. -/
  initTLS : Option GoError
  /-- The error of `tlsHandshakeFn(m.reliable, tlsConf)`. -/
  tlsHandshake : Option GoError
  /-- Whether `m.reliable.doneHandshake <- struct{}{}` is received; if not, it blocks for good. -/
  doneHandshake : Bool

/-- What `muxer.handshake` returns on failure: a step's error as it is, or the error of
`InitDataWithRemoteKey` wrapped in `ErrBadDataHandshake`. -/
inductive HandshakeError where
  | step (err : GoError)
  | badDataHandshake (cause : GoError)
  deriving DecidableEq

/-- The muxer state the handshake reads and writes: that of the `Reset` loop over `m.conn`, that
of `InitDataWithRemoteKey` over the TLS stream, and the stages the listener received. -/
structure Bringup where
  reset : ResetState
  dataInit : DataInitState
  events : List Event

/-- `emit(stage)`, `ready stage` telling whether the listener is receiving when `stage` is
emitted: the stage is delivered, or dropped by the `default` case. -/
def Bringup.emit (ready : Event → Bool) (b : Bringup) (stage : Event) : Bringup :=
  if ready stage then { b with events := b.events ++ [stage] } else b

/-- What a call of `handshake` ends in. -/
inductive BringupResult where
  | returned (err : Option HandshakeError) (b : Bringup)
  /-- Stuck at the send on `m.reliable.doneHandshake`. -/
  | blocked (b : Bringup)
  | outOfFuel (b : Bringup)

/-- The state a call of `handshake` ends in. -/
def BringupResult.state : BringupResult → Bringup
  | .returned _ b => b
  | .blocked b => b
  | .outOfFuel b => b

/-- Whether `handshake` returned `nil`. -/
def BringupResult.succeeded : BringupResult → Bool
  | .returned none _ => true
  | _ => false

/-- `muxer.handshake()`, with `attempts` calls of `Reset` and `fuel` for every inner loop. -/
def handshake (h : ControlHandler) (tls : TLSSetup) (d : DataInitHandler) (ready : Event → Bool)
    (fuel attempts : Nat) (b : Bringup) : BringupResult :=
  let b := b.emit ready .reset
  match handshakeResets h fuel attempts b.reset with
  | .outOfFuel m => .outOfFuel { b with reset := m }
  | .resetDone m =>
    let b := { b with reset := m }
    if !tls.hasAuthInfo then
      .returned (some (.step (.badInput "expected certificate or username/password"))) b
    else match tls.certConfig with
    | some err => .returned (some (.step err)) b
    | none =>
      match tls.initTLS with
      | some err => .returned (some (.step err)) b
      | none =>
        let b := b.emit ready .tlsHandshake
        match tls.tlsHandshake with
        | some err => .returned (some (.step err)) b
        | none =>
          let b := b.emit ready .tlsHandshakeDone
          match initDataWithRemoteKey d fuel b.dataInit with
          | .outOfFuel s => .outOfFuel { b with dataInit := s }
          | .returned (some err) s =>
            .returned (some (.badDataHandshake err)) { b with dataInit := s }
          | .returned none s =>
            let b := { b with dataInit := s }.emit ready .dataInitDone
            if tls.doneHandshake then .returned none b else .blocked b

end MiniVpn.Muxer
