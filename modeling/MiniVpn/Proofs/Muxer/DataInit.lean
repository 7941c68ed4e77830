import MiniVpn.Model.Muxer.DataInit

/-! # Which errors leave the data-channel initialisation

Both reading phases of `InitDataWithRemoteKey` swallow every error an attempt reports, so the
only errors the function can return are those of the four calls outside its loops. In
particular neither a failed read of the TLS stream nor `errBadAuth` ever reaches the caller: an
`AUTH_FAILED` record is skipped like any malformed one, a later push reply completes the
initialisation, and a stream that has ended is read again and again.
-/

namespace MiniVpn.Muxer

open MiniVpn.Session (TunnelInfo)

private theorem readTLSPacket_of_record (s : DataInitState) {record : Bytes}
    {rest : List (Except GoError Bytes)} (first : s.records = .ok record :: rest) :
    s.readTLSPacket = (.ok (record.take 4096 ++ List.replicate (4096 - record.length) 0),
      { s with reads := s.reads + 1, records := rest }) := by
  simp only [DataInitState.readTLSPacket, first, List.drop_one, List.tail_cons, goCopy_replicate_eq]

private theorem readPushReply_of_ended (d : DataInitHandler) (s : DataInitState)
    (ended : s.records = []) :
    readPushReply d s = (some .eof, { s with reads := s.reads + 1 }) := by
  simp [readPushReply, DataInitState.readTLSPacket, ended]

private theorem retryUntilOk_readPushReply_of_ended (d : DataInitHandler) :
    ∀ (fuel : Nat) (s : DataInitState), s.records = [] →
      retryUntilOk (readPushReply d) fuel s = .outOfFuel { s with reads := s.reads + fuel }
  | 0, s, _ => by simp [retryUntilOk]
  | fuel + 1, s, ended => by
    rw [retryUntilOk, readPushReply_of_ended d s ended]
    dsimp only
    rw [retryUntilOk_readPushReply_of_ended d fuel { s with reads := s.reads + 1 } ended]
    congr 2
    dsimp only
    omega

/-- A server that sends its key, then `AUTH_FAILED`: the key record has the null header, the
codec and the key store accept it, `isBadAuthReply` tests for the `AUTH_FAILED` prefix, and every
other record passes as a push reply. -/
def authFailedHandler : DataInitHandler where
  sendControlMessage := none
  isControlMessage := fun data => data.take 4 == [0, 0, 0, 0]
  readControlMessage := fun data => .ok (data.take 8, "tun-mtu 1500")
  activeKey := none
  addRemoteKey := fun _ => none
  remoteMtu := fun _ => 1500
  setupKeys := none
  sendPushRequest := none
  isBadAuthReply := isBadAuthReplyFromSpec
  isPushReply := fun _ => true
  pushedOptions := fun _ => ⟨"10.8.0.1", "10.8.0.2", 0, "", 1⟩

private theorem authFailedHandler_loads_key (rest : List (Except GoError Bytes)) (reads : Nat) :
    readAndLoadRemoteKey authFailedHandler
        ⟨.ok [0, 0, 0, 0, 1, 2] :: rest, reads, none, .zero, none⟩ =
      (none, ⟨rest, reads + 1, some [0, 0, 0, 0, 1, 2, 0, 0], ⟨"", "", 1500, "", 0⟩, none⟩) := by
  rw [readAndLoadRemoteKey, readTLSPacket_of_record _ rfl]
  rfl

private theorem authFailedHandler_refuses (s : DataInitState) (rest : List (Except GoError Bytes)) :
    readPushReply authFailedHandler { s with records := .ok badAuth :: rest } =
      (some .badAuth, { s with records := rest, reads := s.reads + 1 }) := by
  rw [readPushReply, readTLSPacket_of_record _ rfl]
  rfl

private theorem authFailedHandler_accepts (s : DataInitState) (rest : List (Except GoError Bytes)) :
    readPushReply authFailedHandler { s with records := .ok [1] :: rest } =
      (none, { s with records := rest, reads := s.reads + 1,
                      tunnel := { s.tunnel with
                        ip := "10.8.0.2", gw := "10.8.0.1", peerID := 1 } }) := by
  rw [readPushReply, readTLSPacket_of_record _ rfl]
  rfl

/-- After `AUTH_FAILED`, `InitDataWithRemoteKey` reads on: a push reply that follows completes
the initialisation with no error, and a stream that ends there is read again on every attempt,
so that no number of attempts makes the function return. -/
theorem initData_reads_on_after_auth_failed :
    initDataWithRemoteKey authFailedHandler 2
        ⟨[.ok [0, 0, 0, 0, 1, 2], .ok badAuth, .ok [1]], 0, none, .zero, none⟩ =
      .returned none
        ⟨[], 3, some [0, 0, 0, 0, 1, 2, 0, 0], ⟨"10.8.0.1", "10.8.0.2", 1500, "", 1⟩, some 1⟩ ∧
    ∀ fuel, initDataWithRemoteKey authFailedHandler (fuel + 2)
        ⟨[.ok [0, 0, 0, 0, 1, 2], .ok badAuth], 0, none, .zero, none⟩ =
      .outOfFuel ⟨[], fuel + 3, some [0, 0, 0, 0, 1, 2, 0, 0], ⟨"", "", 1500, "", 0⟩, none⟩ := by
  constructor
  · rw [initDataWithRemoteKey]
    simp only [retryUntilOk, authFailedHandler_loads_key]
    have refused := authFailedHandler_refuses
      ⟨[], 1, some [0, 0, 0, 0, 1, 2, 0, 0], ⟨"", "", 1500, "", 0⟩, none⟩ [.ok [1]]
    have accepted := authFailedHandler_accepts
      ⟨[], 2, some [0, 0, 0, 0, 1, 2, 0, 0], ⟨"", "", 1500, "", 0⟩, none⟩ []
    simp only at refused accepted
    simp only [refused, accepted]
    rfl
  · intro fuel
    have refused := authFailedHandler_refuses
      ⟨[], 1, some [0, 0, 0, 0, 1, 2, 0, 0], ⟨"", "", 1500, "", 0⟩, none⟩ []
    simp only at refused
    rw [initDataWithRemoteKey, retryUntilOk, authFailedHandler_loads_key]
    dsimp only
    rw [retryUntilOk, refused]
    dsimp only
    rw [retryUntilOk_readPushReply_of_ended _ _ _ rfl]
    simp only [authFailedHandler, InitResult.outOfFuel.injEq, DataInitState.mk.injEq, true_and,
      and_true]
    omega

/-- Every error `InitDataWithRemoteKey` returns is the error of sending the control message,
of `ActiveKey`, of `SetupKeys` or of sending the push request: no read error and no
`errBadAuth` escapes its retry loops, whatever the TLS stream carries. -/
theorem initData_error_sources (d : DataInitHandler) (fuel : Nat) (s s' : DataInitState)
    (err : GoError) (failed : initDataWithRemoteKey d fuel s = .returned (some err) s') :
    d.sendControlMessage = some err ∨ d.activeKey = some err ∨ d.setupKeys = some err ∨
      d.sendPushRequest = some err := by
  unfold initDataWithRemoteKey at failed
  split at failed
  · rename_i sent
    cases failed
    exact .inl sent
  · split at failed
    · cases failed
    · split at failed
      · rename_i active
        cases failed
        exact .inr (.inl active)
      · split at failed
        · rename_i setup
          cases failed
          exact .inr (.inr (.inl setup))
        · split at failed
          · rename_i pushed
            cases failed
            exact .inr (.inr (.inr pushed))
          · split at failed <;> cases failed

end MiniVpn.Muxer
