import MiniVpn.Model.Muxer.Handshake

/-! # The hard-reset phase: cancellation and the remote session id

Two facts about `muxer.handshake`'s first phase. Once `failed` is set, each `Reset` still sends
a hard reset and then fails, and the retry loop around it calls it again: however many attempts
are allowed, the loop never returns, and every attempt whose `SendHardReset` succeeds puts one
more hard reset on the wire. And `Reset` stores whatever session id `ParseHardReset` returns for
a 26-byte reply, whether or not it reports an error: over any run of the retry loop, the stored
id is the parse of the last such reply read (`Tracks`), so a rejected reply leaves the zero id
behind and a retried `Reset` overwrites an id learned before.
-/

namespace MiniVpn.Muxer

open MiniVpn.Session (SessionID)

private theorem reset_of_failed (h : ControlHandler) (fuel : Nat) (m : ResetState)
    (failed : m.failed = true) :
    reset h (fuel + 1) m =
      .returned (some ((h.sendHardReset m.hardResetCalls).getD .cannotReadServerReset))
        { m with hardResetCalls := m.hardResetCalls + 1,
                 hardResetsSent := m.hardResetsSent +
                   if (h.sendHardReset m.hardResetCalls).isNone then 1 else 0 } := by
  cases sent : h.sendHardReset m.hardResetCalls <;> simp [reset, sent, awaitServerReset, failed]

/-- Cancellation does not end the handshake: once `failed` is set, the `Reset` retry loop has
not returned after any number of attempts, each attempt is a call of `SendHardReset`, and every
call that succeeds sends one more hard reset. -/
theorem handshake_resets_after_failure (h : ControlHandler) (fuel attempts : Nat)
    (m : ResetState) :
    handshakeResets h (fuel + 1) attempts { m with failed := true } =
      .outOfFuel
        { m with
          failed := true
          hardResetCalls := m.hardResetCalls + attempts
          hardResetsSent := m.hardResetsSent +
            (List.range' m.hardResetCalls attempts).countP fun call =>
              (h.sendHardReset call).isNone } := by
  induction attempts generalizing m with
  | zero => simp [handshakeResets]
  | succ attempts ih =>
    rw [handshakeResets, reset_of_failed h fuel _ rfl]
    refine (ih { m with
      hardResetCalls := m.hardResetCalls + 1
      hardResetsSent := m.hardResetsSent +
        if (h.sendHardReset m.hardResetCalls).isNone then 1 else 0 }).trans ?_
    simp only [List.range'_succ, List.countP_cons]
    congr 2 <;> omega

/-- A 26-byte reply whose opcode is not `CONTROL_HARD_RESET_SERVER_V2` is rejected by
`ParseHardReset`, yet `Reset` stores the zero id it returns and succeeds. When the
acknowledgement of a valid reply fails, the retried `Reset` replaces the id learned from it with
the next reply's. -/
theorem reset_stores_rejected_and_replaced_ids :
    (parseHardResetFromSpec 8 (List.replicate 26 0)).2 ≠ none ∧
      reset ⟨fun _ => none, parseHardResetFromSpec 8, fun _ => none⟩ 1
          ⟨false, [.ok (List.replicate 26 0)], ⟨List.replicate 8 7, rfl⟩, 0, 0, 0⟩ =
        .returned none ⟨false, [], .zero, 1, 1, 1⟩ ∧
      handshakeResets ⟨fun _ => none, parseHardResetFromSpec 8,
          fun call => if call = 0 then some (.conn "write") else none⟩ 1 2
          ⟨false, [.ok (64 :: List.replicate 25 1), .ok (64 :: List.replicate 25 2)], .zero,
            0, 0, 0⟩ =
        .resetDone ⟨false, [], ⟨List.replicate 8 2, rfl⟩, 2, 2, 2⟩ := by
  decide

/-! ## The stored session id -/

/-- The session id a sequence of carrier reads leaves in the session: what `ParseHardReset`
returned for the last 26-byte reply, error or not, and `init` when there was none. -/
def lastParsedID (h : ControlHandler) (init : SessionID) : List (Except GoError Bytes) → SessionID
  | [] => init
  | .error _ :: rest => lastParsedID h init rest
  | .ok resp :: rest =>
    lastParsedID h
      (if resp.length = goodHardResetResponseLen then (h.parseHardReset resp).1 else init) rest

private theorem lastParsedID_append (h : ControlHandler) (init : SessionID)
    (first rest : List (Except GoError Bytes)) :
    lastParsedID h init (first ++ rest) = lastParsedID h (lastParsedID h init first) rest := by
  induction first generalizing init with
  | nil => rfl
  | cons read first ih => cases read <;> exact ih _

/-- `m'` is `m` after reading a prefix of the carrier, with the session id that prefix leaves. -/
def Tracks (h : ControlHandler) (m m' : ResetState) : Prop :=
  ∃ consumed, m.carrier = consumed ++ m'.carrier ∧
    m'.remoteSessionID = lastParsedID h m.remoteSessionID consumed

private theorem Tracks.refl (h : ControlHandler) (m : ResetState) : Tracks h m m :=
  ⟨[], rfl, rfl⟩

private theorem Tracks.of_eq (h : ControlHandler) {m m' : ResetState}
    (carrier : m'.carrier = m.carrier) (id : m'.remoteSessionID = m.remoteSessionID) :
    Tracks h m m' :=
  ⟨[], carrier.symm, id⟩

private theorem Tracks.trans {h : ControlHandler} {m₁ m₂ m₃ : ResetState} (first : Tracks h m₁ m₂)
    (second : Tracks h m₂ m₃) : Tracks h m₁ m₃ := by
  obtain ⟨consumed₁, carrier₁, id₁⟩ := first
  obtain ⟨consumed₂, carrier₂, id₂⟩ := second
  exact ⟨consumed₁ ++ consumed₂, by rw [carrier₁, carrier₂, List.append_assoc],
    by rw [id₂, id₁, lastParsedID_append]⟩

private theorem Tracks.skip (h : ControlHandler) (m : ResetState) {read : Except GoError Bytes}
    {rest : List (Except GoError Bytes)} (first : m.carrier = read :: rest)
    (kept : lastParsedID h m.remoteSessionID [read] = m.remoteSessionID) :
    Tracks h m { m with carrier := rest } :=
  ⟨[read], first, kept.symm⟩

/-- The state a reply loop ends in. -/
def Awaited.state : Awaited → ResetState
  | .failed m | .replied m | .outOfFuel m => m

/-- The state a `Reset` call ends in. -/
def ResetResult.state : ResetResult → ResetState
  | .returned _ m | .outOfFuel m => m

/-- The state the retry loop ends in. -/
def HandshakeResult.state : HandshakeResult → ResetState
  | .resetDone m | .outOfFuel m => m

private theorem awaitServerReset_tracks (h : ControlHandler) :
    ∀ (fuel : Nat) (m : ResetState), Tracks h m (awaitServerReset h fuel m).state
  | 0, m => Tracks.refl h m
  | fuel + 1, m => by
    unfold awaitServerReset
    split
    · exact Tracks.refl h m
    · split
      · exact awaitServerReset_tracks h fuel m
      · rename_i carrier
        exact (Tracks.skip h m carrier rfl).trans (awaitServerReset_tracks h fuel _)
      · rename_i resp rest carrier
        split
        · rename_i short
          exact (Tracks.skip h m carrier (by simp [lastParsedID, short])).trans
            (awaitServerReset_tracks h fuel _)
        · rename_i full
          rw [ne_eq, not_not] at full
          exact ⟨[.ok resp], carrier, by simp [Awaited.state, lastParsedID, full]⟩

private theorem reset_tracks (h : ControlHandler) (fuel : Nat) (m : ResetState) :
    Tracks h m (reset h fuel m).state := by
  dsimp only [reset]
  split
  · exact Tracks.of_eq h rfl rfl
  · have tracked := (Tracks.of_eq h rfl rfl).trans (awaitServerReset_tracks h fuel
      { m with hardResetCalls := m.hardResetCalls + 1, hardResetsSent := m.hardResetsSent + 1 })
    split <;> rename_i awaited <;> rw [awaited] at tracked
    · exact tracked
    · exact tracked
    · exact tracked.trans (Tracks.of_eq h rfl rfl)

/-- Whatever the carrier delivers and whatever the handler answers, the remote session id the
`Reset` retry loop leaves in the session is `ParseHardReset`'s result on the last 26-byte reply it
read, whether that parse failed or not: an id is never kept because it was valid, and a later
reply replaces it. -/
theorem handshake_remote_id_is_last_parsed (h : ControlHandler) (fuel attempts : Nat)
    (m : ResetState) : Tracks h m (handshakeResets h fuel attempts m).state := by
  induction attempts generalizing m with
  | zero => exact Tracks.refl h m
  | succ attempts ih =>
    have tracked := reset_tracks h fuel m
    rw [handshakeResets]
    split <;> rename_i stepped <;> rw [stepped] at tracked
    · exact tracked
    · exact tracked.trans (ih _)
    · exact tracked

end MiniVpn.Muxer
