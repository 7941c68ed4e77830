import MiniVpn.Model.Muxer.DataRead

/-! # What `muxer.Read` hands to the user

Each inbound packet contributes to the user's byte stream the plaintext of a data packet that
parses and decrypts, and nothing otherwise. Over any run of reads, the bytes returned followed by
what stays in `bufReader` are exactly these contributions, in order: nothing is lost, duplicated
or reordered. But a call that returns without error always reads the carrier first, up to and
including the next contributing packet, so bytes a short read left in `bufReader` wait for a
further data packet.
-/

namespace MiniVpn.Muxer

/-- A data path that takes every inbound packet for a data packet whose plaintext is its bytes. -/
def plainDataPath : DataPath Bytes :=
  ⟨fun _ => false, .ok, fun _ => false, fun _ => false, fun _ => true, .ok⟩

section DataPath

variable {P : Type} (dp : DataPath P)

/-- The plaintext an inbound packet contributes: that of a packet that is not a ping and parses
as a data packet that decrypts, and none for anything else. -/
def dataPlaintext : Except GoError Bytes → Option Bytes
  | .error _ => none
  | .ok input =>
    if dp.isPing input then none
    else match dp.parsePacketFromBytes input with
    | .error _ => none
    | .ok p =>
      if dp.isControl p || dp.isACK p || !dp.isData p then none else (dp.readPacket p).toOption

/-- What a call of `handleIncomingPacket` may do, by its outcome: a failure reads at most one
packet, which contributes nothing; a success reads exactly one and buffers its contribution,
reporting `true` exactly when there is one. -/
def Handled (m : DataConn) : (Bool × Option GoError) × DataConn → Prop
  | ((_, some _), m') => ∃ consumed : List (Except GoError Bytes),
      m.carrier = consumed ++ m'.carrier ∧ consumed.filterMap (dataPlaintext dp) = [] ∧
        m'.bufReader = m.bufReader
  | ((true, none), m') => ∃ input plaintext, m.carrier = input :: m'.carrier ∧
      dataPlaintext dp input = some plaintext ∧ m'.bufReader = m.bufReader ++ plaintext
  | ((false, none), m') => ∃ input, m.carrier = input :: m'.carrier ∧
      dataPlaintext dp input = none ∧ m'.bufReader = m.bufReader

private theorem handleIncomingPacket_handled (m : DataConn) :
    Handled dp m (handleIncomingPacket dp m) := by
  generalize handled : handleIncomingPacket dp m = result
  unfold handleIncomingPacket at handled
  split at handled
  · subst handled
    exact ⟨[], by simp, rfl, rfl⟩
  · rename_i err rest carrier
    subst handled
    exact ⟨[.error err], by simp [carrier], rfl, rfl⟩
  · rename_i input rest carrier
    have dropped : ∀ m' : DataConn, m'.carrier = rest → m'.bufReader = m.bufReader →
        dataPlaintext dp (.ok input) = none → Handled dp m ((false, none), m') :=
      fun m' rest' buffer none => ⟨.ok input, by rw [carrier, rest'], none, buffer⟩
    have failed : ∀ (m' : DataConn) (err : GoError), m'.carrier = rest →
        m'.bufReader = m.bufReader → dataPlaintext dp (.ok input) = none →
          Handled dp m ((false, some err), m') :=
      fun m' _ rest' buffer none => ⟨[.ok input], by simp [carrier, rest'], by simp [none], buffer⟩
    dsimp only at handled
    split at handled
    · subst handled
      exact dropped _ rfl rfl (by simp [dataPlaintext, *])
    · split at handled
      · subst handled
        exact failed _ _ rfl rfl (by simp [dataPlaintext, *])
      · split at handled
        · subst handled
          exact dropped _ rfl rfl (by simp [dataPlaintext, *])
        · split at handled
          · subst handled
            exact dropped _ rfl rfl (by simp [dataPlaintext, *])
          · split at handled
            · subst handled
              exact dropped _ rfl rfl (by simp_all [dataPlaintext, Except.toOption])
            · split at handled
              · subst handled
                exact failed _ _ rfl rfl (by simp_all [dataPlaintext, Except.toOption])
              · subst handled
                exact ⟨.ok input, _, carrier, by simp_all [dataPlaintext, Except.toOption], rfl⟩

private theorem DataConn.read_plaintexts (m : DataConn) (size : Nat) :
    ∀ {fuel : Nat} {read : Bytes} {err : Option GoError} {m' : DataConn},
      m.read dp size fuel = .returned read err m' →
      ∃ consumed : List (Except GoError Bytes), m.carrier = consumed ++ m'.carrier ∧
        read ++ m'.bufReader = m.bufReader ++ (consumed.filterMap (dataPlaintext dp)).flatten
  | 0, _, _, _, returned => by cases returned
  | fuel + 1, read, err, m', returned => by
    have handled := handleIncomingPacket_handled dp m
    unfold DataConn.read at returned
    split at returned <;> rename_i stepped <;> rw [stepped] at handled <;>
      simp only [Handled] at handled
    · obtain ⟨consumed, carrier, none, buffer⟩ := handled
      cases returned
      exact ⟨consumed, carrier, by simp [none, buffer]⟩
    · obtain ⟨input, plaintext, carrier, some, buffer⟩ := handled
      cases returned
      refine ⟨[input], carrier, ?_⟩
      simp only [bufferRead_append, buffer, List.filterMap_cons, some, List.filterMap_nil,
        List.flatten_cons, List.flatten_nil, List.append_nil]
    · obtain ⟨input, carrier, none, buffer⟩ := handled
      obtain ⟨consumed, carrier', bytes⟩ := DataConn.read_plaintexts _ size returned
      refine ⟨input :: consumed, by rw [carrier, carrier', List.cons_append], ?_⟩
      rw [bytes, buffer, List.filterMap_cons, none]

private theorem DataConn.read_waits_for_data (m : DataConn) (size : Nat) :
    ∀ {fuel : Nat} {read : Bytes} {m' : DataConn}, m.read dp size fuel = .returned read none m' →
      ∃ (skipped : List (Except GoError Bytes)) (input : Except GoError Bytes) (plaintext : Bytes),
        m.carrier = skipped ++ input :: m'.carrier ∧ skipped.filterMap (dataPlaintext dp) = [] ∧
          dataPlaintext dp input = some plaintext ∧ read = (m.bufReader ++ plaintext).take size ∧
            m'.bufReader = (m.bufReader ++ plaintext).drop size
  | 0, _, _, returned => by cases returned
  | fuel + 1, read, m', returned => by
    have handled := handleIncomingPacket_handled dp m
    unfold DataConn.read at returned
    split at returned <;> rename_i stepped <;> rw [stepped] at handled <;>
      simp only [Handled] at handled
    · cases returned
    · obtain ⟨input, plaintext, carrier, some, buffer⟩ := handled
      simp only [DataReadResult.returned.injEq] at returned
      obtain ⟨rfl, -, rfl⟩ := returned
      exact ⟨[], input, plaintext, carrier, rfl, some, by simp [buffer], by simp [buffer]⟩
    · obtain ⟨input, carrier, none, buffer⟩ := handled
      obtain ⟨skipped, input', plaintext, carrier', skip, some, taken, left⟩ :=
        DataConn.read_waits_for_data _ size returned
      rw [buffer] at taken left
      refine ⟨input :: skipped, input', plaintext, by rw [carrier, carrier', List.cons_append], ?_,
        some, taken, left⟩
      rw [List.filterMap_cons, none, skip]

/-- With one loop iteration per packet on the carrier and one more, `Read` always returns: the
fuel of `readAll` never cuts a call short. -/
theorem DataConn.read_ne_outOfFuel_of_length_lt (size : Nat) :
    ∀ (fuel : Nat) (m : DataConn), m.carrier.length < fuel →
      ∀ m', m.read dp size fuel ≠ .outOfFuel m'
  | 0, _, enough, _ => absurd enough (Nat.not_lt_zero _)
  | fuel + 1, m, enough, m' => by
    have handled := handleIncomingPacket_handled dp m
    unfold DataConn.read
    split <;> rename_i stepped <;> rw [stepped] at handled <;> simp only [Handled] at handled
    · simp
    · simp
    · obtain ⟨input, carrier, -, -⟩ := handled
      rw [carrier, List.length_cons] at enough
      exact DataConn.read_ne_outOfFuel_of_length_lt size fuel _ (by omega) m'

/-- A ping and a control packet before a data packet: the first two iterations answer the ping
and drop the control packet, and the third buffers the plaintext and returns, within the three
iterations the carrier's packets allow. -/
theorem muxerRead_ping_control_data_returns :
    let dp : DataPath Bytes :=
      ⟨fun input => input == [0], .ok, fun p => p == [1], fun _ => false, fun _ => true, .ok⟩
    let m : DataConn := ⟨[.ok [0], .ok [1], .ok [2, 3]], [], 0⟩
    m.carrier.length < 4 ∧ ∀ m', m.read dp 16 4 ≠ .outOfFuel m' := by
  intro dp m
  exact ⟨by decide, DataConn.read_ne_outOfFuel_of_length_lt dp 16 4 m (by decide)⟩

private theorem DataConn.readAll_plaintexts (m : DataConn) (sizes : List Nat) :
    ∃ consumed : List (Except GoError Bytes),
      m.carrier = consumed ++ (m.readAll dp sizes).2.carrier ∧
      ((m.readAll dp sizes).1.map (·.1)).flatten ++ (m.readAll dp sizes).2.bufReader =
        m.bufReader ++ (consumed.filterMap (dataPlaintext dp)).flatten := by
  induction sizes generalizing m with
  | nil => exact ⟨[], rfl, by simp [DataConn.readAll]⟩
  | cons size sizes ih =>
    simp only [DataConn.readAll]
    split
    · rename_i read err m' returned
      obtain ⟨consumed, carrier, bytes⟩ := m.read_plaintexts dp size returned
      obtain ⟨consumed', carrier', bytes'⟩ := ih m'
      refine ⟨consumed ++ consumed', by rw [carrier, carrier', List.append_assoc], ?_⟩
      simp only [List.map_cons, List.flatten_cons, List.append_assoc, bytes', List.filterMap_append,
        List.flatten_append]
      rw [← List.append_assoc, bytes, List.append_assoc]
    · exact ⟨[], rfl, by simp⟩

/-- The user's stream is the in-order contributions of the data packets, and bytes left in
`bufReader` come out only after a further contributing packet: every call of `Read` that returns
without error reads the carrier up to one such packet, and only then hands the caller the first
`size` bytes of the buffer with that packet's plaintext behind it, keeping the rest. -/
theorem read_stream_after_data (m : DataConn) :
    (∀ (size fuel : Nat) (read : Bytes) (m' : DataConn),
      m.read dp size fuel = .returned read none m' →
        ∃ (skipped : List (Except GoError Bytes)) (input : Except GoError Bytes)
          (plaintext : Bytes),
          m.carrier = skipped ++ input :: m'.carrier ∧ skipped.filterMap (dataPlaintext dp) = [] ∧
            dataPlaintext dp input = some plaintext ∧ read = (m.bufReader ++ plaintext).take size ∧
              m'.bufReader = (m.bufReader ++ plaintext).drop size) ∧
      ∀ sizes : List Nat, ∃ consumed : List (Except GoError Bytes),
        m.carrier = consumed ++ (m.readAll dp sizes).2.carrier ∧
          ((m.readAll dp sizes).1.map (·.1)).flatten ++ (m.readAll dp sizes).2.bufReader =
            m.bufReader ++ (consumed.filterMap (dataPlaintext dp)).flatten :=
  ⟨fun size _ _ _ returned => m.read_waits_for_data dp size returned,
    fun sizes => m.readAll_plaintexts dp sizes⟩

end DataPath

/-- A data packet with two bytes of plaintext, read through one-byte buffers: the first call
returns one byte, and the second reads the drained carrier and fails with `io.EOF` while the
other byte stays in `bufReader`. -/
theorem read_leaves_buffered_plaintext :
    DataConn.readAll plainDataPath ⟨[.ok [1, 2]], [], 0⟩ [1, 1] =
      ([([1], none), ([], some .eof)], ⟨[], [2], 0⟩) := by
  decide

end MiniVpn.Muxer
