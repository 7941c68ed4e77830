import MiniVpn.Model.Transport.TlsConn

/-! # What `TLSConn.Read` delivers

Safety holds over every run: a read that returns has delivered either nothing (a failed read of
the carrier, or a next packet whose acknowledgement failed) or the packet whose id follows the
last acknowledged one, and the bytes handed to the caller, followed by what stays in
`bufReader`, are the delivered payloads in order. Each attempt of the loop either
returns in this way or retries with the acknowledged id and the buffer untouched, so the
property climbs from `doReadFromConn` and `doReadFromQueue` to `Read` and to any sequence of
reads.

Liveness does not: the queue is only ever looked at through its head, so a packet that arrived
early can sit behind a later one while the carrier is read again, and a duplicate of a delivered
packet is never dropped.
-/

namespace MiniVpn.Transport

/-- What a returning read did: delivered nothing and left the buffer alone, or delivered the
next packet by id and appended its payload behind the bytes it handed out. -/
def Delivers (t : TLSConn) : Option ControlPacket → Bytes → TLSConn → Prop
  | none, read, t' => t'.lastAcked = t.lastAcked ∧ read ++ t'.bufReader = t.bufReader
  | some p, read, t' => p.id = t.lastAcked + 1 ∧ t'.lastAcked = p.id ∧
      read ++ t'.bufReader = t.bufReader ++ p.payload

/-- A retry leaves the acknowledged id and the buffer as they were. -/
def Keeps (t t' : TLSConn) : Prop :=
  t'.lastAcked = t.lastAcked ∧ t'.bufReader = t.bufReader

/-- What one attempt of `Read`'s loop may do. -/
def StepOk (t : TLSConn) : ReadStep → Prop
  | .done delivered read _ t' => Delivers t delivered read t'
  | .retry t' => Keeps t t'
  | .blocked _ => True

private theorem Delivers.of_keeps {t t₁ t' : TLSConn} {delivered : Option ControlPacket}
    {read : Bytes} (kept : Keeps t t₁) (delivers : Delivers t₁ delivered read t') :
    Delivers t delivered read t' := by
  obtain ⟨acked, buffer⟩ := kept
  cases delivered <;> simpa only [Delivers, acked, buffer] using delivers

private theorem StepOk.of_keeps {t t₁ : TLSConn} {s : ReadStep} (kept : Keeps t t₁)
    (ok : StepOk t₁ s) :
    StepOk t s := by
  cases s with
  | done delivered read err t' => exact Delivers.of_keeps kept ok
  | retry t' => exact ⟨ok.1.trans kept.1, ok.2.trans kept.2⟩
  | blocked => trivial

private theorem TLSConn.deliver_ok (t : TLSConn) (size : Nat) {p : ControlPacket}
    (next : t.canRead p = true) : StepOk t (t.deliver size p) := by
  simp only [TLSConn.canRead, TLSConn.isNextPacket, beq_iff_eq] at next
  have acked := t.sendACK_lastAcked p.id
  have buffered := t.sendACK_bufReader p.id
  unfold TLSConn.deliver
  split <;> rename_i t₁ sent <;> simp only [sent, Option.isSome_some, Option.isSome_none,
    if_true, if_false, Bool.false_eq_true] at acked buffered
  · exact ⟨acked, buffered⟩
  · exact ⟨next, acked, buffered ▸ bufferRead_append _ _⟩

private theorem TLSConn.pushAck_ok (t : TLSConn) (p : ControlPacket) {k : TLSConn → ReadStep}
    (rest : ∀ t₁, Keeps t t₁ → StepOk t₁ (k t₁)) : StepOk t (t.pushAck p k) := by
  unfold TLSConn.pushAck
  split
  · exact StepOk.of_keeps ⟨rfl, rfl⟩ (rest _ ⟨rfl, rfl⟩)
  · trivial

private theorem doReadFromConn_ok (t : TLSConn) (size : Nat) :
    StepOk t (doReadFromConn t size) := by
  have kept : Keeps t t.doRead.2 := by
    unfold TLSConn.doRead
    split <;> exact ⟨rfl, rfl⟩
  unfold doReadFromConn
  split
  · rename_i err t₁ read
    have : t₁ = t.doRead.2 := by rw [read]
    subst this
    exact ⟨kept.1, by simp [kept.2]⟩
  · rename_i p t₁ read
    have : t₁ = t.doRead.2 := by rw [read]
    subst this
    split
    · exact StepOk.of_keeps kept (TLSConn.deliver_ok _ _ ‹_›)
    · exact StepOk.of_keeps kept (TLSConn.pushAck_ok _ _ fun _ _ => ⟨rfl, rfl⟩)

private theorem doReadFromQueue_ok (t : TLSConn) (size : Nat) :
    StepOk t (doReadFromQueue t size) := by
  unfold doReadFromQueue
  split
  · trivial
  · have kept : Keeps t { t with ackQueue := ‹List ControlPacket› } := ⟨rfl, rfl⟩
    dsimp only
    split
    · exact StepOk.of_keeps kept (TLSConn.deliver_ok _ _ ‹_›)
    · exact StepOk.of_keeps kept (TLSConn.pushAck_ok _ _ fun t₂ _ => doReadFromConn_ok t₂ size)

private theorem TLSConn.read_delivers (t : TLSConn) (size : Nat) :
    ∀ {fuel : Nat} {delivered : Option ControlPacket} {read : Bytes} {err : Option GoError}
      {t' : TLSConn}, t.read size fuel = .returned delivered read err t' →
        Delivers t delivered read t'
  | 0, _, _, _, _, returned => by simp [TLSConn.read] at returned
  | fuel + 1, delivered, read, err, t', returned => by
    have attempt : StepOk t (if t.ackQueue.length = 0 then doReadFromConn t size
        else doReadFromQueue t size) := by
      split
      · exact doReadFromConn_ok t size
      · exact doReadFromQueue_ok t size
    simp only [TLSConn.read] at returned
    split at returned
    · rename_i delivered₁ read₁ err₁ t₁ stepped
      rw [stepped] at attempt
      cases returned
      exact attempt
    · rename_i t₁ stepped
      rw [stepped] at attempt
      exact Delivers.of_keeps attempt (TLSConn.read_delivers t₁ size returned)
    · cases returned

/-! ## Every call returns or blocks -/

/-- A retry has consumed a packet of the carrier. -/
def Consumes (t : TLSConn) : ReadStep → Prop
  | .retry t' => t'.carrier.length < t.carrier.length
  | _ => True

private theorem TLSConn.deliver_consumes (t₀ t : TLSConn) (size : Nat) (p : ControlPacket) :
    Consumes t₀ (t.deliver size p) := by
  unfold TLSConn.deliver
  split <;> trivial

private theorem doReadFromConn_consumes (t : TLSConn) (size : Nat) :
    Consumes t (doReadFromConn t size) := by
  unfold doReadFromConn TLSConn.doRead
  split <;> rename_i read
  · trivial
  · split at read
    · cases read
    · cases read
      split
      · exact TLSConn.deliver_consumes _ _ size _
      · simp only [TLSConn.pushAck]
        split <;> simp [Consumes, *]

private theorem doReadFromQueue_consumes (t : TLSConn) (size : Nat) :
    Consumes t (doReadFromQueue t size) := by
  unfold doReadFromQueue
  split
  · trivial
  · dsimp only
    split
    · exact TLSConn.deliver_consumes _ _ size _
    · simp only [TLSConn.pushAck]
      split
      · exact doReadFromConn_consumes _ size
      · trivial

/-- With one loop iteration per packet on the carrier and one more, `Read` returns or blocks:
the fuel of `readAll` never cuts a call short. -/
theorem TLSConn.read_ne_outOfFuel (size : Nat) :
    ∀ (fuel : Nat) (t : TLSConn), t.carrier.length < fuel → ∀ t', t.read size fuel ≠ .outOfFuel t'
  | 0, _, enough, _ => absurd enough (Nat.not_lt_zero _)
  | fuel + 1, t, enough, t' => by
    have attempt : Consumes t (if t.ackQueue.length = 0 then doReadFromConn t size
        else doReadFromQueue t size) := by
      split
      · exact doReadFromConn_consumes t size
      · exact doReadFromQueue_consumes t size
    simp only [TLSConn.read]
    split
    · simp
    · rename_i t₁ stepped
      rw [stepped] at attempt
      exact TLSConn.read_ne_outOfFuel size fuel t₁ (by simp only [Consumes] at attempt; omega) t'
    · simp

/-- Arrivals 2, 3, 1 with an empty queue: the first two iterations retry, parking 2 and then 3,
and the third delivers 1, within the four iterations the carrier's three packets allow. -/
theorem tlsRead_retries_returns :
    (⟨[.ok ⟨2, [2]⟩, .ok ⟨3, [3]⟩, .ok ⟨1, [1]⟩], [], 3, 0, [], []⟩ : TLSConn).carrier.length < 4 ∧
      ∀ t', TLSConn.read ⟨[.ok ⟨2, [2]⟩, .ok ⟨3, [3]⟩, .ok ⟨1, [1]⟩], [], 3, 0, [], []⟩ 16 4 ≠
        .outOfFuel t' :=
  ⟨by decide, TLSConn.read_ne_outOfFuel 16 4 _ (by decide)⟩

/-- In-order, at-most-once delivery over any run of reads: the packets successive reads deliver
carry the ids that follow the last acknowledged one, one by one, and the bytes the reads return,
followed by what stays buffered, are the delivered payloads in that order. -/
theorem TLSConn.readAll_delivers (t : TLSConn) (sizes : List Nat) :
    ((t.readAll sizes).1.filterMap (·.1) |>.map (·.id)).Chain (fun last next => next = last + 1)
        t.lastAcked ∧
      ((t.readAll sizes).1.map (·.2.1)).flatten ++ (t.readAll sizes).2.bufReader =
        t.bufReader ++ ((t.readAll sizes).1.filterMap (·.1) |>.map (·.payload)).flatten := by
  induction sizes generalizing t with
  | nil => simp [TLSConn.readAll]
  | cons size sizes ih =>
    simp only [TLSConn.readAll]
    split
    · rename_i delivered read err t' returned
      have delivers := t.read_delivers size returned
      obtain ⟨chain, bytes⟩ := ih t'
      cases delivered with
      | none =>
        obtain ⟨acked, buffer⟩ := delivers
        simp only [List.filterMap_cons, List.map_cons, List.flatten_cons, List.append_assoc]
        rw [← acked, bytes, ← List.append_assoc, buffer]
        exact ⟨chain, rfl⟩
      | some p =>
        obtain ⟨next, acked, buffer⟩ := delivers
        simp only [List.filterMap_cons, List.map_cons, List.flatten_cons, List.append_assoc,
          List.chain_cons]
        rw [← acked, bytes, ← List.append_assoc, buffer, List.append_assoc]
        exact ⟨⟨acked.trans next, chain⟩, rfl⟩
    · simp
    · simp

/-- Two arrival orders the control channel mishandles, with an `ackQueue` of capacity 3 and
16-byte reads. Arrivals 2, 3, 1: the first read delivers packet 1, but the second takes 3 off
the queue, puts it back behind 2 and reads the carrier a fourth time instead of delivering 2.
Arrivals 1, 1, 2: two reads deliver 1 and 2, and the duplicate of the delivered 1 stays queued. -/
theorem read_reordered_and_duplicate_arrivals :
    (TLSConn.readAll ⟨[.ok ⟨2, [2]⟩, .ok ⟨3, [3]⟩, .ok ⟨1, [1]⟩], [], 3, 0, [], []⟩ [16, 16]).1 =
        [(some ⟨1, [1]⟩, [1], none), (none, [], some .eof)] ∧
      TLSConn.readAll ⟨[.ok ⟨1, [1]⟩, .ok ⟨1, [1]⟩, .ok ⟨2, [2]⟩], [], 3, 0, [], []⟩ [16, 16] =
        ([(some ⟨1, [1]⟩, [1], none), (some ⟨2, [2]⟩, [2], none)],
          ⟨[], [⟨1, [1]⟩], 3, 2, [], []⟩) := by
  decide

end MiniVpn.Transport
