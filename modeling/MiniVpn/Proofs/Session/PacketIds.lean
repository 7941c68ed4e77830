import MiniVpn.Model.Session.Manager

/-! # Packet-id discipline of the session manager

Each channel's counter is only ever read and bumped by the shared body `nextPacketID`, which
refuses to hand out `math.MaxUint32`. From one step lemma per channel, which says everything a
request can do to that counter, follows what a whole run of requests hands out: strictly
increasing ids from 1 to below `math.MaxUint32` per channel, the hard reset's id 0 with no counter
consumed,
and, once a counter sits at `math.MaxUint32`, a channel that only fails and never changes the
manager again.
-/

namespace MiniVpn.Session

/-! ## The two counters -/

/-- The two local packet-id counters: control packets, and data packets. -/
inductive Channel where
  | control
  | data
  deriving DecidableEq

/-- A channel's counter. -/
def Manager.counter (m : Manager) : Channel → PacketID
  | .control => m.localControlPacketID
  | .data => m.localDataPacketID

/-- Overwrite a channel's counter. -/
def Manager.setCounter (m : Manager) : Channel → PacketID → Manager
  | .control, v => { m with localControlPacketID := v }
  | .data, v => { m with localDataPacketID := v }

/-- The channel whose counter `NewPacket` draws from for an opcode. -/
def Opcodes.channelOf (ops : Opcodes) (opcode : Opcode) : Channel :=
  if ops.isControl opcode then .control else .data

/-- The channel whose counter a request draws from, if any. -/
def Request.channel? (ops : Opcodes) : Request → Option Channel
  | .newPacket opcode _ => some (ops.channelOf opcode)
  | .localDataPacketID => some .data
  | _ => none

/-- The id a served call handed out on a channel. -/
def Call.handedOut (ops : Opcodes) (ch : Channel) (c : Call) : Option PacketID :=
  if c.request.channel? ops = some ch then
    match c.reply with
    | .packet p => some p.id
    | .packetID id => some id
    | _ => none
  else none

@[simp] private theorem Manager.counter_setCounter_self (m : Manager) (ch : Channel) (v : PacketID)
    :
    (m.setCounter ch v).counter ch = v := by
  cases ch <;> rfl

private theorem Manager.counter_setCounter_of_ne (m : Manager) {ch other : Channel} (v : PacketID)
    (distinct : other ≠ ch) : (m.setCounter other v).counter ch = m.counter ch := by
  cases ch <;> cases other <;> first | rfl | exact absurd rfl distinct

private theorem toNat_add_one_of_ne_max {pid : PacketID} (below : pid ≠ maxUint32) :
    (pid + 1).toNat = pid.toNat + 1 := by
  have bound : pid.toNat < 4294967296 := pid.toBitVec.isLt
  have not_max : pid.toNat ≠ 4294967295 := fun top => below (UInt32.toNat.inj top)
  show (pid.toBitVec + (1 : UInt32).toBitVec).toNat = _
  rw [BitVec.toNat_add]
  exact Nat.mod_eq_of_lt (by show pid.toNat + 1 < _; omega)

private theorem toNat_lt_of_ne_max {pid : PacketID} (below : pid ≠ maxUint32) :
    pid.toNat < maxUint32.toNat := by
  have bound : pid.toNat < 4294967296 := pid.toBitVec.isLt
  have not_max : pid.toNat ≠ maxUint32.toNat := fun top => below (UInt32.toNat.inj top)
  have top : maxUint32.toNat = 4294967295 := rfl
  omega

/-! ## One request -/

private theorem Manager.newPacket_cases (ops : Opcodes) (m : Manager) (opcode : Opcode)
    (payload : Bytes) :
    let ch := ops.channelOf opcode
    (m.counter ch = maxUint32 → m.newPacket ops opcode payload = .error .expiredKey) ∧
    (m.counter ch ≠ maxUint32 → ∃ p, p.id = m.counter ch ∧
      m.newPacket ops opcode payload = .ok (p, m.setCounter ch (m.counter ch + 1))) := by
  intro ch
  have locked : (if ops.isControl opcode then m.localControlPacketIDLocked
      else m.localDataPacketIDLocked) = (nextPacketID (m.counter ch)).map fun (pid, next) =>
        (pid, m.setCounter ch next) := by
    simp only [ch, Opcodes.channelOf]
    split <;> rfl
  constructor
  · intro top
    simp only [Manager.newPacket, locked, nextPacketID, top, if_true]
    rfl
  · intro below
    simp only [Manager.newPacket, locked, nextPacketID, below, if_false, Except.map]
    cases m.remoteSessionID <;> exact ⟨_, rfl, rfl⟩

private theorem Manager.step_of_counter_max {ops : Opcodes} {m : Manager} {r : Request}
    {ch : Channel} (drawn : r.channel? ops = some ch) (top : m.counter ch = maxUint32) :
    m.step ops r = some (.failed .expiredKey, m) := by
  cases r with
  | newPacket opcode payload =>
    simp only [Request.channel?, Option.some.injEq] at drawn
    subst drawn
    simp [Manager.step, ((m.newPacket_cases ops opcode payload).1 top)]
  | localDataPacketID =>
    simp only [Request.channel?, Option.some.injEq] at drawn
    subst drawn
    change m.localDataPacketID = maxUint32 at top
    simp only [Manager.step, Manager.localDataPacketIDLocked, nextPacketID, top, if_true]
    rfl
  | _ => simp [Request.channel?] at drawn

private theorem Manager.step_of_counter_ne_max {ops : Opcodes} {m : Manager} {r : Request}
    {ch : Channel} (drawn : r.channel? ops = some ch) (below : m.counter ch ≠ maxUint32) :
    ∃ reply, m.step ops r = some (reply, m.setCounter ch (m.counter ch + 1)) ∧
      Call.handedOut ops ch ⟨r, reply, m, m.setCounter ch (m.counter ch + 1)⟩ =
        some (m.counter ch) := by
  cases r with
  | newPacket opcode payload =>
    simp only [Request.channel?, Option.some.injEq] at drawn
    subst drawn
    obtain ⟨p, id_eq, made⟩ := (m.newPacket_cases ops opcode payload).2 below
    exact ⟨.packet p, by simp [Manager.step, made],
      by simp [Call.handedOut, Request.channel?, id_eq]⟩
  | localDataPacketID =>
    simp only [Request.channel?, Option.some.injEq] at drawn
    subst drawn
    refine ⟨.packetID (m.counter .data), ?_, by simp [Call.handedOut, Request.channel?]⟩
    change m.localDataPacketID ≠ maxUint32 at below
    simp only [Manager.step, Manager.localDataPacketIDLocked, nextPacketID, below, if_false]
    rfl
  | _ => simp [Request.channel?] at drawn

private theorem Manager.counter_initTunnelInfo {m m' : Manager} {remoteOption : String}
    (parsed : m.initTunnelInfo remoteOption = .ok m') (ch : Channel) :
    m'.counter ch = m.counter ch := by
  simp only [Manager.initTunnelInfo] at parsed
  cases h : newTunnelInfoFromRemoteOptionsString remoteOption <;>
    simp only [h, Except.map, Except.ok.injEq, reduceCtorEq] at parsed
  subst parsed
  cases ch <;> rfl

private theorem Manager.counter_step_of_off {ops : Opcodes} {m m' : Manager} {r : Request}
    {reply : Reply} {ch : Channel} (off : r.channel? ops ≠ some ch)
    (served : m.step ops r = some (reply, m')) :
    m'.counter ch = m.counter ch := by
  cases drawn : r.channel? ops with
  | some other =>
    have distinct : other ≠ ch := fun same => off (by rw [drawn, same])
    by_cases top : m.counter other = maxUint32
    · rw [Manager.step_of_counter_max drawn top] at served
      cases served
      rfl
    · obtain ⟨_, stepped, -⟩ := Manager.step_of_counter_ne_max drawn top
      rw [stepped] at served
      cases served
      exact m.counter_setCounter_of_ne _ distinct
  | none =>
    cases r with
    | newPacket | localDataPacketID => simp [Request.channel?] at drawn
    | setRemoteSessionID remote =>
      simp only [Manager.step, Manager.setRemoteSessionID] at served
      split at served <;> simp only [Option.map_some', Option.map_none', Option.some.injEq,
        Prod.mk.injEq, reduceCtorEq] at served
      rw [← served.2]
      cases ch <;> rfl
    | initTunnelInfo remoteOption =>
      simp only [Manager.step] at served
      split at served <;> simp only [Option.some.injEq, Prod.mk.injEq] at served <;> rw [← served.2]
      exact Manager.counter_initTunnelInfo ‹_› ch
    | newACKForPacketIDs ids =>
      simp only [Manager.step] at served
      split at served <;> simp only [Option.some.injEq, Prod.mk.injEq] at served <;> rw [← served.2]
    | _ =>
      simp only [Manager.step, Option.some.injEq, Prod.mk.injEq] at served
      obtain ⟨-, rfl⟩ := served
      cases ch <;> rfl

private theorem Manager.step_counter {ops : Opcodes} {m m' : Manager} {r : Request} {reply : Reply}
    (ch : Channel) (served : m.step ops r = some (reply, m')) :
    (∀ id, Call.handedOut ops ch ⟨r, reply, m, m'⟩ = some id →
      id = m.counter ch ∧ id ≠ maxUint32 ∧ m'.counter ch = id + 1) ∧
    (Call.handedOut ops ch ⟨r, reply, m, m'⟩ = none → m'.counter ch = m.counter ch) := by
  by_cases drawn : r.channel? ops = some ch
  · by_cases top : m.counter ch = maxUint32
    · rw [Manager.step_of_counter_max drawn top] at served
      cases served
      exact ⟨fun id handed => by simp [Call.handedOut] at handed, fun _ => rfl⟩
    · obtain ⟨_, stepped, handed⟩ := Manager.step_of_counter_ne_max drawn top
      rw [stepped] at served
      cases served
      refine ⟨fun id handed' => ?_, fun none' => by simp [handed] at none'⟩
      obtain rfl : m.counter ch = id := Option.some.inj (handed.symm.trans handed')
      exact ⟨rfl, top, by simp⟩
  · have unhanded : Call.handedOut ops ch ⟨r, reply, m, m'⟩ = none := by
      simp [Call.handedOut, drawn]
    exact ⟨fun id handed => by simp [unhanded] at handed,
      fun _ => Manager.counter_step_of_off drawn served⟩

private theorem Manager.counter_step_of_max {ops : Opcodes} {m m' : Manager} {r : Request}
    {reply : Reply} {ch : Channel} (served : m.step ops r = some (reply, m'))
    (top : m.counter ch = maxUint32) :
    m'.counter ch = maxUint32 := by
  have spec := m.step_counter ch served
  cases handed : Call.handedOut ops ch ⟨r, reply, m, m'⟩ with
  | none => rw [spec.2 handed, top]
  | some id => exact absurd ((spec.1 id handed).1.trans top) (spec.1 id handed).2.1

/-! ## Whole runs -/

private theorem Manager.step_of_mem_run {ops : Opcodes} :
    ∀ {m : Manager} {rs : List Request} {c : Call}, c ∈ m.run ops rs →
      c.before.step ops c.request = some (c.reply, c.after)
  | _, [], _, member => by simp [Manager.run] at member
  | m, r :: rs, c, member => by
    simp only [Manager.run] at member
    split at member
    · rename_i reply m' served
      rcases List.mem_cons.mp member with rfl | later
      · exact served
      · exact Manager.step_of_mem_run later
    · simp at member

private theorem Manager.run_handedOut (ops : Opcodes) (ch : Channel) :
    ∀ (m : Manager) (rs : List Request),
      (∀ id ∈ (m.run ops rs).filterMap (Call.handedOut ops ch),
        (m.counter ch).toNat ≤ id.toNat ∧ id.toNat < maxUint32.toNat) ∧
      (((m.run ops rs).filterMap (Call.handedOut ops ch)).map UInt32.toNat).Pairwise (· < ·)
  | _, [] => by simp [Manager.run]
  | m, r :: rs => by
    cases served : m.step ops r with
    | none => simp [Manager.run, served]
    | some result =>
      obtain ⟨reply, m'⟩ := result
      obtain ⟨later, increasing⟩ := Manager.run_handedOut ops ch m' rs
      have spec := m.step_counter ch served
      simp only [Manager.run, served, List.filterMap_cons]
      cases handed : Call.handedOut ops ch ⟨r, reply, m, m'⟩ with
      | none =>
        rw [spec.2 handed] at later
        exact ⟨later, increasing⟩
      | some id =>
        obtain ⟨rfl, below, bumped⟩ := spec.1 id handed
        have next := toNat_add_one_of_ne_max below
        rw [bumped, next] at later
        refine ⟨?_, ?_⟩
        · intro id' member
          rcases List.mem_cons.mp member with rfl | member
          · exact ⟨le_refl _, toNat_lt_of_ne_max below⟩
          · have := later id' member
            omega
        · simp only [List.map_cons, List.pairwise_cons, List.mem_map]
          refine ⟨?_, increasing⟩
          rintro _ ⟨id', member, rfl⟩
          have := later id' member
          omega

private theorem Manager.run_of_counter_max (ops : Opcodes) (ch : Channel) :
    ∀ (m : Manager) (rs : List Request), m.counter ch = maxUint32 →
      ∀ c ∈ m.run ops rs, c.request.channel? ops = some ch →
        c.reply = .failed .expiredKey ∧ c.after = c.before
  | _, [], _ => by simp [Manager.run]
  | m, r :: rs, top => by
    cases served : m.step ops r with
    | none => simp [Manager.run, served]
    | some result =>
      obtain ⟨reply, m'⟩ := result
      simp only [Manager.run, served, List.mem_cons, forall_eq_or_imp]
      refine ⟨fun drawn => ?_, Manager.run_of_counter_max ops ch m' rs
        (Manager.counter_step_of_max served top)⟩
      rw [Manager.step_of_counter_max drawn top] at served
      cases served
      exact ⟨rfl, rfl⟩

/-- Packet-id discipline: on each channel the ids a run from `NewManager` hands out are
strictly increasing, at least 1 and below `math.MaxUint32`; the hard reset always gets id 0 and
leaves the
manager, both counters included, unchanged; and from a counter at `math.MaxUint32` on, every
request on that channel fails with `ErrExpiredKey` and leaves the whole manager unchanged. -/
theorem packet_id_discipline (ops : Opcodes) (random : SessionID) (rs : List Request) :
    (∀ ch : Channel,
      (∀ id ∈ ((newManager random).run ops rs).filterMap (Call.handedOut ops ch),
        1 ≤ id.toNat ∧ id.toNat < maxUint32.toNat) ∧
      ((((newManager random).run ops rs).filterMap (Call.handedOut ops ch)).map
        UInt32.toNat).Pairwise (· < ·)) ∧
    (∀ c ∈ (newManager random).run ops rs, c.request = .newHardResetPacket →
      (∃ p, c.reply = .packet p ∧ p.id = 0) ∧ c.after = c.before) ∧
    (∀ (m : Manager) (ch : Channel) (rs' : List Request), m.counter ch = maxUint32 →
      ∀ c ∈ m.run ops rs', c.request.channel? ops = some ch →
        c.reply = .failed .expiredKey ∧ c.after = c.before) := by
  refine ⟨fun ch => ?_, fun c member reset => ?_,
    fun m ch rs' => Manager.run_of_counter_max ops ch m rs'⟩
  · obtain ⟨bounds, increasing⟩ := Manager.run_handedOut ops ch (newManager random) rs
    have start : ((newManager random).counter ch).toNat = 1 := by cases ch <;> rfl
    refine ⟨fun id member => ?_, increasing⟩
    have := bounds id member
    omega
  · have served := Manager.step_of_mem_run member
    rw [reset] at served
    simp only [Manager.step, Option.some.injEq, Prod.mk.injEq] at served
    exact ⟨⟨_, served.1.symm, rfl⟩, served.2.symm⟩

end MiniVpn.Session
