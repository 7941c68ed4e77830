import MiniVpn.Model.Session.Manager

/-! # The session's identity over a run

No method of the manager writes the local session id or the key id, and `SetRemoteSessionID`
panics rather than overwrite a remote session id. So over any run of requests the local id and
the key id stay as `NewManager` set them (the key id stays 0: the manager never rekeys), a
remote id once learned is kept, and every packet a call builds carries the local id, the key id
and, as its remote session id, either the zero id (a hard reset, or a packet built before the
remote id is known) or the remote id the manager holds at that call, never another.
-/

namespace MiniVpn.Session

/-- The local session id, the key id and the remote session id of one manager are those of
another, the remote id being kept only once it is known. -/
structure SameIdentity (m m' : Manager) : Prop where
  local_eq : m'.localSessionID = m.localSessionID
  keyID_eq : m'.keyID = m.keyID
  remote_kept : ∀ remote, m.remoteSessionID = some remote → m'.remoteSessionID = some remote

private theorem SameIdentity.refl (m : Manager) : SameIdentity m m :=
  ⟨rfl, rfl, fun _ known => known⟩

private theorem SameIdentity.trans {m₁ m₂ m₃ : Manager} (first : SameIdentity m₁ m₂)
    (second : SameIdentity m₂ m₃) : SameIdentity m₁ m₃ :=
  ⟨second.local_eq.trans first.local_eq, second.keyID_eq.trans first.keyID_eq,
    fun remote known => second.remote_kept remote (first.remote_kept remote known)⟩

/-- A packet built by manager `m` carries its identity: the local session id, the key id and
the zero id or `m`'s remote id. -/
structure Stamped (m : Manager) (p : Packet) : Prop where
  local_eq : p.localSessionID = m.localSessionID
  keyID_eq : p.keyID = m.keyID
  remote_eq : p.remoteSessionID = .zero ∨ m.remoteSessionID = some p.remoteSessionID

/-- What one served call does to the identity, and to the packet it returns. -/
def Reply.Stamped (m : Manager) : Reply → Prop
  | .packet p => Session.Stamped m p
  | _ => True

private theorem Manager.sameIdentity_of_locked {m m' : Manager} {pid : PacketID}
    (locked : m.localControlPacketIDLocked = .ok (pid, m') ∨
      m.localDataPacketIDLocked = .ok (pid, m')) : SameIdentity m m' := by
  rcases locked with locked | locked <;>
  · simp only [Manager.localControlPacketIDLocked, Manager.localDataPacketIDLocked, nextPacketID]
      at locked
    split at locked
    · cases locked
    · cases locked
      exact ⟨rfl, rfl, fun _ known => known⟩

private theorem Manager.newPacket_identity {ops : Opcodes} {m m' : Manager} {opcode : Opcode}
    {payload : Bytes} {p : Packet} (built : m.newPacket ops opcode payload = .ok (p, m')) :
    SameIdentity m m' ∧ Stamped m p := by
  unfold Manager.newPacket at built
  generalize drawn : (if ops.isControl opcode then m.localControlPacketIDLocked
    else m.localDataPacketIDLocked) = locked at built
  cases locked with
  | error err => cases built
  | ok result =>
    obtain ⟨pid, m''⟩ := result
    have same : SameIdentity m m'' := Manager.sameIdentity_of_locked (by
      split at drawn
      · exact .inl drawn
      · exact .inr drawn)
    cases remote : m.remoteSessionID <;> rw [remote] at built <;> cases built
    · exact ⟨same, rfl, rfl, .inl rfl⟩
    · exact ⟨same, rfl, rfl, .inr remote⟩

private theorem Manager.step_identity {ops : Opcodes} {m m' : Manager} {r : Request} {reply : Reply}
    (served : m.step ops r = some (reply, m')) : SameIdentity m m' ∧ reply.Stamped m := by
  cases r with
  | newPacket opcode payload =>
    simp only [Manager.step] at served
    split at served <;> rename_i built <;> cases served
    · exact Manager.newPacket_identity built
    · exact ⟨SameIdentity.refl m, trivial⟩
  | newHardResetPacket =>
    cases served
    exact ⟨SameIdentity.refl m, rfl, rfl, .inl rfl⟩
  | localDataPacketID =>
    simp only [Manager.step] at served
    split at served <;> rename_i locked <;> cases served
    · exact ⟨Manager.sameIdentity_of_locked (.inr locked), trivial⟩
    · exact ⟨SameIdentity.refl m, trivial⟩
  | newACKForPacketIDs ids =>
    simp only [Manager.step, Manager.newACKForPacketIDs] at served
    split at served <;> rename_i built <;> cases served
    · split at built <;> rename_i remote <;> cases built
      exact ⟨SameIdentity.refl m, rfl, rfl, .inr remote⟩
    · exact ⟨SameIdentity.refl m, trivial⟩
  | setRemoteSessionID remote =>
    simp only [Manager.step, Manager.setRemoteSessionID] at served
    split at served <;> rename_i unset
    · cases served
      refine ⟨⟨rfl, rfl, fun known learned => ?_⟩, trivial⟩
      simp [learned] at unset
    · cases served
  | setNegotiationState sns =>
    cases served
    exact ⟨⟨rfl, rfl, fun _ known => known⟩, trivial⟩
  | initTunnelInfo remoteOption =>
    simp only [Manager.step, Manager.initTunnelInfo] at served
    split at served <;> rename_i parsed <;> cases served
    · cases info : newTunnelInfoFromRemoteOptionsString remoteOption <;>
        rw [info] at parsed <;> cases parsed
      exact ⟨⟨rfl, rfl, fun _ known => known⟩, trivial⟩
    · exact ⟨SameIdentity.refl m, trivial⟩
  | updateTunnelInfo ti =>
    cases served
    exact ⟨⟨rfl, rfl, fun _ known => known⟩, trivial⟩

/-- Over any run of requests the local session id and the key id never change, a remote session
id known at the start is kept, and every packet a call returns carries the local session id, the
key id, and as remote session id either the zero id or the one the manager holds at that call. -/
theorem Manager.run_keeps_identity (ops : Opcodes) :
    ∀ (m : Manager) (requests : List Request), ∀ c ∈ m.run ops requests,
      SameIdentity m c.before ∧ SameIdentity m c.after ∧ c.reply.Stamped c.before
  | _, [] => by simp [Manager.run]
  | m, r :: rs => by
    cases served : m.step ops r with
    | none => simp [Manager.run, served]
    | some result =>
      obtain ⟨reply, m'⟩ := result
      obtain ⟨same, stamped⟩ := Manager.step_identity served
      simp only [Manager.run, served, List.mem_cons, forall_eq_or_imp]
      refine ⟨⟨SameIdentity.refl m, same, stamped⟩, fun c later => ?_⟩
      obtain ⟨before, after, stamped'⟩ := Manager.run_keeps_identity ops m' rs c later
      exact ⟨same.trans before, same.trans after, stamped'⟩

/-- The remote session id learned, then a control packet built: the packet carries the local
session id, key id 0 and the remote session id. -/
theorem run_keeps_identity_after_remote_id :
    let ops : Opcodes := ⟨fun opcode => opcode != 9, 7, 5⟩
    let m := newManager ⟨[1, 2, 3, 4, 5, 6, 7, 8], rfl⟩
    let remote : SessionID := ⟨[8, 7, 6, 5, 4, 3, 2, 1], rfl⟩
    let c : Call := ⟨.newPacket 4 [42],
      .packet ⟨4, 0, [0, 0, 0], m.localSessionID, [], remote, 1, [42]⟩,
      { m with remoteSessionID := some remote },
      { m with localControlPacketID := 2, remoteSessionID := some remote }⟩
    c ∈ m.run ops [.setRemoteSessionID remote, .newPacket 4 [42]] ∧
      SameIdentity m c.before ∧ SameIdentity m c.after ∧ c.reply.Stamped c.before := by
  intro ops m remote c
  have member : c ∈ m.run ops [.setRemoteSessionID remote, .newPacket 4 [42]] :=
    List.mem_cons_of_mem _ (List.mem_singleton_self c)
  exact ⟨member, Manager.run_keeps_identity ops m _ c member⟩

end MiniVpn.Session
