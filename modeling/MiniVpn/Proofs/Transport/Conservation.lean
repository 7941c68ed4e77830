import MiniVpn.Model.Transport.TlsConn

/-! # No control packet is lost but by a failed acknowledgement

`TLSConn.Read` moves each packet it reads off the carrier either to the caller or into
`ackQueue`, and each packet it takes from the queue either to the caller or back into the queue,
except the packet whose `sendACKFn` call fails: `Read` returns that error and the packet is
gone. So over any run of reads, the packets queued at the start together with those read off the
carrier are, as a multiset, the packets delivered, the packets dropped and those still queued,
with as many dropped as acknowledgements failed. Duplicates included, nothing else is dropped: a
packet that can never be delivered stays queued for good (the control channel's failure of
liveness), but it is never lost. A read that blocks on a full queue ends the run before it
changes anything.
-/

namespace MiniVpn.Transport

/-- The packets a sequence of carrier reads yielded; failed reads yield none. -/
def packetsOf (taken : List (Except GoError ControlPacket)) : List ControlPacket :=
  taken.filterMap Except.toOption

@[simp] private theorem packetsOf_append (first rest : List (Except GoError ControlPacket)) :
    packetsOf (first ++ rest) = packetsOf first ++ packetsOf rest :=
  List.filterMap_append _ _ _

/-- Going from `t` to `t'`, some results were read off the carrier, some outcomes of
`sendACKFn` used up and `delivered` handed out, and every packet that was queued or read is
delivered, dropped or queued, as often as it came, with one packet dropped per failed
acknowledgement. -/
def Conserves (t t' : TLSConn) (delivered : List ControlPacket) : Prop :=
  ∃ taken used dropped, t.carrier = taken ++ t'.carrier ∧ t.acks = used ++ t'.acks ∧
    dropped.length = (used.filterMap fun e => e).length ∧
    (t.ackQueue ++ packetsOf taken).Perm (delivered ++ dropped ++ t'.ackQueue)

private theorem Conserves.of_eq {t t' : TLSConn} (carrier : t'.carrier = t.carrier)
    (acks : t'.acks = t.acks) (queue : t'.ackQueue = t.ackQueue) : Conserves t t' [] :=
  ⟨[], [], [], carrier.symm, acks.symm, rfl, by simp [packetsOf, queue]⟩

private theorem Conserves.trans {t₁ t₂ t₃ : TLSConn} {first second : List ControlPacket}
    (before : Conserves t₁ t₂ first) (after : Conserves t₂ t₃ second) :
    Conserves t₁ t₃ (first ++ second) := by
  obtain ⟨taken₁, used₁, dropped₁, carrier₁, acks₁, count₁, moved₁⟩ := before
  obtain ⟨taken₂, used₂, dropped₂, carrier₂, acks₂, count₂, moved₂⟩ := after
  refine ⟨taken₁ ++ taken₂, used₁ ++ used₂, dropped₁ ++ dropped₂,
    by rw [carrier₁, carrier₂, List.append_assoc], by rw [acks₁, acks₂, List.append_assoc],
    by simp [count₁, count₂], ?_⟩
  rw [List.perm_iff_count] at moved₁ moved₂ ⊢
  intro p
  have firstly := moved₁ p
  have secondly := moved₂ p
  simp only [packetsOf_append, List.count_append] at firstly secondly ⊢
  omega

private theorem Conserves.drop {t₀ t t' : TLSConn} {p : ControlPacket} {err : GoError}
    {used : List (Option GoError)} (taken : Conserves t₀ t [p]) (carrier : t'.carrier = t.carrier)
    (acks : t.acks = used ++ t'.acks) (failed : used.filterMap (fun e => e) = [err])
    (queue : t'.ackQueue = t.ackQueue) :
    Conserves t₀ t' [] := by
  obtain ⟨taken, used₀, dropped, carrier₀, acks₀, count, moved⟩ := taken
  refine ⟨taken, used₀ ++ used, dropped ++ [p], by rw [carrier₀, carrier],
    by rw [acks₀, acks, List.append_assoc], by simp [count, failed], ?_⟩
  rw [queue, List.nil_append]
  exact moved.trans (List.perm_append_comm.append_right _)

end MiniVpn.Transport
