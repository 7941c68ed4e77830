import MiniVpn.Model.Extras.Pinger

/-! # What the pinger prints

`Run` counts a packet as received as soon as `conn.Read` returns, before `parseEchoReply` decides
whether it is an echo reply to record, so every round keeps `packetsRecv ≤ packetsSent` and
`len(st) ≤ packetsRecv`. Two consequences for `Stop`. The loss it prints,
`(packetsRecv / packetsSent) / 100` in integer division, is `0%` after every run, however many
packets went unanswered. And a run that sent a packet but recorded no reply, because every reply
was rejected (sent from another address, as a router's ICMP error is, or carrying another id) or
the read failed, makes `printStats` index `p.st[0]` of an empty slice: `Stop` panics.
-/

namespace MiniVpn.Extras

section Rounds

variable (decode : Bytes → Except GoError Decoded) (dst : String)

private theorem Pinger.parseEchoReply_eq (p : Pinger) (d : Bytes) (elapsed : Nat) :
    ∃ more : List St, more.length ≤ 1 ∧ (p.echoReply decode d dst = none → more = []) ∧
      p.parseEchoReply decode d dst elapsed = { p with st := p.st ++ more } := by
  unfold Pinger.parseEchoReply
  split <;> rename_i replied
  · exact ⟨[], le_of_lt Nat.one_pos, fun _ => rfl, by simp⟩
  · exact ⟨[⟨elapsed, _⟩], le_rfl, fun rejected => by simp [replied] at rejected, rfl⟩

private theorem Pinger.round_eq (r : Round) (p : Pinger) : ∃ sent recv : Nat, ∃ more : List St,
    recv ≤ sent ∧ sent ≤ 1 ∧ more.length ≤ recv ∧ (r.write = none → sent = 1) ∧
    ((∀ received, r.read = .ok received →
      p.echoReply decode (replyBuffer received) dst = none) → more = []) ∧
    (p.round decode dst r).2 = { p with
      packetsSent := p.packetsSent + sent, packetsRecv := p.packetsRecv + recv,
      st := p.st ++ more } := by
  unfold Pinger.round
  cases written : r.write with
  | some err => exact ⟨0, 0, [], le_rfl, Nat.zero_le _, le_rfl, nofun, fun _ => rfl, by simp⟩
  | none =>
    cases read : r.read with
    | error err =>
      exact ⟨1, 0, [], Nat.zero_le _, le_rfl, le_rfl, fun _ => rfl, fun _ => rfl, by simp⟩
    | ok received =>
      obtain ⟨more, short, rejected, parsed⟩ := Pinger.parseEchoReply_eq decode dst
        { p with packetsSent := p.packetsSent + 1, packetsRecv := p.packetsRecv + 1 }
        (replyBuffer received) r.elapsed
      exact ⟨1, 1, more, le_rfl, le_rfl, short, fun _ => rfl,
        fun unparsed => rejected (unparsed received rfl), parsed⟩

private theorem Pinger.echoReply_congr {p q : Pinger} (host_eq : p.host = q.host)
    (id_eq : p.id = q.id) (d : Bytes) : p.echoReply decode d dst = q.echoReply decode d dst := by
  have checks : p.checkLayer dst = q.checkLayer dst := by
    funext decoded layer
    cases layer <;> simp only [Pinger.checkLayer, host_eq, id_eq]
  simp only [Pinger.echoReply, checks]

variable (net : Nat → Round) {P : Pinger → Prop}
  (round : ∀ i p, P p → P (p.round decode dst (net i)).2)
include round

private theorem Pinger.runRounds_keeps : ∀ i n p, P p → P (Pinger.runRounds decode dst net i n p).2
  | _, 0, _, holds => holds
  | i, n + 1, p, holds => by
    have next := round i p holds
    simp only [Pinger.runRounds]
    split <;> rename_i rounded <;> rw [rounded] at next
    · exact next
    · exact Pinger.runRounds_keeps (i + 1) n _ next

private theorem Pinger.runRounds_succ_keeps {i n : Nat} {p : Pinger}
    (first : P (p.round decode dst (net i)).2) :
    P (Pinger.runRounds decode dst net i (n + 1) p).2 := by
  simp only [Pinger.runRounds]
  split <;> rename_i rounded <;> rw [rounded] at first
  · exact first
  · exact Pinger.runRounds_keeps decode dst net round (i + 1) n _ first

end Rounds

private theorem Pinger.run_keeps (decode : Bytes → Except GoError Decoded)
    (dial : Except GoError String) (net : Nat → Round) {P : Pinger → Prop}
    (round : ∀ dst i p, P p → P (p.round decode dst (net i)).2) {p : Pinger} (holds : P p) :
    P (p.run decode dial net).2 := by
  unfold Pinger.run
  split
  · exact holds
  · exact Pinger.runRounds_keeps decode _ net (round _) 0 _ p holds

/-! ## The counts -/

/-- The counts of a pinger, as every round of `Run` keeps them: a packet is counted as received
only after one was counted as sent, and a reply is recorded only for a received packet. -/
structure Counted (p : Pinger) : Prop where
  recv_le_sent : p.packetsRecv ≤ p.packetsSent
  st_le_recv : p.st.length ≤ p.packetsRecv

private theorem Pinger.round_counted (decode : Bytes → Except GoError Decoded) (dst : String)
    (r : Round) {p : Pinger} (counted : Counted p) : Counted (p.round decode dst r).2 := by
  obtain ⟨sent, recv, more, recv_le, -, more_le, -, -, rounded⟩ := Pinger.round_eq decode dst r p
  have := counted.recv_le_sent
  have := counted.st_le_recv
  rw [rounded]
  constructor <;> simp only [List.length_append] <;> omega

private theorem Counted.loss_eq_zero {p : Pinger} (counted : Counted p) : p.loss = 0 := by
  have at_most_one : p.packetsRecv / p.packetsSent ≤ 1 :=
    Nat.div_le_of_le_mul (by simpa using counted.recv_le_sent)
  exact Nat.div_eq_of_lt (by omega)

/-- Whatever `Dial` and the network do, `Stop` after `Run` prints nothing (no packet sent), the
header alone (before it panics, see below), or the header, the counts line with a loss of `0%`
and the rtt line of the recorded stats, even when packets went unanswered: the loss is computed
as `(packetsRecv / packetsSent) / 100`, and `Run` never counts more received than sent. -/
theorem Pinger.stop_prints_zero_loss {F : Type} (ops : Float32Ops F)
    (decode : Bytes → Except GoError Decoded) (pid : Nat) (host : String) (count : Int)
    (dial : Except GoError String) (net : Nat → Round) :
    let p := ((newPinger pid host count).run decode dial net).2
    (p.stop ops).1 = [] ∨ (p.stop ops).1 = [statsHeader host] ∨
      ∃ first rest, p.st = first :: rest ∧ (p.stop ops).1 =
        [statsHeader host, countsLine p.packetsSent p.packetsRecv 0, rttLine ops first rest] := by
  intro p
  have counted : Counted p :=
    Pinger.run_keeps decode dial net (fun dst _ _ => Pinger.round_counted decode dst _)
      ⟨le_rfl, le_rfl⟩
  have host_eq : p.host = host :=
    Pinger.run_keeps decode dial net (P := fun p => p.host = host) (fun dst i q kept => by
      obtain ⟨_, _, _, -, -, -, -, -, rounded⟩ := Pinger.round_eq decode dst (net i) q
      rw [rounded]
      exact kept) rfl
  unfold Pinger.stop Pinger.printStats
  rw [host_eq, counted.loss_eq_zero]
  split
  · exact .inl rfl
  · split
    · exact .inr (.inl rfl)
    · rename_i first rest stats
      exact .inr (.inr ⟨first, rest, stats, rfl⟩)

/-! ## The panic -/

private def Quiet (q p : Pinger) : Prop :=
  p.host = q.host ∧ p.id = q.id ∧ p.st = []

/-- If `Dial` succeeds, `Count` is positive and the first echo request is written, but no reply
read gets past `parseEchoReply`'s checks (or the read fails), then `Stop` prints the header and
panics: `printStats` reads `p.st[0]` with no stats recorded. -/
theorem Pinger.stop_panics_without_replies {F : Type} (ops : Float32Ops F)
    (decode : Bytes → Except GoError Decoded) (pid : Nat) (host : String) {count : Int}
    (positive : 0 < count) (dst : String) (net : Nat → Round) (written : (net 0).write = none)
    (rejected : ∀ i received, (net i).read = .ok received →
      (newPinger pid host count).echoReply decode (replyBuffer received) dst = none) :
    ((newPinger pid host count).run decode (.ok dst) net).2.stop ops =
      ([statsHeader host], some (.panic "index out of range [0] with length 0")) := by
  obtain ⟨n, rounds⟩ : ∃ n, (newPinger pid host count).count.toNat = n + 1 :=
    ⟨count.toNat - 1, show count.toNat = count.toNat - 1 + 1 by omega⟩
  have quiet : ∀ i p, Quiet (newPinger pid host count) p →
      Quiet (newPinger pid host count) (p.round decode dst (net i)).2 := by
    rintro i p ⟨host_eq, id_eq, st_nil⟩
    obtain ⟨_, _, more, -, -, -, -, unparsed, rounded⟩ := Pinger.round_eq decode dst (net i) p
    have nothing : more = [] := unparsed fun received read =>
      (Pinger.echoReply_congr decode dst host_eq id_eq _).trans (rejected i received read)
    rw [rounded]
    exact ⟨host_eq, id_eq, by simp [st_nil, nothing]⟩
  have sent : ∀ i (p : Pinger), 0 < p.packetsSent →
      0 < (p.round decode dst (net i)).2.packetsSent := by
    intro i p positive
    obtain ⟨_, _, _, -, -, -, -, -, rounded⟩ := Pinger.round_eq decode dst (net i) p
    rw [rounded]
    exact Nat.lt_add_right _ positive
  obtain ⟨one, _, _, -, -, -, wrote, -, rounded⟩ :=
    Pinger.round_eq decode dst (net 0) (newPinger pid host count)
  obtain ⟨⟨host_eq, -, st_nil⟩, sent_pos⟩ :=
    Pinger.runRounds_succ_keeps decode dst net (n := n)
      (P := fun p => Quiet (newPinger pid host count) p ∧ 0 < p.packetsSent)
      (fun i p kept => ⟨quiet i p kept.1, sent i p kept.2⟩)
      ⟨quiet 0 _ ⟨rfl, rfl, rfl⟩, by rw [rounded, wrote written]; exact Nat.one_pos⟩
  simp only [Pinger.run, rounds, Pinger.stop, Pinger.printStats, Nat.pos_iff_ne_zero.mp sent_pos,
    if_false, st_nil, host_eq]
  rfl

/-- A router answers each echo request with an ICMP error: the replies come from the router, not
the pinged host, so none is recorded, and `Stop` panics. -/
theorem stop_panics_on_router_replies :
    let decode : Bytes → Except GoError Decoded :=
      fun _ => .ok ⟨[.ipv4, .icmpv4, .payload], "10.8.0.1", "10.8.0.2", 64, 0⟩
    let net : Nat → Round := fun _ => ⟨none, .ok [0x45], 900⟩
    let ops : Float32Ops Unit := ⟨fun _ => (), fun _ _ => (), fun _ _ => (), fun _ _ => (),
      fun _ _ => false, id, id, fun _ => "0.000"⟩
    (0 : Int) < 3 ∧ (net 0).write = none ∧
      (∀ i received, (net i).read = .ok received →
        (newPinger 4242 "10.0.0.1" 3).echoReply decode (replyBuffer received) "10.8.0.2" = none) ∧
      ((newPinger 4242 "10.0.0.1" 3).run decode (.ok "10.8.0.2") net).2.stop ops =
        ([statsHeader "10.0.0.1"], some (.panic "index out of range [0] with length 0")) := by
  intro decode net ops
  exact ⟨by decide, rfl, fun _ _ _ => rfl, Pinger.stop_panics_without_replies ops decode 4242
    "10.0.0.1" (by decide) "10.8.0.2" net rfl fun _ _ _ => rfl⟩

end MiniVpn.Extras
