import MiniVpn.Model.Transport.Framing

/-! # Stream framing survives any segmentation

On a stream connection `readPacket` returns exactly the packets the peer framed, in order,
however the network cut the byte stream into segments: `io.ReadFull` keeps reading until its
buffer is full, so a length prefix or a body split over several reads is put back together,
and a read never takes bytes of the next frame. A stream that ends inside a frame makes the
read at the cut fail rather than return part of a packet. Conversely, what `readPacket` accepts
is well framed: it takes exactly one frame off the stream, and returns that frame's packet.

Everything rests on one fact about `io.ReadFull`'s loop: with `n` bytes left on the stream and
`size ≤ n` it returns the first `size` of them and leaves the rest, and with fewer than `size`
it fails.
-/

namespace MiniVpn.Transport

/-- The bytes still to come on a connection. -/
def NetConn.stream (c : NetConn) : Bytes := c.segments.flatten

section ReadAtLeast

variable (ending : GoError) (min : Nat)

private theorem readAtLeast_of_le (segments : List Bytes) :
    ∀ got : Bytes, got.length ≤ min → min - got.length ≤ segments.flatten.length →
      ∃ rest : List Bytes,
        readAtLeast ending min got segments =
          ((got ++ segments.flatten.take (min - got.length), none), rest) ∧
        rest.flatten = segments.flatten.drop (min - got.length) := by
  induction segments with
  | nil =>
    intro got room enough
    have full : got.length = min := by
      simp only [List.flatten_nil, List.length_nil] at enough
      omega
    exact ⟨[], by simp [readAtLeast, full], by simp⟩
  | cons segment rest ih =>
    intro got room enough
    simp only [List.flatten_cons, List.length_append] at enough ⊢
    by_cases short : got.length < min
    · by_cases fits : segment.length ≤ min - got.length
      · obtain ⟨rest', read, flat⟩ := ih (got ++ segment) (by rw [List.length_append]; omega)
          (by rw [List.length_append]; omega)
        refine ⟨rest', ?_, ?_⟩
        · rw [readAtLeast, if_pos short, if_pos fits, read, List.take_append_eq_append_take,
            List.take_of_length_le fits, List.append_assoc, List.length_append,
            Nat.sub_add_eq]
        · rw [flat, List.drop_append_eq_append_drop, List.drop_of_length_le fits, List.nil_append,
            List.length_append, Nat.sub_add_eq]
      · have over : min - got.length - segment.length = 0 := by omega
        refine ⟨segment.drop (min - got.length) :: rest, ?_, ?_⟩
        · rw [readAtLeast, if_pos short, if_neg fits, List.take_append_eq_append_take, over,
            List.take_zero, List.append_nil]
        · rw [List.drop_append_eq_append_drop, over, List.drop_zero, List.flatten_cons]
    · have full : min - got.length = 0 := by omega
      exact ⟨segment :: rest, by simp [readAtLeast, short, full], by simp [full]⟩

private theorem readAtLeast_of_lt (segments : List Bytes) :
    ∀ got : Bytes, got.length + segments.flatten.length < min →
      ∃ read err, readAtLeast ending min got segments = ((read, some err), []) := by
  induction segments with
  | nil => intro got short; exact ⟨got, _, by rw [readAtLeast, if_pos (by simpa using short)]⟩
  | cons segment rest ih =>
    intro got short
    simp only [List.flatten_cons, List.length_append] at short
    rw [readAtLeast, if_pos (by omega), if_pos (by omega)]
    exact ih (got ++ segment) (by simp only [List.length_append]; omega)

end ReadAtLeast

private theorem NetConn.readFull_of_le (c : NetConn) (size : Nat) (enough : size ≤ c.stream.length)
    :
    ∃ segments : List Bytes, c.readFull size = ((c.stream.take size, none), { c with segments }) ∧
      segments.flatten = c.stream.drop size := by
  obtain ⟨rest, read, flat⟩ := readAtLeast_of_le c.ending size c.segments [] (Nat.zero_le _) enough
  exact ⟨rest, by rw [NetConn.readFull, read]; rfl, flat⟩

private theorem NetConn.readFull_of_lt (c : NetConn) (size : Nat) (short : c.stream.length < size) :
    ∃ read err, c.readFull size = ((read, some err), { c with segments := [] }) := by
  obtain ⟨read, err, failed⟩ := readAtLeast_of_lt c.ending size c.segments []
    (by rw [List.length_nil, Nat.zero_add]; exact short)
  exact ⟨read, err, by rw [NetConn.readFull, failed]⟩

private theorem NetConn.readFull_ok (c : NetConn) (size : Nat) {read : Bytes} {c' : NetConn}
    (ok : c.readFull size = ((read, none), c')) :
    read.length = size ∧ c.stream = read ++ c'.stream ∧ c'.network = c.network := by
  by_cases enough : size ≤ c.stream.length
  · obtain ⟨segments, full, flat⟩ := c.readFull_of_le size enough
    rw [full] at ok
    cases ok
    refine ⟨List.length_take_of_le enough, ?_, rfl⟩
    show c.stream = c.stream.take size ++ segments.flatten
    rw [flat, List.take_append_drop]
  · obtain ⟨read', err, failed⟩ := c.readFull_of_lt size (by omega)
    rw [failed] at ok
    cases ok

private theorem bigEndianUint16_sizeFrame (payload : Bytes) (short : payload.length < 65536) :
    bigEndianUint16 ((sizeFrame payload).take 2) = payload.length := by
  simp only [sizeFrame, bigEndianUint16, List.cons_append, List.nil_append, List.take_succ_cons,
    List.take_zero, List.getD_cons_zero, List.getD_cons_succ, UInt8.toNat_ofNat_mod]
  omega

private theorem bigEndianUint16_lt (header : Bytes) : bigEndianUint16 header < 65536 := by
  have high : (header.getD 0 0).toNat < 256 := (header.getD 0 0).toBitVec.isLt
  have low : (header.getD 1 0).toNat < 256 := (header.getD 1 0).toBitVec.isLt
  rw [bigEndianUint16]
  omega

private theorem sizeFrame_of_header {header : Bytes} (body : Bytes) (two : header.length = 2)
    (sized : body.length = bigEndianUint16 header) : sizeFrame body = header ++ body := by
  match header, two with
  | [high, low], _ =>
    have high_lt : high.toNat < 256 := high.toBitVec.isLt
    have low_lt : low.toNat < 256 := low.toBitVec.isLt
    simp only [sizeFrame, sized, bigEndianUint16, List.getD_cons_zero, List.getD_cons_succ]
    rw [UInt8.ofNat_eq_of_mod _ high (by omega), UInt8.ofNat_eq_of_mod _ low (by omega)]

private theorem readPacketFromTCP_of_frame (c : NetConn) {packet more : Bytes}
    (short : packet.length < 65536) (framed : c.stream = sizeFrame packet ++ more) :
    ∃ segments : List Bytes, readPacketFromTCP c = (.ok packet, { c with segments }) ∧
      segments.flatten = more := by
  have length : c.stream.length = 2 + packet.length + more.length := by
    rw [framed, List.length_append, sizeFrame, List.length_append]
    rfl
  obtain ⟨segments, header, flat⟩ := c.readFull_of_le 2 (by omega)
  have prefixed : c.stream.take 2 = (sizeFrame packet).take 2 := by
    rw [framed, List.take_append_of_le_length (by simp [sizeFrame])]
  have body : { c with segments }.stream = packet ++ more := by
    rw [NetConn.stream, flat, framed]
    rfl
  obtain ⟨segments', read, flat'⟩ := NetConn.readFull_of_le { c with segments }
    packet.length (by simp [body])
  refine ⟨segments', ?_, by rw [flat', body, List.drop_left]⟩
  rw [readPacketFromTCP, header]
  dsimp only
  rw [prefixed, bigEndianUint16_sizeFrame packet short, read, body, List.take_left]

private theorem readPacketFromTCP_of_cut (c : NetConn) {packet : Bytes}
    (short : packet.length < 65536) (cut : c.stream <+: sizeFrame packet)
    (unfinished : c.stream ≠ sizeFrame packet) :
    ∃ err c', readPacketFromTCP c = (.error err, c') := by
  obtain ⟨missing, framed⟩ := cut
  have some_missing : 0 < missing.length :=
    List.length_pos.mpr fun none => unfinished (by simpa [none] using framed)
  have length : c.stream.length + missing.length = 2 + packet.length := by
    rw [← List.length_append, framed, sizeFrame, List.length_append]; rfl
  by_cases header : c.stream.length < 2
  · obtain ⟨read, err, failed⟩ := c.readFull_of_lt 2 header
    exact ⟨err, _, by rw [readPacketFromTCP, failed]⟩
  · obtain ⟨segments, read, flat⟩ := c.readFull_of_le 2 (by omega)
    have prefixed : c.stream.take 2 = (sizeFrame packet).take 2 := by
      rw [← framed, List.take_append_of_le_length (by omega)]
    obtain ⟨read', err, failed⟩ := NetConn.readFull_of_lt { c with segments } packet.length
      (by show segments.flatten.length < _; rw [flat, List.length_drop]; omega)
    exact ⟨err, _, by
      rw [readPacketFromTCP, read]
      dsimp only
      rw [prefixed, bigEndianUint16_sizeFrame packet short, failed]⟩

private theorem readPackets_succ (c : NetConn) (count : Nat) :
    (readPackets c (count + 1)).1 = (readPacket c).1 :: (readPackets (readPacket c).2 count).1 :=
  rfl

private theorem readPacket_of_stream (c : NetConn) (stream : c.network ∈ ["tcp", "tcp4", "tcp6"]) :
    readPacket c = readPacketFromTCP c := by
  obtain ⟨network, segments, ending⟩ := c
  simp only [List.mem_cons, List.mem_singleton, List.not_mem_nil, or_false] at stream
  rcases stream with rfl | rfl | rfl <;> rfl

/-- What `readPacket` accepts on a stream network is well framed: the bytes it takes off the
stream are exactly the frame of the packet it returns, which is shorter than `2^16`. -/
theorem readPacket_consumes_frame (c : NetConn) (stream : c.network ∈ ["tcp", "tcp4", "tcp6"])
    {packet : Bytes} {c' : NetConn} (accepted : readPacket c = (.ok packet, c')) :
    packet.length < 65536 ∧ c.stream = sizeFrame packet ++ c'.stream ∧ c'.network = c.network := by
  rw [readPacket_of_stream c stream, readPacketFromTCP] at accepted
  split at accepted
  · cases accepted
  · rename_i lenbuf c₁ header
    split at accepted
    · cases accepted
    · rename_i buf c₂ body
      cases accepted
      obtain ⟨two, first, network₁⟩ := c.readFull_ok 2 header
      obtain ⟨sized, second, network₂⟩ := c₁.readFull_ok _ body
      refine ⟨sized ▸ bigEndianUint16_lt lenbuf, ?_, network₂.trans network₁⟩
      rw [first, second, sizeFrame_of_header _ two sized, List.append_assoc]

/-- A frame that arrives with its length prefix and body in one segment. -/
theorem readPacket_consumes_frame_one_segment :
    (⟨"tcp", [[0, 1, 7]], .eof⟩ : NetConn).network ∈ ["tcp", "tcp4", "tcp6"] ∧
      readPacket ⟨"tcp", [[0, 1, 7]], .eof⟩ = (.ok [7], ⟨"tcp", [], .eof⟩) ∧
      ([7] : Bytes).length < 65536 ∧
      (⟨"tcp", [[0, 1, 7]], .eof⟩ : NetConn).stream =
        sizeFrame [7] ++ (⟨"tcp", [], .eof⟩ : NetConn).stream ∧
      (⟨"tcp", [], .eof⟩ : NetConn).network = (⟨"tcp", [[0, 1, 7]], .eof⟩ : NetConn).network :=
  have accepted : readPacket ⟨"tcp", [[0, 1, 7]], .eof⟩ = (.ok [7], ⟨"tcp", [], .eof⟩) := by decide
  ⟨by decide, accepted, readPacket_consumes_frame _ (by decide) accepted⟩

/-- However the network cuts the framed packets into segments, successive `readPacket` calls on
a stream connection return exactly those packets, in order; and when the stream then ends
inside a frame (or right after the last one), the next call fails instead of returning part of
a packet. -/
theorem readPackets_framed (c : NetConn) (stream : c.network ∈ ["tcp", "tcp4", "tcp6"])
    (packets : List Bytes) (short : ∀ packet ∈ packets, packet.length < 65536) (tail : Bytes)
    (segmented : c.segments.flatten = (packets.map sizeFrame).flatten ++ tail) :
    (readPackets c packets.length).1 = packets.map .ok ∧
      ∀ cut : Bytes, cut.length < 65536 → tail <+: sizeFrame cut → tail ≠ sizeFrame cut →
        ∃ err, (readPackets c (packets.length + 1)).1 = packets.map .ok ++ [.error err] := by
  induction packets generalizing c with
  | nil =>
    refine ⟨rfl, fun cut bounded prefixed unfinished => ?_⟩
    have ends : c.stream = tail := by simpa using segmented
    obtain ⟨err, c', failed⟩ :=
      readPacketFromTCP_of_cut c bounded (ends ▸ prefixed) (ends ▸ unfinished)
    exact ⟨err, by rw [readPackets_succ, readPacket_of_stream c stream, failed]; rfl⟩
  | cons packet packets ih =>
    simp only [List.map_cons, List.flatten_cons, List.append_assoc] at segmented
    obtain ⟨segments, read, rest⟩ :=
      readPacketFromTCP_of_frame c (short packet (List.mem_cons_self _ _)) segmented
    have first : readPacket c = (.ok packet, { c with segments }) :=
      (readPacket_of_stream c stream).trans read
    obtain ⟨delivered, cut⟩ :=
      ih { c with segments } stream (fun p mem => short p (List.mem_cons_of_mem _ mem)) rest
    refine ⟨by rw [List.length_cons, readPackets_succ, first, delivered]; rfl,
      fun tail' bounded prefixed unfinished => ?_⟩
    obtain ⟨err, failed⟩ := cut tail' bounded prefixed unfinished
    exact ⟨err, by rw [List.length_cons, readPackets_succ, first]; exact congrArg _ failed⟩

/-- One 3-byte packet whose frame arrives as a split length prefix and a body joined to the
first byte of a next frame: the packet is read whole, and the next read fails. -/
theorem readPackets_framed_split_prefix :
    (⟨"tcp", [[0], [3, 1], [2, 3, 0]], .eof⟩ : NetConn).network ∈ ["tcp", "tcp4", "tcp6"] ∧
      (∀ packet ∈ [[1, 2, 3]], List.length packet < 65536) ∧
      ([[0], [3, 1], [2, 3, 0]] : List Bytes).flatten = ([[1, 2, 3]].map sizeFrame).flatten ++ [0] ∧
      (readPackets ⟨"tcp", [[0], [3, 1], [2, 3, 0]], .eof⟩ 1).1 = [.ok [1, 2, 3]] ∧
      ∀ cut : Bytes, cut.length < 65536 → [0] <+: sizeFrame cut → [0] ≠ sizeFrame cut →
        ∃ err, (readPackets ⟨"tcp", [[0], [3, 1], [2, 3, 0]], .eof⟩ 2).1 =
          [.ok [1, 2, 3]] ++ [.error err] :=
  ⟨by decide, by decide, by decide,
    readPackets_framed ⟨"tcp", [[0], [3, 1], [2, 3, 0]], .eof⟩ (by decide) [[1, 2, 3]]
      (by decide) [0] (by decide)⟩

end MiniVpn.Transport
