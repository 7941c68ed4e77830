import MiniVpn.Model.Crypto.Prf

/-! # `prf` computes the TLS 1.0 PRF of RFC 2246

The loop invariant of `pHash`: after writing `j` bytes with `a = A(i + 1)`, the rest of the loop
leaves the first `j` bytes alone and fills the remainder with the block stream from block `i`
on, cut to length. Started at `j = 0`, `a = A(1)`, the loop therefore produces P_hash truncated
to the buffer's length, including when the length is no multiple of the HMAC size. The
remaining steps of `prf10` and `prf` are the seed and `label ‖ seed` assembly and the secret
split, each equal to its RFC counterpart.
-/

namespace MiniVpn.Crypto

section Blocks

variable (hash : Hmac) (secret seed : Bytes)

@[simp] private theorem length_rfcBlocks (start n : Nat) :
    (rfcBlocks hash secret seed start n).length = n * hash.size := by
  induction n generalizing start with
  | zero => simp [rfcBlocks]
  | succ n ih => simp [rfcBlocks, ih, hash.length_mac, Nat.succ_mul, Nat.add_comm]

private theorem rfcBlocks_add (start n k : Nat) :
    rfcBlocks hash secret seed start (n + k) =
      rfcBlocks hash secret seed start n ++ rfcBlocks hash secret seed (start + n) k := by
  induction n generalizing start with
  | zero => simp [rfcBlocks]
  | succ n ih =>
    rw [Nat.add_right_comm, rfcBlocks, ih, rfcBlocks, List.append_assoc, Nat.add_right_comm,
      Nat.add_assoc]

private theorem take_rfcBlocks {m n : Nat} (le : m ≤ n) (start : Nat) :
    (rfcBlocks hash secret seed start n).take m = (rfcBlocks hash secret seed start m).take m := by
  have enough : m ≤ (rfcBlocks hash secret seed start m).length := by
    simp only [length_rfcBlocks]
    exact Nat.le_mul_of_pos_right m hash.size_pos
  obtain ⟨k, rfl⟩ := Nat.exists_eq_add_of_le le
  rw [rfcBlocks_add, List.take_append_of_le_length enough]

private theorem pHashLoop_eq (result a : Bytes) (j : Nat) :
    ∀ i, a = rfcA hash secret seed (i + 1) →
      pHashLoop hash secret seed result a j =
        result.take j ++
          (rfcBlocks hash secret seed i (result.length - j)).take (result.length - j) := by
  induction result, a, j using pHashLoop.induct hash secret seed with
  | case1 result a j inside b ih =>
    intro i current
    have size := hash.size_pos
    have block : b.length = hash.size := hash.length_mac secret (a ++ seed)
    rw [pHashLoop, if_pos inside]
    show pHashLoop hash secret seed (copyAt result j b) (hash.mac secret a) (j + b.length) = _
    rw [ih (i + 1) (by rw [current]; rfl), length_copyAt, take_copyAt _ _ _ inside.le, block]
    obtain ⟨rest, remaining⟩ : ∃ rest, result.length - j = rest + 1 :=
      ⟨_, (Nat.succ_pred_eq_of_pos (Nat.sub_pos_of_lt inside)).symm⟩
    have next : result.length - (j + hash.size) = rest + 1 - hash.size := by omega
    rw [remaining, next, rfcBlocks, ← current, List.append_assoc, List.take_append_eq_append_take,
      hash.length_mac, take_rfcBlocks hash secret seed (show rest + 1 - hash.size ≤ rest by omega)]
  | case2 result a j outside =>
    intro _ _
    rw [pHashLoop, if_neg outside, Nat.sub_eq_zero_of_le (Nat.le_of_not_lt outside),
      List.take_of_length_le (Nat.le_of_not_lt outside)]
    simp

private theorem pHash_eq (result : Bytes) :
    pHash hash result secret seed = rfcPHash hash secret seed result.length := by
  rw [pHash, pHashLoop_eq hash secret seed result (hash.mac secret seed) 0 0 rfl]
  simp [rfcPHash]

@[simp] private theorem length_rfcPHash (olen : Nat) :
    (rfcPHash hash secret seed olen).length = olen := by
  simp only [rfcPHash, List.length_take, length_rfcBlocks]
  exact Nat.min_eq_left (Nat.le_mul_of_pos_right olen hash.size_pos)

private theorem rfcPHash_take {m n : Nat} (le : m ≤ n) :
    (rfcPHash hash secret seed n).take m = rfcPHash hash secret seed m := by
  rw [rfcPHash, List.take_take, Nat.min_eq_left le, take_rfcBlocks hash secret seed le, rfcPHash]

end Blocks

/-! ## Assembling the PRF -/

private theorem labelAndSeed_eq (label seed : Bytes) :
    copyAt (goCopy (List.replicate (label.length + seed.length) 0) label) label.length seed =
      label ++ seed := by
  have first : goCopy (List.replicate (label.length + seed.length) 0) label =
      label ++ List.replicate seed.length 0 := by
    simp [goCopy, List.take_of_length_le, List.drop_replicate]
  rw [first, copyAt, List.take_left' rfl, List.drop_left' rfl, goCopy_replicate]

private theorem append_if_nonempty (seed sid : Bytes) :
    (if sid.length ≠ 0 then seed ++ sid else seed) = seed ++ sid := by
  split
  · rfl
  · simp_all

private theorem prf10_eq (md5 sha1 : Hmac) (result secret label seed : Bytes) :
    prf10 md5 sha1 result secret label seed = rfcPrf md5 sha1 secret label seed result.length := by
  have second : secret.length / 2 = secret.length - (secret.length + 1) / 2 := by omega
  simp only [prf10, splitPreMasterSecret, labelAndSeed_eq, pHash_eq, length_rfcPHash,
    List.length_replicate, rfcPrf, second]

/-- Key derivation: `prf` returns exactly `olen` bytes, and they are RFC 2246's
P_MD5(S1, label ‖ seed) XOR P_SHA1(S2, label ‖ seed) over the seed
`clientSeed ‖ serverSeed ‖ clientSid ‖ serverSid`, S1 and S2 the first and last `⌈n/2⌉` bytes
of the secret; a shorter output is a prefix of a longer one. -/
theorem prf_eq_rfc2246 (md5 sha1 : Hmac)
    (secret label clientSeed serverSeed clientSid serverSid : Bytes) :
    (∀ olen,
      (prf md5 sha1 secret label clientSeed serverSeed clientSid serverSid olen).length = olen ∧
      prf md5 sha1 secret label clientSeed serverSeed clientSid serverSid olen =
        rfcPrf md5 sha1 secret label (clientSeed ++ serverSeed ++ clientSid ++ serverSid) olen) ∧
    (∀ m n, m ≤ n → prf md5 sha1 secret label clientSeed serverSeed clientSid serverSid m <+:
      prf md5 sha1 secret label clientSeed serverSeed clientSid serverSid n) := by
  have equal : ∀ olen, prf md5 sha1 secret label clientSeed serverSeed clientSid serverSid olen =
      rfcPrf md5 sha1 secret label (clientSeed ++ serverSeed ++ clientSid ++ serverSid) olen := by
    intro olen
    rw [prf, append_if_nonempty, append_if_nonempty, prf10_eq, List.length_replicate]
  refine ⟨fun olen => ⟨?_, equal olen⟩, fun m n le => ?_⟩
  · simp [equal, rfcPrf]
  · rw [equal, equal, List.prefix_iff_eq_take]
    simp only [rfcPrf, xorBytes, List.length_zipWith, length_rfcPHash, Nat.min_self,
      List.take_zipWith, rfcPHash_take _ _ _ le]
end MiniVpn.Crypto
