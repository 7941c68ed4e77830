import MiniVpn.Model.Crypto.Ciphers

/-! # Decrypting what was encrypted, and decrypting anything

CBC decryption inverts CBC encryption block by block, since each decrypted block is XORed with
the same previous ciphertext block that was XORed in before encryption. PKCS#7 unpadding inverts
padding for every block size a byte can count. What is left between encryption and the caller
is the check after unpadding, which rejects a padding longer than the plaintext it leaves: every
CBC plaintext shorter than 8 bytes fails to come back. On attacker-chosen ciphertexts the CBC
branch panics on partial blocks and on the empty input, and takes a final byte 0 as an empty
padding.
-/

namespace MiniVpn.Crypto

/-! ## The cipher suites -/

private theorem newDataCipherFromCipherSuite_ok {c : String} {a : DataCipherAES}
    (accepted : newDataCipherFromCipherSuite c = .ok a) :
    (a.mode = cipherModeCBC ∨ a.mode = cipherModeGCM) ∧
      aesNewCipher (List.replicate a.ksb 0) = .ok () := by
  unfold newDataCipherFromCipherSuite at accepted
  split at accepted <;> simp only [newDataCipher, reduceCtorEq] at accepted <;>
    (obtain rfl := (Except.ok.inj accepted).symm; decide)

private theorem aesNewCipher_of_length {key : Bytes} {n : Nat} (sized : key.length = n) :
    aesNewCipher key = aesNewCipher (List.replicate n 0) := by
  simp [aesNewCipher, sized]

/-! ## CBC -/

section Cbc

variable (cipher : BlockCipher) (key : Bytes)

private theorem length_cbcEncrypt (prev src : Bytes) (block : prev.length = 16)
    (full : src.length % 16 = 0) :
    (cbcEncrypt cipher key prev src).length = src.length := by
  induction prev, src using cbcEncrypt.induct cipher key with
  | case1 prev src short =>
    rw [cbcEncrypt, if_pos short]
    simp only [List.length_nil]
    omega
  | case2 prev src long next ih =>
    rw [cbcEncrypt, if_neg long]
    have sized : next.length = 16 := cipher.length_encrypt _ _ (by simp [block]; omega)
    simp only [List.length_append, sized, ih sized (by simp; omega), List.length_drop]
    omega

private theorem cbcDecrypt_cbcEncrypt (prev src : Bytes) (block : prev.length = 16)
    (full : src.length % 16 = 0) :
    cbcDecrypt cipher key prev (cbcEncrypt cipher key prev src) = src := by
  induction prev, src using cbcEncrypt.induct cipher key with
  | case1 prev src short =>
    rw [cbcEncrypt, if_pos short, cbcDecrypt, if_pos (by simp)]
    exact (List.eq_nil_of_length_eq_zero (by omega)).symm
  | case2 prev src long next ih =>
    have mixed : (xorBytes (src.take 16) prev).length = 16 := by simp [block]; omega
    have sized : next.length = 16 := cipher.length_encrypt _ _ mixed
    rw [cbcEncrypt, if_neg long, cbcDecrypt, if_neg (by simp [sized]),
      List.take_left' sized, List.drop_left' sized, ih sized (by simp; omega),
      cipher.decrypt_encrypt _ _ mixed,
      xorBytes_xorBytes_cancel _ _ (by rw [List.length_take, block]; omega),
      List.take_append_drop]

end Cbc

/-! ## PKCS#7 -/

private theorem cipherPadTextPKCS7_of_pos (buf : Bytes) {bs : Nat} (positive : 0 < bs) :
    cipherPadTextPKCS7 buf bs =
      .ok (buf ++ List.replicate (bs - buf.length % bs) (UInt8.ofNat (bs - buf.length % bs))) := by
  rw [cipherPadTextPKCS7, if_neg (Nat.pos_iff_ne_zero.mp positive)]

private theorem cipherUnpadTextPKCS7_append (P : Bytes) {k : Nat} (positive : 0 < k)
    (byte : k < 256) :
    cipherUnpadTextPKCS7 (P ++ List.replicate k (UInt8.ofNat k)) = .ok P := by
  simp [cipherUnpadTextPKCS7, List.getLast?_append, List.getLast?_replicate, positive.ne',
    Nat.mod_eq_of_lt byte]

private theorem length_add_padding (n : Nat) {bs : Nat} (positive : 0 < bs) :
    n + (bs - n % bs) = bs * (n / bs + 1) := by
  have split := Nat.div_add_mod n bs
  have below := Nat.mod_lt n positive
  rw [Nat.mul_succ]
  omega

/-- For every block size from 1 to 255, padding appends `k = bs - len(b) % bs` bytes of value
`k`, with `1 ≤ k ≤ bs`; the result is a positive multiple of `bs` longer than `b`, and
unpadding it gives `b` back. -/
theorem cipherPadTextPKCS7_round_trip (b : Bytes) (bs : Nat) (positive : 1 ≤ bs)
    (byte : bs ≤ 255) :
    ∃ padded : Bytes, cipherPadTextPKCS7 b bs = .ok padded ∧
      0 < padded.length ∧ padded.length % bs = 0 ∧ b.length < padded.length ∧
      1 ≤ bs - b.length % bs ∧ bs - b.length % bs ≤ bs ∧
      padded = b ++ List.replicate (bs - b.length % bs) (UInt8.ofNat (bs - b.length % bs)) ∧
      (UInt8.ofNat (bs - b.length % bs)).toNat = bs - b.length % bs ∧
      cipherUnpadTextPKCS7 padded = .ok b := by
  have k_pos : 0 < bs - b.length % bs := Nat.sub_pos_of_lt (Nat.mod_lt _ positive)
  have length : (b ++ List.replicate (bs - b.length % bs)
      (UInt8.ofNat (bs - b.length % bs))).length = bs * (b.length / bs + 1) := by
    rw [List.length_append, List.length_replicate, length_add_padding _ positive]
  refine ⟨_, cipherPadTextPKCS7_of_pos b positive, ?_, ?_, ?_, k_pos, Nat.sub_le _ _, rfl, ?_,
    cipherUnpadTextPKCS7_append b k_pos (by omega)⟩
  · rw [length]
    exact Nat.mul_pos positive (Nat.succ_pos _)
  · rw [length, Nat.mul_mod_right]
  · rw [List.length_append, List.length_replicate]
    omega
  · rw [UInt8.toNat_ofNat_mod, Nat.mod_eq_of_lt (by omega)]

/-- Three bytes padded to blocks of 8. -/
theorem cipherPadTextPKCS7_round_trip_three_bytes :
    1 ≤ 8 ∧ 8 ≤ 255 ∧
      ∃ padded : Bytes, cipherPadTextPKCS7 [1, 2, 3] 8 = .ok padded ∧
        0 < padded.length ∧ padded.length % 8 = 0 ∧ ([1, 2, 3] : Bytes).length < padded.length ∧
        1 ≤ 8 - ([1, 2, 3] : Bytes).length % 8 ∧ 8 - ([1, 2, 3] : Bytes).length % 8 ≤ 8 ∧
        padded = [1, 2, 3] ++ List.replicate (8 - ([1, 2, 3] : Bytes).length % 8)
          (UInt8.ofNat (8 - ([1, 2, 3] : Bytes).length % 8)) ∧
        (UInt8.ofNat (8 - ([1, 2, 3] : Bytes).length % 8)).toNat =
          8 - ([1, 2, 3] : Bytes).length % 8 ∧
        cipherUnpadTextPKCS7 padded = .ok [1, 2, 3] :=
  ⟨by decide, by decide, cipherPadTextPKCS7_round_trip [1, 2, 3] 8 (by decide) (by decide)⟩

/-! ## The round trip -/

private theorem cipherModeGCM_ne_cipherModeCBC : cipherModeGCM ≠ cipherModeCBC := by decide

/-- What a caller of `encrypt` passes for a plaintext: `encrypt` does not pad, so in CBC mode the
caller pads the plaintext with `cipherPadTextPKCS7` to AES's 16-byte block, and in GCM mode it
passes the plaintext as it is. -/
def DataCipherAES.prepare (a : DataCipherAES) (P : Bytes) : Except Fault Bytes :=
  if a.mode = cipherModeCBC then cipherPadTextPKCS7 P 16 else .ok P

/-- Prepare, encrypt, then decrypt with the same key, IV and additional data. -/
def DataCipherAES.roundTrip (cipher : BlockCipher) (aead : Aead) (a : DataCipherAES)
    (key iv ad P : Bytes) : Except Fault Bytes := do
  let X ← a.prepare P
  let C ← a.encrypt cipher aead key iv X ad
  a.decrypt cipher aead key iv C ad

/-- The nonce length the mode takes: 16 for CBC, 12 for GCM. -/
def DataCipherAES.nonceLength (a : DataCipherAES) : Nat :=
  if a.mode = cipherModeCBC then 16 else 12

private theorem decryptCBC_cbcEncrypt (cipher : BlockCipher) (key iv P : Bytes)
    (block : iv.length = 16) :
    (cipherPadTextPKCS7 P 16 >>= fun X => cryptBlocks (cbcEncrypt cipher key iv) X) >>=
      (fun C => DataCipherAES.decryptCBC cipher key iv C) =
      if P.length < 8 then .error (.error .padding) else .ok P := by
  generalize padding : 16 - P.length % 16 = k
  have k_pos : 0 < k := by omega
  generalize padded : P ++ List.replicate k (UInt8.ofNat k) = X
  have full : X.length % 16 = 0 := by
    rw [← padded]
    simp only [List.length_append, List.length_replicate]
    omega
  have sized := length_cbcEncrypt cipher key iv X block full
  have encrypted : cryptBlocks (cbcEncrypt cipher key iv) X = .ok (cbcEncrypt cipher key iv X) := by
    simp [cryptBlocks, full]
  have decrypted : cryptBlocks (cbcDecrypt cipher key (iv.take 16)) (cbcEncrypt cipher key iv X) =
      .ok X := by
    rw [List.take_of_length_le (by omega), cryptBlocks, if_neg (by omega),
      cbcDecrypt_cbcEncrypt cipher key iv X block full]
  have unpadded : cipherUnpadTextPKCS7 X = .ok P := by
    rw [← padded]
    exact cipherUnpadTextPKCS7_append P k_pos (by omega)
  have lengths : X.length = P.length + k := by simp [← padded]
  rw [cipherPadTextPKCS7_of_pos P (show 0 < 16 by decide), padding, padded]
  simp only [bind, Except.bind, encrypted, DataCipherAES.decryptCBC,
    if_neg (show ¬ iv.length < 16 by omega),
    decrypted, unpadded, sized, lengths]
  by_cases short : P.length < 8
  · rw [if_pos (Or.inr (by omega)), if_pos short]
  · rw [if_neg (by omega), if_neg short]

private theorem roundTrip_cbc (cipher : BlockCipher) (aead : Aead) {a : DataCipherAES}
    (cbc : a.mode = cipherModeCBC) (key iv ad P : Bytes) (keySized : key.length = a.keySizeBytes)
    (aes : aesNewCipher key = .ok ()) (block : iv.length = 16) :
    a.roundTrip cipher aead key iv ad P =
      if P.length < 8 then .error (.error .padding) else .ok P := by
  rw [← decryptCBC_cbcEncrypt cipher key iv P block]
  simp only [DataCipherAES.roundTrip, DataCipherAES.prepare, DataCipherAES.encrypt,
    DataCipherAES.decrypt, cbc, keySized, aes, block, if_true, ne_eq, not_true_eq_false, if_false,
    true_and]
  rfl

/-- The round trip over every accepted suite, key of the suite's size and IV of the mode's nonce
length: GCM always gives the plaintext back; CBC gives it back exactly when it has at least 8
bytes, and fails with `errPadding` otherwise. -/
theorem roundTrip_eq (cipher : BlockCipher) (aead : Aead) {c : String} {a : DataCipherAES}
    (accepted : newDataCipherFromCipherSuite c = .ok a) (key iv ad P : Bytes)
    (keySized : key.length = a.keySizeBytes) (nonce : iv.length = a.nonceLength) :
    a.roundTrip cipher aead key iv ad P =
      if a.mode = cipherModeCBC ∧ P.length < 8 then .error (.error .padding) else .ok P := by
  obtain ⟨modes, keyOk⟩ := newDataCipherFromCipherSuite_ok accepted
  have aes : aesNewCipher key = .ok () := (aesNewCipher_of_length keySized).trans keyOk
  rcases modes with cbc | gcm
  · have block : iv.length = 16 := by simpa [DataCipherAES.nonceLength, cbc] using nonce
    simp only [cbc, true_and]
    exact roundTrip_cbc cipher aead cbc key iv ad P keySized aes block
  · have notCbc : a.mode ≠ cipherModeCBC := by rw [gcm]; decide
    have twelve : iv.length = 12 := by simpa [DataCipherAES.nonceLength, notCbc] using nonce
    simp [DataCipherAES.roundTrip, DataCipherAES.prepare, DataCipherAES.encrypt,
      DataCipherAES.decrypt, gcm, cipherModeGCM_ne_cipherModeCBC, keySized, aes, twelve, bind,
      Except.bind, aead.gcmOpen_gcmSeal]

/-- The block cipher that leaves every block as it is; its laws hold trivially. -/
def BlockCipher.identity : BlockCipher :=
  ⟨fun _ block => block, fun _ block => block, fun _ _ sized => sized, fun _ _ sized => sized,
    fun _ _ _ => rfl⟩

/-- The AEAD that seals a plaintext as itself and opens every ciphertext. -/
def Aead.identity : Aead :=
  ⟨fun _ _ plaintext _ => plaintext, fun _ _ ciphertext _ => some ciphertext, fun _ _ _ _ => rfl⟩

/-- One byte under `AES-128-GCM` survives the round trip. -/
theorem roundTrip_eq_gcm_one_byte :
    newDataCipherFromCipherSuite "AES-128-GCM" = .ok ⟨16, cipherModeGCM⟩ ∧
      (List.replicate 16 0).length = (DataCipherAES.mk 16 cipherModeGCM).keySizeBytes ∧
      (List.replicate 12 0).length = (DataCipherAES.mk 16 cipherModeGCM).nonceLength ∧
      (DataCipherAES.mk 16 cipherModeGCM).roundTrip BlockCipher.identity Aead.identity
          (List.replicate 16 0) (List.replicate 12 0) [] [1] =
        if (DataCipherAES.mk 16 cipherModeGCM).mode = cipherModeCBC ∧ [(1 : UInt8)].length < 8 then
          .error (.error .padding) else .ok [1] :=
  have accepted : newDataCipherFromCipherSuite "AES-128-GCM" = .ok ⟨16, cipherModeGCM⟩ := by decide
  ⟨accepted, rfl, rfl, roundTrip_eq _ _ accepted _ _ _ _ rfl rfl⟩

/-- A CBC plaintext shorter than 8 bytes, here the empty one under `AES-128-CBC`, does not
survive the round trip: decryption rejects its padding with `errPadding`. -/
theorem roundTrip_empty_cbc_rejected (cipher : BlockCipher) (aead : Aead) :
    newDataCipherFromCipherSuite "AES-128-CBC" = .ok ⟨16, cipherModeCBC⟩ ∧
      (DataCipherAES.mk 16 cipherModeCBC).roundTrip cipher aead (List.replicate 16 0)
        (List.replicate 16 0) [] [] = .error (.error .padding) :=
  ⟨by decide, roundTrip_cbc cipher aead rfl _ _ [] [] rfl (by decide) rfl⟩

/-- CBC decryption of attacker-chosen ciphertexts under `AES-128-CBC`: a 15-byte ciphertext
panics in `CryptBlocks`, the empty one panics in `cipherUnpadTextPKCS7`, and a block that
decrypts to sixteen zero bytes, whose last byte is no PKCS#7 padding, is accepted whole. -/
theorem decrypt_cbc_attacker_input (cipher : BlockCipher) (aead : Aead) :
    (DataCipherAES.mk 16 cipherModeCBC).decrypt cipher aead (List.replicate 16 0)
        (List.replicate 16 0) (List.replicate 15 0) [] =
        .error (.panic "crypto/cipher: input not full blocks") ∧
      (DataCipherAES.mk 16 cipherModeCBC).decrypt cipher aead (List.replicate 16 0)
        (List.replicate 16 0) [] [] = .error (.panic "index out of range [-1]") ∧
      (DataCipherAES.mk 16 cipherModeCBC).decrypt cipher aead (List.replicate 16 0)
        (List.replicate 16 0) (cbcEncrypt cipher (List.replicate 16 0) (List.replicate 16 0)
          (List.replicate 16 0)) [] = .ok (List.replicate 16 0) := by
  have decrypted := cbcDecrypt_cbcEncrypt cipher (List.replicate 16 0) (List.replicate 16 0)
    (List.replicate 16 0) (by decide) (by decide)
  have sized := length_cbcEncrypt cipher (List.replicate 16 0) (List.replicate 16 0)
    (List.replicate 16 0) (by decide) (by decide)
  generalize cbcEncrypt cipher (List.replicate 16 0) (List.replicate 16 0) (List.replicate 16 0) = C
    at decrypted sized ⊢
  have aes : aesNewCipher (List.replicate 16 0) = .ok () := by decide
  refine ⟨?_, ?_, ?_⟩
  · simp [DataCipherAES.decrypt, DataCipherAES.decryptCBC, DataCipherAES.keySizeBytes, aesNewCipher,
      cryptBlocks]
  · simp [DataCipherAES.decrypt, DataCipherAES.decryptCBC, DataCipherAES.keySizeBytes, aesNewCipher,
      cryptBlocks, cbcDecrypt, cipherUnpadTextPKCS7]
  · simp only [DataCipherAES.decrypt, DataCipherAES.decryptCBC, DataCipherAES.keySizeBytes, aes,
      cryptBlocks, sized, List.take_replicate, Nat.min_self, decrypted, if_true]
    decide

end MiniVpn.Crypto
