import MiniVpn.Go.Runtime

/-! # The data-channel ciphers

`dataCipherAES` (vpn/ciphers.go) encrypts and decrypts data-channel payloads with AES in CBC or
GCM mode, and `cipherPadTextPKCS7` and `cipherUnpadTextPKCS7` add and strip the PKCS#7 padding
of CBC plaintexts. AES itself is abstract: a keyed permutation of 16-byte blocks whose decryption
inverts its encryption. GCM is an abstract AEAD whose `Open` returns what `Seal` sealed.

What the Go standard library does on bad input is kept: `aes.NewCipher` rejects keys that are
not 16, 24 or 32 bytes long, `CryptBlocks` panics on input that is not made of full blocks, the
CBC and GCM constructors panic on an IV or nonce of the wrong size, and indexing or slicing out
of range panics.
-/

namespace MiniVpn.Crypto

/-- `cipherMode`, a string type. -/
abbrev CipherMode := String

/-- `cipherModeCBC`. -/
def cipherModeCBC : CipherMode := "cbc"

/-- `cipherModeGCM`. -/
def cipherModeGCM : CipherMode := "gcm"

/-- `cipherName`, a string type. -/
abbrev CipherName := String

/-- `cipherNameAES`. -/
def cipherNameAES : CipherName := "aes"

/-- The AES block cipher `aes.NewCipher(key)` returns: `encrypt key` and `decrypt key` map
16-byte blocks to 16-byte blocks, and decryption undoes encryption. -/
structure BlockCipher where
  encrypt : Bytes → Bytes → Bytes
  decrypt : Bytes → Bytes → Bytes
  length_encrypt : ∀ key block, block.length = 16 → (encrypt key block).length = 16
  length_decrypt : ∀ key block, block.length = 16 → (decrypt key block).length = 16
  decrypt_encrypt : ∀ key block, block.length = 16 → decrypt key (encrypt key block) = block

/-- The AEAD `cipher.NewGCM(block)` returns: `gcmSeal key nonce plaintext ad` is `Seal`, and
`gcmOpen key nonce ciphertext ad` is `Open`, with `none` for an authentication failure. -/
structure Aead where
  gcmSeal : Bytes → Bytes → Bytes → Bytes → Bytes
  gcmOpen : Bytes → Bytes → Bytes → Bytes → Option Bytes
  gcmOpen_gcmSeal : ∀ key nonce plaintext ad,
    gcmOpen key nonce (gcmSeal key nonce plaintext ad) ad = some plaintext

/-- `aes.NewCipher`'s key check. -/
def aesNewCipher (key : Bytes) : Except GoError Unit :=
  if key.length = 16 ∨ key.length = 24 ∨ key.length = 32 then .ok ()
  else .error (.aesKeySize key.length)

/-! ## CBC mode -/

/-- The block loop of a CBC encrypter's `CryptBlocks`: each block is XORed with the previous
ciphertext block (the IV for the first) and encrypted. -/
def cbcEncrypt (cipher : BlockCipher) (key prev src : Bytes) : Bytes :=
  if src.length < 16 then []
  else
    let block := cipher.encrypt key (xorBytes (src.take 16) prev)
    block ++ cbcEncrypt cipher key block (src.drop 16)
termination_by src.length

/-- The block loop of a CBC decrypter's `CryptBlocks`: each block is decrypted and XORed with the
previous ciphertext block (the IV for the first). -/
def cbcDecrypt (cipher : BlockCipher) (key prev src : Bytes) : Bytes :=
  if src.length < 16 then []
  else
    xorBytes (cipher.decrypt key (src.take 16)) prev ++
      cbcDecrypt cipher key (src.take 16) (src.drop 16)
termination_by src.length

/-- `CryptBlocks(dst, src)` with `len(dst) = len(src)`, run by `crypt`: input that is not made of
full blocks panics. -/
def cryptBlocks (crypt : Bytes → Bytes) (src : Bytes) : Except Fault Bytes :=
  if src.length % 16 ≠ 0 then .error (.panic "crypto/cipher: input not full blocks")
  else .ok (crypt src)

/-! ## PKCS#7 -/

/-- `cipherPadTextPKCS7(buf, bs)`: append `bs - len(buf) % bs` copies of that count as a byte. -/
def cipherPadTextPKCS7 (buf : Bytes) (bs : Nat) : Except Fault Bytes :=
  if bs = 0 then .error (.panic "integer divide by zero")
  else
    let padding := bs - buf.length % bs
    .ok (buf ++ List.replicate padding (UInt8.ofNat padding))

/-- `cipherUnpadTextPKCS7(buf)`: drop as many bytes as the last byte says. `buf[len(buf)-1]`
panics on an empty buffer, and the slice panics when the last byte exceeds the length. -/
def cipherUnpadTextPKCS7 (buf : Bytes) : Except Fault Bytes :=
  match buf.getLast? with
  | none => .error (.panic "index out of range [-1]")
  | some padding =>
    if padding.toNat ≤ buf.length then .ok (buf.take (buf.length - padding.toNat))
    else .error (.panic "slice bounds out of range")

/-! ## `dataCipherAES` -/

/-- `dataCipherAES`: a key size in bytes and a mode. -/
structure DataCipherAES where
  ksb : Nat
  mode : CipherMode
  deriving DecidableEq, Repr

/-- `keySizeBytes`. -/
def DataCipherAES.keySizeBytes (a : DataCipherAES) : Nat := a.ksb

/-- `blockSize`. -/
def DataCipherAES.blockSize (a : DataCipherAES) : Nat :=
  if a.mode = cipherModeCBC ∨ a.mode = cipherModeGCM then 16 else 0

/-- `dataCipherAES.encrypt(key, iv, plaintext, ad)`. -/
def DataCipherAES.encrypt (cipher : BlockCipher) (aead : Aead) (a : DataCipherAES)
    (key iv plaintext ad : Bytes) : Except Fault Bytes :=
  if key.length ≠ a.keySizeBytes then .error (.error .invalidKeySize)
  else match aesNewCipher key with
  | .error err => .error (.error err)
  | .ok () =>
    if a.mode = cipherModeCBC then
      if iv.length ≠ 16 then
        .error (.panic "cipher.NewCBCEncrypter: IV length must equal block size")
      else cryptBlocks (cbcEncrypt cipher key iv) plaintext
    else if a.mode = cipherModeGCM then
      if iv.length ≠ 12 then .error (.panic "crypto/cipher: incorrect nonce length given to GCM")
      else .ok (aead.gcmSeal key iv plaintext ad)
    else .error (.error .unsupportedMode)

/-- The CBC branch of `dataCipherAES.decrypt`, after the key checks: decrypt, unpad, and reject
a padding longer than a block or than the plaintext left. -/
def DataCipherAES.decryptCBC (cipher : BlockCipher) (key iv ciphertext : Bytes) :
    Except Fault Bytes :=
  if iv.length < 16 then .error (.panic "slice bounds out of range")
  else match cryptBlocks (cbcDecrypt cipher key (iv.take 16)) ciphertext with
  | .error fault => .error fault
  | .ok plaintext =>
    match cipherUnpadTextPKCS7 plaintext with
    | .error fault => .error fault
    | .ok plaintext =>
      let padLen := ciphertext.length - plaintext.length
      if padLen > 16 ∨ padLen > plaintext.length then .error (.error .padding)
      else .ok plaintext

/-- `dataCipherAES.decrypt(key, iv, ciphertext, ad)`. -/
def DataCipherAES.decrypt (cipher : BlockCipher) (aead : Aead) (a : DataCipherAES)
    (key iv ciphertext ad : Bytes) : Except Fault Bytes :=
  if key.length ≠ a.keySizeBytes then .error (.error .invalidKeySize)
  else match aesNewCipher key with
  | .error err => .error (.error err)
  | .ok () =>
    if a.mode = cipherModeCBC then DataCipherAES.decryptCBC cipher key iv ciphertext
    else if a.mode = cipherModeGCM then
      if iv.length ≠ 12 then .error (.panic "crypto/cipher: incorrect nonce length given to GCM")
      else match aead.gcmOpen key iv ciphertext ad with
        | some plaintext => .ok plaintext
        | none => .error (.error .openFailed)
    else .error (.error .unsupportedMode)

/-- `newDataCipher(name, bits, mode)`. -/
def newDataCipher (name : CipherName) (bits : Nat) (mode : CipherMode) :
    Except GoError DataCipherAES :=
  if bits % 8 ≠ 0 ∨ bits > 512 ∨ bits < 64 then .error .invalidKeySize
  else if name ≠ cipherNameAES then .error .unsupportedCipher
  else if mode ≠ cipherModeCBC ∧ mode ≠ cipherModeGCM then .error .unsupportedMode
  else .ok ⟨bits / 8, mode⟩

/-- `newDataCipherFromCipherSuite(c)`. -/
def newDataCipherFromCipherSuite (c : String) : Except GoError DataCipherAES :=
  match c with
  | "AES-128-CBC" => newDataCipher cipherNameAES 128 cipherModeCBC
  | "AES-192-CBC" => newDataCipher cipherNameAES 192 cipherModeCBC
  | "AES-256-CBC" => newDataCipher cipherNameAES 256 cipherModeCBC
  | "AES-128-GCM" => newDataCipher cipherNameAES 128 cipherModeGCM
  | "AES-256-GCM" => newDataCipher cipherNameAES 256 cipherModeGCM
  | _ => .error .unsupportedCipher

end MiniVpn.Crypto
