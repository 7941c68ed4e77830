import MiniVpn.Go.Runtime

/-! # The key-derivation PRF

`prf` (vpn/crypto.go) builds the seed from the client and server randoms and session ids, and
`prf10` runs the TLS 1.0 construction: split the secret, fill the output with P_MD5 and with
P_SHA1 over `label ‖ seed`, and XOR the two. `pHash` fills its output in place, one HMAC block
per loop iteration, cutting the last block short.

HMAC is abstract: a keyed function with a fixed, positive output size, as `hmac.New(md5.New, _)`
and `hmac.New(sha1.New, _)` are. The second half of the module states RFC 2246's definition
directly, A(i) and the block stream, without reference to the code's loop.
-/

namespace MiniVpn.Crypto

/-- A keyed hash as `hmac.New(hash, secret)` builds it: `mac secret message` is what `Sum`
returns after `message` was written since the last `Reset`. -/
structure Hmac where
  size : Nat
  size_pos : 0 < size
  mac : Bytes → Bytes → Bytes
  length_mac : ∀ secret message, (mac secret message).length = size

/-- The loop of `pHash`: `j` counts the bytes written so far and `a` is the current A(i). Each
iteration copies `HMAC(secret, a ‖ seed)` to `result[j:]`, however much of it fits. -/
def pHashLoop (hash : Hmac) (secret seed result a : Bytes) (j : Nat) : Bytes :=
  if j < result.length then
    let b := hash.mac secret (a ++ seed)
    pHashLoop hash secret seed (copyAt result j b) (hash.mac secret a) (j + b.length)
  else result
termination_by result.length - j
decreasing_by
  simp only [length_copyAt, hash.length_mac]
  have := hash.size_pos
  omega

/-- `pHash(result, secret, seed, hash)`, returning the filled `result`. -/
def pHash (hash : Hmac) (result secret seed : Bytes) : Bytes :=
  pHashLoop hash secret seed result (hash.mac secret seed) 0

/-- `splitPreMasterSecret`: the first `⌈n/2⌉` bytes and the bytes from `⌊n/2⌋` on, which share
the middle byte when `n` is odd. -/
def splitPreMasterSecret (secret : Bytes) : Bytes × Bytes :=
  (secret.take ((secret.length + 1) / 2), secret.drop (secret.length / 2))

/-- `prf10(result, secret, label, seed)`. -/
def prf10 (md5 sha1 : Hmac) (result secret label seed : Bytes) : Bytes :=
  let labelAndSeed :=
    copyAt (goCopy (List.replicate (label.length + seed.length) 0) label) label.length seed
  let (s1, s2) := splitPreMasterSecret secret
  let result := pHash md5 result s1 labelAndSeed
  let result2 := pHash sha1 (List.replicate result.length 0) s2 labelAndSeed
  xorBytes result result2

/-- `prf(secret, label, clientSeed, serverSeed, clientSid, serverSid, olen)`. -/
def prf (md5 sha1 : Hmac) (secret label clientSeed serverSeed clientSid serverSid : Bytes)
    (olen : Nat) : Bytes :=
  let seed := clientSeed ++ serverSeed
  let seed := if clientSid.length ≠ 0 then seed ++ clientSid else seed
  let seed := if serverSid.length ≠ 0 then seed ++ serverSid else seed
  prf10 md5 sha1 (List.replicate olen 0) secret label seed

/-! ## RFC 2246, Section 5 -/

/-- A(0) = seed, A(i) = HMAC_hash(secret, A(i-1)). -/
def rfcA (hash : Hmac) (secret seed : Bytes) : Nat → Bytes
  | 0 => seed
  | i + 1 => hash.mac secret (rfcA hash secret seed i)

/-- `n` consecutive blocks of P_hash from block `start` on: HMAC_hash(secret, A(i+1) ‖ seed)
for i = start, start + 1, .... -/
def rfcBlocks (hash : Hmac) (secret seed : Bytes) (start : Nat) : Nat → Bytes
  | 0 => []
  | n + 1 => hash.mac secret (rfcA hash secret seed (start + 1) ++ seed) ++
      rfcBlocks hash secret seed (start + 1) n

/-- P_hash(secret, seed), cut to its first `olen` bytes. -/
def rfcPHash (hash : Hmac) (secret seed : Bytes) (olen : Nat) : Bytes :=
  (rfcBlocks hash secret seed 0 olen).take olen

/-- PRF(secret, label, seed) = P_MD5(S1, label ‖ seed) XOR P_SHA-1(S2, label ‖ seed), where S1
is the first and S2 the last `⌈n/2⌉` bytes of the `n`-byte secret. -/
def rfcPrf (md5 sha1 : Hmac) (secret label seed : Bytes) (olen : Nat) : Bytes :=
  let half := (secret.length + 1) / 2
  xorBytes (rfcPHash md5 (secret.take half) (label ++ seed) olen)
    (rfcPHash sha1 (secret.drop (secret.length - half)) (label ++ seed) olen)

end MiniVpn.Crypto
