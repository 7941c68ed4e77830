import Mathlib.Data.List.Basic

/-! # The Go runtime as the protocol engine sees it

Byte strings are lists of `UInt8`. A Go call that returns `(T, error)` is an `Except` over the
sentinel errors of the repository; a call that can also panic (an index out of range, a
`crypto/cipher` precondition, a failed `runtimex.Assert`) returns a `Fault`. The built-in `copy`,
the `bytes.Buffer` the transports read through and the byte-wise XOR are defined once here.
-/

namespace MiniVpn

/-- A Go byte string. -/
abbrev Bytes := List UInt8

/-- The sentinel errors the modelled functions return, under their Go names; a constructor
with a `detail` is the sentinel wrapped by `fmt.Errorf("%w: %s", ...)`. -/
inductive GoError where
  /-- `errBadInput`: "bad input". -/
  | badInput (detail : String)
  /-- `session.ErrExpiredKey`: "expired key". -/
  | expiredKey
  /-- `session.ErrNoRemoteSessionID`: "missing remote session ID". -/
  | noRemoteSessionID
  /-- `errInvalidKeySize`: "invalid key size". -/
  | invalidKeySize
  /-- `errPadding`: "padding error". -/
  | padding
  /-- `errUnsupportedCipher`: "unsupported cipher". -/
  | unsupportedCipher
  /-- `errUnsupportedMode`: "unsupported mode". -/
  | unsupportedMode
  /-- `aes.KeySizeError`: "crypto/aes: invalid key size". -/
  | aesKeySize (size : Nat)
  /-- `cipher.AEAD.Open`'s authentication failure. -/
  | openFailed
  /-- `strconv.ErrSyntax` from `strconv.Atoi`. -/
  | numSyntax (input : String)
  /-- `strconv.ErrRange` from `strconv.Atoi`. -/
  | numRange (input : String)
  /-- `io.EOF`. -/
  | eof
  /-- `io.ErrUnexpectedEOF`: `io.ReadFull` met `io.EOF` after some bytes. -/
  | unexpectedEOF
  /-- `ErrBadConnNetwork`: "bad conn.Network value", with the network. -/
  | badConnNetwork (network : String)
  /-- An error of the underlying `net.Conn` or TLS stream. -/
  | conn (detail : String)
  /-- `errBadAuth`: the server answered the push request with `AUTH_FAILED`. -/
  | badAuth
  /-- `errBadServerReply`. -/
  | badServerReply (detail : String)
  /-- `errBadControlMessage`. -/
  | badControlMessage (detail : String)
  /-- `ErrBadHandshake`: "bad vpn handshake", wrapping the text of the error that caused it. -/
  | badHandshake (cause : GoError)
  /-- `errors.New("cannot read server reset")` in `muxer.Reset`. -/
  | cannotReadServerReset
  deriving DecidableEq, Repr

/-- Results of Go calls compare by constructor and payload, so that runs of the model can be
checked by evaluation. -/
instance instDecidableEqExceptGo {ε α : Type} [DecidableEq ε] [DecidableEq α] :
    DecidableEq (Except ε α)
  | .error a, .error b => decidable_of_iff (a = b) (by simp)
  | .ok a, .ok b => decidable_of_iff (a = b) (by simp)
  | .error _, .ok _ => isFalse (by simp)
  | .ok _, .error _ => isFalse (by simp)

/-- How a Go call that may panic ends when it does not return normally. -/
inductive Fault where
  | error (err : GoError)
  | panic (reason : String)
  deriving DecidableEq, Repr

/-- Go's built-in `copy(dst, src)`: the first `min(len(dst), len(src))` bytes of `dst` become
those of `src`; the length of `dst` never changes. -/
def goCopy {α : Type} (dst src : List α) : List α :=
  src.take dst.length ++ dst.drop src.length

/-- `copy(dst[j:], src)`. -/
def copyAt {α : Type} (dst : List α) (j : Nat) (src : List α) : List α :=
  dst.take j ++ goCopy (dst.drop j) src

@[simp] theorem length_goCopy {α : Type} (dst src : List α) :
    (goCopy dst src).length = dst.length := by
  simp only [goCopy, List.length_append, List.length_take, List.length_drop]
  omega

@[simp] theorem length_copyAt {α : Type} (dst : List α) (j : Nat) (src : List α) :
    (copyAt dst j src).length = dst.length := by
  simp only [copyAt, List.length_append, List.length_take, length_goCopy, List.length_drop]
  omega

/-- Copying into a zeroed buffer of exactly the right size yields the source. -/
theorem goCopy_replicate {α : Type} (src : List α) (zero : α) :
    goCopy (List.replicate src.length zero) src = src := by
  simp [goCopy]

/-- Copying into a zeroed buffer keeps what fits of the source, then the buffer's zeros. -/
theorem goCopy_replicate_eq {α : Type} (n : Nat) (zero : α) (src : List α) :
    goCopy (List.replicate n zero) src = src.take n ++ List.replicate (n - src.length) zero := by
  simp only [goCopy, List.length_replicate, List.drop_replicate]

/-- What `copy(dst[j:], src)` leaves in front of position `j + len(src)`: the old prefix, then
as much of `src` as fits. -/
theorem take_copyAt {α : Type} (dst : List α) (j : Nat) (src : List α) (inside : j ≤ dst.length) :
    (copyAt dst j src).take (j + src.length) = dst.take j ++ src.take (dst.length - j) := by
  have front : (dst.take j).length = j := by simp; omega
  rw [copyAt, List.take_append_eq_append_take, front, List.take_of_length_le (by omega),
    Nat.add_sub_cancel_left, goCopy, List.take_append_eq_append_take]
  by_cases fits : src.length ≤ dst.length - j
  · simp [List.take_of_length_le fits]
  · have gone : (dst.drop j).drop src.length = [] := List.drop_eq_nil_of_le (by simp; omega)
    simp [gone, List.take_of_length_le, Nat.min_le_right]

/-! ## Bytes as numbers -/

/-- Go's `byte(n)` keeps the low eight bits. -/
@[simp] theorem UInt8.toNat_ofNat_mod (n : Nat) : (UInt8.ofNat n).toNat = n % 256 := by
  show (BitVec.ofNat 8 n).toNat = n % 256
  rw [BitVec.toNat_ofNat]

theorem UInt8.ofNat_eq_of_mod (n : Nat) (x : UInt8) (low : n % 256 = x.toNat) :
    UInt8.ofNat n = x :=
  UInt8.eq_of_val_eq (Fin.ext ((UInt8.toNat_ofNat_mod n).trans low))

/-! ## Byte-wise XOR -/

private theorem UInt8.xor_xor_cancel (a b : UInt8) : a ^^^ b ^^^ b = a := by
  cases a with
  | mk a => cases b with
    | mk b =>
      show UInt8.mk (a ^^^ b ^^^ b) = UInt8.mk a
      rw [BitVec.xor_assoc, BitVec.xor_self, BitVec.xor_zero]

/-- `subtle.XORBytes` and the `result[i] ^= b` loops: XOR over the common length. -/
def xorBytes (a b : Bytes) : Bytes :=
  List.zipWith (· ^^^ ·) a b

@[simp] theorem length_xorBytes (a b : Bytes) :
    (xorBytes a b).length = min a.length b.length := by
  simp [xorBytes]

/-- XOR with the same mask twice gives back the input, as long as the mask covers it. -/
theorem xorBytes_xorBytes_cancel (a mask : Bytes) (covers : a.length ≤ mask.length) :
    xorBytes (xorBytes a mask) mask = a := by
  induction a generalizing mask with
  | nil => rfl
  | cons x xs ih =>
    cases mask with
    | nil => simp at covers
    | cons m ms =>
      simp only [xorBytes, List.zipWith_cons_cons, List.cons.injEq] at ih ⊢
      exact ⟨UInt8.xor_xor_cancel x m, ih ms (by simpa using covers)⟩

/-! ## `bytes.Buffer` -/

/-- `(*bytes.Buffer).Read(p)` with `len(p) = size`: the bytes read, `io.EOF` when the buffer is
empty and `p` is not, and the bytes left unread. -/
def bufferRead (buffer : Bytes) (size : Nat) : (Bytes × Option GoError) × Bytes :=
  if buffer.isEmpty then (([], if size = 0 then none else some .eof), [])
  else ((buffer.take size, none), buffer.drop size)

/-- A read hands out the first `size` bytes of the buffer, or all of them if it holds fewer. -/
@[simp] theorem bufferRead_read (buffer : Bytes) (size : Nat) :
    (bufferRead buffer size).1.1 = buffer.take size := by
  unfold bufferRead
  split <;> simp_all [List.isEmpty_iff]

@[simp] theorem bufferRead_rest (buffer : Bytes) (size : Nat) :
    (bufferRead buffer size).2 = buffer.drop size := by
  unfold bufferRead
  split <;> simp_all [List.isEmpty_iff]

/-- Reading never loses or reorders bytes: what is read, then what is left, is the buffer. -/
theorem bufferRead_append (buffer : Bytes) (size : Nat) :
    (bufferRead buffer size).1.1 ++ (bufferRead buffer size).2 = buffer := by
  rw [bufferRead_read, bufferRead_rest, List.take_append_drop]

end MiniVpn
