import LnGossipSim.Library.BigEndian
import LnGossipSim.Library.Method
import LnGossipSim.Bolt.Types

/-!
# Cryptographic Primitives

The cipher, the hash and the key derivation function come from libraries that
are not part of the repository. `Primitives` lists the operations the code
calls, and `PrimitiveCall` is what a run notes of each call. A result that
assumes something of the primitives assumes it either for all inputs, as
`Primitives.OpensSealed` does, or for the calls of one run.

The wrappers around the primitives are translated here. Sealing is expected
never to fail, so a failure there is a panic, and a failure to open is an
error.

## Main definitions

* `Primitives`: The operations of the cryptographic libraries.
* `Primitives.OpensSealed`: Opening undoes sealing, 16 bytes longer.
* `Primitives.OpensShorter`: What opens is 16 bytes shorter.
* `Primitives.transparent`: Primitives that meet this assumption.
* `PrimitiveCall`: A call of a primitive, with its result.
* `NoiseError`: What the handshake and the ciphers can report.
* `encryptWithAd`, `decryptWithAd`, `hkdfTwoKeys`: The wrappers.

## Theorems

* `encryptWithAd_keeps`, `decryptWithAd_keeps`, `hkdfTwoKeys_keeps`: The
  wrappers change no state.
* `encodeNonce_inj`: Different counters give different nonces.
* `run_encryptWithAd`, `run_encryptWithAd_bind`: Sealing.
* `run_decryptWithAd`, `run_decryptWithAd_bind`: Opening.
* `run_hkdfTwoKeys_bind`: Deriving keys.
-/

namespace LnGossipSim

namespace Noise

open BigEndian

/-- A 32-byte key or hash. -/
abbrev Key := ByteArr 32

/-- Poly1305 MAC size in bytes. -/
def macSize : Nat := 16

/-- Maximum Lightning message size (limited by 2-byte length prefix). -/
def maxMessageSize : Nat := 65535

/-- The operations of the cryptographic libraries: SHA-256, HKDF with an output
    of 64 bytes, and encryption and decryption with ChaCha20-Poly1305. -/
structure Primitives where
  sha256 : Bytes → ByteArr 32
  hkdf : Key → Bytes → ByteArr 64
  encrypt : Key → ByteArr 12 → Bytes → Bytes → Option Bytes
  decrypt : Key → ByteArr 12 → Bytes → Bytes → Option Bytes

/-- Sealing a message of at most 65535 bytes succeeds and adds 16 bytes, and
    opening the result under the same key, nonce and associated data gives the
    message back. -/
def Primitives.OpensSealed (P : Primitives) : Prop :=
  ∀ key nonce ad plaintext, plaintext.length ≤ maxMessageSize →
    ∃ c, P.encrypt key nonce ad plaintext = some c ∧ c.length = plaintext.length + macSize
      ∧ P.decrypt key nonce ad c = some plaintext

/-- What opens is 16 bytes shorter than what was sealed. -/
def Primitives.OpensShorter (P : Primitives) : Prop :=
  ∀ key nonce ad c plaintext, P.decrypt key nonce ad c = some plaintext →
    c.length = plaintext.length + macSize

/-- The first `n` bytes, with zeros behind them. -/
def padded (n : Nat) (data : Bytes) : ByteArr n :=
  Slice.pack ((data ++ List.replicate n 0).take n) (by
    rw [List.length_take, List.length_append, List.length_replicate]
    omega)

/-- What the transparent cipher appends to a message: parts of the key, the
    nonce and the associated data. -/
def transparentTag (key : Key) (nonce : ByteArr 12) (ad : Bytes) : ByteArr macSize :=
  padded macSize (key.toList.take 4 ++ nonce.toList.drop 4 ++ ad.take 4)

/-- Primitives that hide nothing. The hash keeps the last bytes of its input,
    key derivation adds up its inputs, and the cipher appends a tag to the
    message. Opening undoes sealing, as it does for the real ones. -/
def Primitives.transparent : Primitives where
  sha256 data := padded 32 data.reverse
  hkdf salt ikm := padded 32 ikm ++ List.Vector.map₂ (fun a b => a + b + 1) salt (padded 32 ikm)
  encrypt key nonce ad plaintext := some (plaintext ++ (transparentTag key nonce ad).toList)
  decrypt key nonce ad c :=
    if c.drop (c.length - macSize) = (transparentTag key nonce ad).toList
    then some (c.take (c.length - macSize)) else none

theorem Primitives.transparent_opensSealed : transparent.OpensSealed := by
  intro key nonce ad plaintext _
  have htag : (transparentTag key nonce ad).toList.length = macSize := List.Vector.toList_length _
  have hlen : (plaintext ++ (transparentTag key nonce ad).toList).length
      = plaintext.length + macSize := by
    rw [List.length_append, htag]
  refine ⟨plaintext ++ (transparentTag key nonce ad).toList, rfl, hlen, ?_⟩
  simp only [transparent, hlen, Nat.add_sub_cancel, List.drop_left, List.take_left, if_true]

theorem Primitives.transparent_opensShorter : transparent.OpensShorter := by
  intro key nonce ad c plaintext h
  have htag : (transparentTag key nonce ad).toList.length = macSize := List.Vector.toList_length _
  simp only [transparent] at h
  by_cases hc : c.drop (c.length - macSize) = (transparentTag key nonce ad).toList
  · rw [if_pos hc, Option.some.injEq] at h
    -- The last bytes are a tag, so there are enough of them.
    have hlen := congrArg List.length hc
    rw [List.length_drop, htag] at hlen
    rw [← h, List.length_take]
    omega
  · rw [if_neg hc] at h
    exact nomatch h

/-- A call of a primitive: what was sealed and the ciphertext, what was opened
    and the result, or the inputs of a key derivation. -/
inductive PrimitiveCall where
  | sealing (key : Key) (nonce : ByteArr 12) (ad plaintext ciphertext : Bytes)
  | opening (key : Key) (nonce : ByteArr 12) (ad ciphertext : Bytes) (result : Option Bytes)
  | hkdf (salt : Key) (ikm : Bytes)
  deriving DecidableEq

/-- What the handshake and the ciphers can report. -/
inductive NoiseError where
  | actOneBadVersion (version : UInt8)
  | actOneBadPubkey
  | actOneBadTag
  | actTwoBadVersion (version : UInt8)
  | actTwoBadPubkey
  | actTwoBadTag
  | actThreeBadVersion (version : UInt8)
  | actThreeBadCiphertext
  | actThreeBadPubkey
  | actThreeBadTag
  | decryptionFailed
  | handshakeIncomplete
  | invalidState
  | io (message : String)
  deriving DecidableEq

/-- The text of an error. -/
def NoiseError.text : NoiseError → String
  | .actOneBadVersion version => s!"ACT1_BAD_VERSION {version}"
  | .actOneBadPubkey => "ACT1_BAD_PUBKEY"
  | .actOneBadTag => "ACT1_BAD_TAG"
  | .actTwoBadVersion version => s!"ACT2_BAD_VERSION {version}"
  | .actTwoBadPubkey => "ACT2_BAD_PUBKEY"
  | .actTwoBadTag => "ACT2_BAD_TAG"
  | .actThreeBadVersion version => s!"ACT3_BAD_VERSION {version}"
  | .actThreeBadCiphertext => "ACT3_BAD_CIPHERTEXT"
  | .actThreeBadPubkey => "ACT3_BAD_PUBKEY"
  | .actThreeBadTag => "ACT3_BAD_TAG"
  | .decryptionFailed => "DECRYPTION_FAILED"
  | .handshakeIncomplete => "HANDSHAKE_INCOMPLETE"
  | .invalidState => "INVALID_STATE"
  | .io message => s!"IO: {message}"

/-- A method of this crate: it notes the primitives it calls. -/
abbrev NoiseMethod (σ ε α : Type) := Method PrimitiveCall σ ε α

/-- Encodes nonce as 96-bit little-endian: 32 zero bits, then the 64-bit
    value. -/
def encodeNonce (n : UInt64) : ByteArr 12 :=
  Slice.pack ([0, 0, 0, 0] ++ (beBytes 8 n.toNat).reverse) (by
    rw [List.length_append, List.length_reverse, beBytes_length]
    rfl)

section

variable (P : Primitives) {σ ε : Type}

/-- Encrypts plaintext with ChaCha20-Poly1305 per BOLT 8. -/
def encryptWithAd (key : Key) (nonce : UInt64) (ad plaintext : Bytes) : NoiseMethod σ ε Bytes := do
  let c ← Method.lift (Outcome.expect (P.encrypt key (encodeNonce nonce) ad plaintext))
  Method.record (.sealing key (encodeNonce nonce) ad plaintext c)
  return c

/-- Decrypts ciphertext with ChaCha20-Poly1305 per BOLT 8. -/
def decryptWithAd (key : Key) (nonce : UInt64) (ad ciphertext : Bytes) :
    NoiseMethod σ NoiseError Bytes := do
  let result := P.decrypt key (encodeNonce nonce) ad ciphertext
  Method.record (.opening key (encodeNonce nonce) ad ciphertext result)
  Method.lift (Outcome.okOr .decryptionFailed result)

/-- The two 32-byte halves of the derived output. -/
def Primitives.twoKeys (salt : Key) (ikm : Bytes) : Key × Key :=
  let output := (P.hkdf salt ikm).toList
  have hlen : output.length = 64 := (P.hkdf salt ikm).toList_length
  (Slice.pack (output.take 32) (by rw [List.length_take, hlen]; rfl),
    Slice.pack (output.drop 32) (by rw [List.length_drop, hlen]))

/-- HKDF extract-and-expand to derive two 32-byte keys. -/
def hkdfTwoKeys (salt : Key) (ikm : Bytes) : NoiseMethod σ ε (Key × Key) := do
  Method.record (.hkdf salt ikm)
  return P.twoKeys salt ikm

variable {P}

/-- Sealing, when it succeeds. -/
theorem run_encryptWithAd (key : Key) (nonce : UInt64) (ad plaintext c : Bytes) (s : σ)
    (h : P.encrypt key (encodeNonce nonce) ad plaintext = some c) :
    (encryptWithAd P key nonce ad plaintext : NoiseMethod σ ε Bytes).run s
      = ⟨.ok c, s, [.sealing key (encodeNonce nonce) ad plaintext c]⟩ := by
  unfold encryptWithAd
  rw [h, Outcome.expect_some]
  rfl

/-- Opening, by its result. -/
theorem run_decryptWithAd (key : Key) (nonce : UInt64) (ad ciphertext : Bytes) (s : σ) :
    (decryptWithAd P key nonce ad ciphertext).run s
      = ⟨Outcome.okOr .decryptionFailed (P.decrypt key (encodeNonce nonce) ad ciphertext), s,
          [.opening key (encodeNonce nonce) ad ciphertext
            (P.decrypt key (encodeNonce nonce) ad ciphertext)]⟩ := rfl

/-- A method that starts by sealing a message. -/
theorem run_encryptWithAd_bind {α : Type} (key : Key) (nonce : UInt64) (ad plaintext : Bytes)
    (f : Bytes → NoiseMethod σ ε α) (s : σ) :
    (encryptWithAd P key nonce ad plaintext >>= f).run s
      = match P.encrypt key (encodeNonce nonce) ad plaintext with
        | some c => ((f c).run s).after [.sealing key (encodeNonce nonce) ad plaintext c]
        | none => ⟨.panicked, s, []⟩ := by
  unfold encryptWithAd
  cases P.encrypt key (encodeNonce nonce) ad plaintext with
  | some c => rfl
  | none => rfl

/-- A method that starts by opening a message, with its own error. -/
theorem run_decryptWithAd_bind {α : Type} (g : NoiseError → NoiseError) (key : Key)
    (nonce : UInt64) (ad ciphertext : Bytes) (f : Bytes → NoiseMethod σ NoiseError α) (s : σ) :
    (Method.mapErr g (decryptWithAd P key nonce ad ciphertext) >>= f).run s
      = match P.decrypt key (encodeNonce nonce) ad ciphertext with
        | some p => ((f p).run s).after [.opening key (encodeNonce nonce) ad ciphertext (some p)]
        | none => ⟨.err (g .decryptionFailed), s,
            [.opening key (encodeNonce nonce) ad ciphertext none]⟩ := by
  rw [Method.run_bind]
  unfold decryptWithAd Method.mapErr Method.run
  cases P.decrypt key (encodeNonce nonce) ad ciphertext with
  | some p => rfl
  | none => rfl

/-- A method that starts by deriving keys, which always succeeds. -/
theorem run_hkdfTwoKeys_bind {α : Type} (salt : Key) (ikm : Bytes)
    (f : Key × Key → NoiseMethod σ ε α) (s : σ) :
    (hkdfTwoKeys P salt ikm >>= f).run s
      = ((f (P.twoKeys salt ikm)).run s).after [.hkdf salt ikm] :=
  Method.run_bind_of_ok _ _ _ _ _ _ rfl

section

variable {β : Type} (f : σ → β)

theorem encryptWithAd_keeps (key : Key) (nonce : UInt64) (ad plaintext : Bytes) :
    (encryptWithAd P key nonce ad plaintext : NoiseMethod σ ε Bytes).Keeps f := by
  refine Method.keeps_bind f _ _ (Method.keeps_lift f _) (fun c => ?_)
  exact Method.keeps_bind f _ _ (Method.keeps_record f _) (fun _ => Method.keeps_pure f c)

theorem decryptWithAd_keeps (key : Key) (nonce : UInt64) (ad ciphertext : Bytes) :
    (decryptWithAd P key nonce ad ciphertext).Keeps f :=
  Method.keeps_bind f _ _ (Method.keeps_record f _) (fun _ => Method.keeps_lift f _)

theorem hkdfTwoKeys_keeps (salt : Key) (ikm : Bytes) :
    (hkdfTwoKeys P salt ikm : NoiseMethod σ ε (Key × Key)).Keeps f :=
  Method.keeps_bind f _ _ (Method.keeps_record f _) (fun _ => Method.keeps_pure f _)

end

end

/-- Different counters give different nonces. -/
theorem encodeNonce_inj (m n : UInt64) (h : encodeNonce m = encodeNonce n) : m = n := by
  have hlist : (encodeNonce m).toList = (encodeNonce n).toList := congrArg _ h
  unfold encodeNonce at hlist
  rw [Slice.pack_toList, Slice.pack_toList, List.append_cancel_left_eq, List.reverse_inj] at hlist
  exact UInt64.toNat_inj.mp (beBytes_inj 8 _ _ m.toNat_lt n.toNat_lt hlist)

end Noise

end LnGossipSim
