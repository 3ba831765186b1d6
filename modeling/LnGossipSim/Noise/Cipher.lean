import LnGossipSim.Library.Ratchet
import LnGossipSim.Bolt.Wire
import LnGossipSim.Noise.Primitives

/-!
# Message Ciphers

The ciphers that protect messages after the handshake. A cipher half is a key,
a nonce counter and a chaining key. Before every use the half rotates its key
when the counter has reached the threshold; after a successful use the counter
goes up by one. A failed opening rotates but does not count.

Sending and receiving halves have the same fields and rotate alike, so they are
one structure here, and a half is a lazy ratchet over pairs of a chaining key
and a key. What one use does is said once, by `run_sealNext` and
`run_openNext`. Every result about runs of the ciphers is derived from these
two.

## Main definitions

* `HalfCipher`, `SendCipher`, `RecvCipher`: The halves of a cipher.
* `HalfCipher.maybeRotate`: Rotate the key when it is used up.
* `SendCipher.encrypt`, `SendCipher.encryptLength`: Sealing a message.
* `RecvCipher.decryptLength`, `RecvCipher.decryptMessage`: Opening one.
* `NoiseCipher`: Both halves, as the handshake makes them.
* `HalfCipher.settled`, `HalfCipher.used`: The half before and after a use.
* `HalfCipher.toRatchet`: A half as a lazy ratchet.

## Theorems

* `run_maybeRotate`: Rotating settles the half.
* `run_sealNext`, `run_openNext`: One use of a half.
* `openNext_settles`, `decryptLength_settles`: Opening does not panic.
* `toRatchet_settled`, `toRatchet_used`: A use is a use of the ratchet.
* `sealNext_openNext`: Halves in the same state seal and open alike.
* `run_decryptLength`: An opened length prefix is the number it encodes.
* `encrypt_opens`: What is encrypted opens in two parts.
-/

namespace LnGossipSim

namespace Noise

open BigEndian Bolt

/-- Encrypted length prefix size: 2 bytes length + MAC. -/
def encryptedLengthSize : Nat := 2 + macSize

/-- Key rotation threshold - rotate after 1000 encryptions or decryptions. -/
def keyRotationThreshold : UInt64 := 1000

/-- One half of a split cipher. -/
structure HalfCipher where
  key : Key
  nonce : UInt64
  ck : Key
  deriving DecidableEq

/-- Send half of a split `NoiseCipher`. Handles only encryption. -/
abbrev SendCipher := HalfCipher

/-- Receive half of a split `NoiseCipher`. Handles only decryption. -/
abbrev RecvCipher := HalfCipher

/-- Handles post-handshake message encryption and decryption. -/
structure NoiseCipher where
  sendKey : Key
  recvKey : Key
  sendNonce : UInt64
  recvNonce : UInt64
  sendCk : Key
  recvCk : Key
  deriving DecidableEq

namespace NoiseCipher

/-- Creates a new cipher from the handshake-derived send key, receive key, and
    chaining key. -/
def new (sendKey recvKey chainingKey : Key) : NoiseCipher :=
  { sendKey, recvKey, sendNonce := 0, recvNonce := 0, sendCk := chainingKey,
    recvCk := chainingKey }

/-- Splits this cipher into independent send and receive halves. -/
def split (c : NoiseCipher) : SendCipher × RecvCipher :=
  (⟨c.sendKey, c.sendNonce, c.sendCk⟩, ⟨c.recvKey, c.recvNonce, c.recvCk⟩)

end NoiseCipher

section

variable (P : Primitives) {ε : Type}

namespace HalfCipher

/-- Rotates the key if the nonce has reached the threshold. -/
def maybeRotate : NoiseMethod HalfCipher ε Unit := do
  let c ← Method.get
  if keyRotationThreshold ≤ c.nonce then do
    let (newCk, newKey) ← hkdfTwoKeys P c.ck c.key.toList
    Method.modify fun _ => { key := newKey, nonce := 0, ck := newCk }
  else
    pure ()

/-- Seals a plaintext under the current key and nonce, and counts the use. -/
def sealNext (plaintext : Bytes) : NoiseMethod HalfCipher ε Bytes := do
  maybeRotate P
  let c ← Method.get
  let encrypted ← encryptWithAd P c.key c.nonce [] plaintext
  Method.modify fun c => { c with nonce := c.nonce + 1 }
  return encrypted

/-- Opens a ciphertext under the current key and nonce, and counts the use when
    that succeeds. -/
def openNext (ciphertext : Bytes) : NoiseMethod HalfCipher NoiseError Bytes := do
  maybeRotate P
  let c ← Method.get
  let plaintext ← decryptWithAd P c.key c.nonce [] ciphertext
  Method.modify fun c => { c with nonce := c.nonce + 1 }
  return plaintext

end HalfCipher

namespace SendCipher

/-- Encrypts just the 2-byte length prefix, advancing the nonce by one. -/
def encryptLength (length : UInt16) : NoiseMethod SendCipher ε Bytes :=
  HalfCipher.sealNext P (beBytes 2 length.toNat)

/-- Encrypts a Lightning message for sending: its encrypted length followed by
    the encrypted message. Panics if the plaintext is longer than 65535
    bytes. -/
def encrypt (plaintext : Bytes) : NoiseMethod SendCipher ε Bytes := do
  let length ← Method.lift (Outcome.expect
    (if plaintext.length < 2 ^ 16 then some (UInt16.ofNat plaintext.length) else none))
  let encryptedLen ← encryptLength P length
  let encryptedMsg ← HalfCipher.sealNext P plaintext
  return encryptedLen ++ encryptedMsg

end SendCipher

namespace RecvCipher

/-- Decrypts the length prefix from an encrypted length header. -/
def decryptLength (encryptedLen : ByteArr encryptedLengthSize) :
    NoiseMethod RecvCipher NoiseError UInt16 := do
  let lenBytes ← HalfCipher.openNext P encryptedLen.toList
  let hi ← Method.lift (Outcome.expect lenBytes[0]?)
  let lo ← Method.lift (Outcome.expect lenBytes[1]?)
  return UInt16.ofNat (beNat [hi, lo])

/-- Decrypts the message body after the length has been decrypted. -/
def decryptMessage (encryptedMsg : Bytes) : NoiseMethod RecvCipher NoiseError Bytes :=
  HalfCipher.openNext P encryptedMsg

end RecvCipher

namespace HalfCipher

/-- The half as a use finds it: rotated when it is due. -/
def settled (c : HalfCipher) : HalfCipher :=
  if keyRotationThreshold ≤ c.nonce then
    { key := (P.twoKeys c.ck c.key.toList).2, nonce := 0, ck := (P.twoKeys c.ck c.key.toList).1 }
  else c

/-- The half as a use leaves it. -/
def used (c : HalfCipher) : HalfCipher :=
  { c.settled P with nonce := (c.settled P).nonce + 1 }

/-- The primitive a use calls before sealing or opening. -/
def rotationCalls (c : HalfCipher) : List PrimitiveCall :=
  if keyRotationThreshold ≤ c.nonce then [.hkdf c.ck c.key.toList] else []

/-- The key pair that replaces a chaining key and a key. -/
def nextKeys (keys : Key × Key) : Key × Key := P.twoKeys keys.1 keys.2.toList

/-- A half as a lazy ratchet over chaining keys and keys. -/
def toRatchet (c : HalfCipher) : Ratchet (Key × Key) := ⟨(c.ck, c.key), c.nonce.toNat⟩

variable {P}

/-- Rotating settles the half. -/
theorem run_maybeRotate (c : HalfCipher) :
    (maybeRotate P : NoiseMethod HalfCipher ε Unit).run c
      = ⟨.ok (), c.settled P, c.rotationCalls⟩ := by
  unfold maybeRotate settled rotationCalls
  rw [Method.run_get_bind]
  by_cases h : keyRotationThreshold ≤ c.nonce
  · rw [if_pos h, if_pos h, if_pos h]
    rfl
  · rw [if_neg h, if_neg h, if_neg h]
    rfl

/-- One use of a sending half. -/
theorem run_sealNext (c : HalfCipher) (plaintext ct : Bytes)
    (h : P.encrypt (c.settled P).key (encodeNonce (c.settled P).nonce) [] plaintext = some ct) :
    (sealNext P plaintext : NoiseMethod HalfCipher ε Bytes).run c
      = ⟨.ok ct, c.used P, c.rotationCalls
          ++ [.sealing (c.settled P).key (encodeNonce (c.settled P).nonce) [] plaintext ct]⟩ := by
  unfold sealNext
  rw [Method.run_bind_of_ok _ _ _ _ _ _ (run_maybeRotate c), Method.run_get_bind,
    Method.run_bind_of_ok _ _ _ _ _ _ (run_encryptWithAd _ _ _ _ ct _ h)]
  rfl

/-- One use of a receiving half, when the ciphertext opens. -/
theorem run_openNext_of_some (c : HalfCipher) (ct plaintext : Bytes)
    (h : P.decrypt (c.settled P).key (encodeNonce (c.settled P).nonce) [] ct = some plaintext) :
    (openNext P ct).run c
      = ⟨.ok plaintext, c.used P, c.rotationCalls
          ++ [.opening (c.settled P).key (encodeNonce (c.settled P).nonce) [] ct
            (some plaintext)]⟩ := by
  have hopen := run_decryptWithAd (P := P) (c.settled P).key (c.settled P).nonce [] ct (c.settled P)
  rw [h, Outcome.okOr_some] at hopen
  unfold openNext
  rw [Method.run_bind_of_ok _ _ _ _ _ _ (run_maybeRotate c), Method.run_get_bind,
    Method.run_bind_of_ok _ _ _ _ _ _ hopen]
  rfl

/-- One use of a receiving half, when the ciphertext does not open: the half is
    settled, and the use is not counted. -/
theorem run_openNext_of_none (c : HalfCipher) (ct : Bytes)
    (h : P.decrypt (c.settled P).key (encodeNonce (c.settled P).nonce) [] ct = none) :
    (openNext P ct).run c
      = ⟨.err .decryptionFailed, c.settled P, c.rotationCalls
          ++ [.opening (c.settled P).key (encodeNonce (c.settled P).nonce) [] ct none]⟩ := by
  have hopen := run_decryptWithAd (P := P) (c.settled P).key (c.settled P).nonce [] ct (c.settled P)
  rw [h, Outcome.okOr_none] at hopen
  unfold openNext
  rw [Method.run_bind_of_ok _ _ _ _ _ _ (run_maybeRotate c), Method.run_get_bind,
    Method.run_bind_of_err _ _ _ _ _ _ hopen]
  rfl

/-- Settling a half is settling its ratchet. -/
theorem toRatchet_settled (c : HalfCipher) :
    (c.settled P).toRatchet = Ratchet.settle (nextKeys P) 1000 c.toRatchet := by
  have hle : keyRotationThreshold ≤ c.nonce ↔ 1000 ≤ c.toRatchet.count := UInt64.le_iff_toNat_le
  unfold settled Ratchet.settle
  by_cases h : keyRotationThreshold ≤ c.nonce
  · rw [if_pos h, if_pos (hle.mp h)]
    rfl
  · rw [if_neg h, if_neg (fun hc => h (hle.mpr hc))]

/-- A settled half has uses left, so its counter does not overflow. -/
theorem settled_nonce_lt (c : HalfCipher) : (c.settled P).nonce.toNat < 1000 := by
  have h : (Ratchet.settle (nextKeys P) 1000 c.toRatchet).count < 1000 :=
    Ratchet.settle_count_lt (by decide) c.toRatchet
  rw [← toRatchet_settled] at h
  exact h

/-- Using a half is using its ratchet. -/
theorem toRatchet_used (c : HalfCipher) :
    (c.used P).toRatchet
      = Ratchet.advance (Ratchet.settle (nextKeys P) 1000 c.toRatchet) := by
  have hlt := settled_nonce_lt (P := P) c
  have hcount : ((c.settled P).nonce + 1).toNat = (c.settled P).nonce.toNat + 1 := by
    rw [UInt64.toNat_add, UInt64.toNat_one]
    omega
  rw [← toRatchet_settled]
  unfold used toRatchet Ratchet.advance
  simp only [hcount]

end HalfCipher

variable {P}

/-- What one half seals the other half, in the same state, opens, and both move
    on alike. -/
theorem sealNext_openNext (ε : Type) (hP : P.OpensSealed) (c : HalfCipher) (plaintext : Bytes)
    (h : plaintext.length ≤ maxMessageSize) :
    ∃ ct, ct.length = plaintext.length + macSize
      ∧ (HalfCipher.sealNext P plaintext : NoiseMethod HalfCipher ε Bytes).run c
        = ⟨.ok ct, c.used P, c.rotationCalls
          ++ [.sealing (c.settled P).key (encodeNonce (c.settled P).nonce) [] plaintext ct]⟩
      ∧ (HalfCipher.openNext P ct).run c
        = ⟨.ok plaintext, c.used P, c.rotationCalls
          ++ [.opening (c.settled P).key (encodeNonce (c.settled P).nonce) [] ct
            (some plaintext)]⟩ := by
  rcases hP (c.settled P).key (encodeNonce (c.settled P).nonce) [] plaintext h with
    ⟨ct, hseal, hlen, hopen⟩
  exact ⟨ct, hlen, HalfCipher.run_sealNext c plaintext ct hseal,
    HalfCipher.run_openNext_of_some c ct plaintext hopen⟩

/-- A length prefix that opens to the two bytes of a number is that number. -/
theorem run_decryptLength (c c' : RecvCipher) (header : ByteArr encryptedLengthSize)
    (length : UInt16) (t : List PrimitiveCall)
    (h : (HalfCipher.openNext P header.toList).run c = ⟨.ok (beBytes 2 length.toNat), c', t⟩) :
    (RecvCipher.decryptLength P header).run c = ⟨.ok length, c', t⟩ := by
  have hpair : beBytes 2 length.toNat
      = [UInt8.ofNat (length.toNat / 256), UInt8.ofNat length.toNat] := rfl
  have hback : UInt16.ofNat (beNat (beBytes 2 length.toNat)) = length := by
    rw [beNat_beBytes 2 _ length.toNat_lt, UInt16.ofNat_toNat]
  unfold RecvCipher.decryptLength
  rw [Method.run_bind_of_ok _ _ _ _ _ _ h, hpair]
  rw [hpair] at hback
  change (⟨.ok _, c', t ++ []⟩ : Return _ _ _ _) = _
  rw [hback, List.append_nil]

/-- Opening ends in a plaintext or an error. -/
theorem openNext_settles (c : HalfCipher) (ct : Bytes) :
    ((HalfCipher.openNext P ct).run c).outcome.Settles := by
  rcases h : P.decrypt (c.settled P).key (encodeNonce (c.settled P).nonce) [] ct with _ | plaintext
  · rw [HalfCipher.run_openNext_of_none c ct h]
    exact Outcome.settles_err _
  · rw [HalfCipher.run_openNext_of_some c ct plaintext h]
    exact Outcome.settles_ok _

/-- So does opening a length: what opens has two bytes. -/
theorem decryptLength_settles (hP : P.OpensShorter) (c : RecvCipher)
    (header : ByteArr encryptedLengthSize) :
    ((RecvCipher.decryptLength P header).run c).outcome.Settles := by
  unfold RecvCipher.decryptLength
  rcases h : P.decrypt (c.settled P).key (encodeNonce (c.settled P).nonce) [] header.toList
    with _ | bytes
  · rw [Method.run_bind_of_err _ _ _ _ _ _ (HalfCipher.run_openNext_of_none c _ h)]
    exact Outcome.settles_err _
  · have hlen := hP _ _ _ _ _ h
    rw [header.toList_length] at hlen
    rw [Method.run_bind_of_ok _ _ _ _ _ _ (HalfCipher.run_openNext_of_some c _ bytes h)]
    rcases bytes with _ | ⟨hi, _ | ⟨lo, rest⟩⟩
    · exact absurd hlen (by decide)
    · exact absurd hlen (by simp [encryptedLengthSize, macSize])
    · exact Outcome.settles_ok _

/-- A message that is encrypted is its sealed length and its sealed bytes. In
    the same state, the receiving half opens the one and then the other. -/
theorem encrypt_opens (ε : Type) (hP : P.OpensSealed) (c : HalfCipher) (msg : Bytes)
    (h : msg.length ≤ maxMessageSize) :
    ∃ (header : ByteArr encryptedLengthSize) (body : Bytes),
      body.length = (UInt16.ofNat msg.length).toNat + macSize
      ∧ (∃ t, (SendCipher.encrypt P msg : NoiseMethod SendCipher ε Bytes).run c
        = ⟨.ok (header.toList ++ body), (c.used P).used P, t⟩)
      ∧ (∃ t, (RecvCipher.decryptLength P header).run c
        = ⟨.ok (UInt16.ofNat msg.length), c.used P, t⟩)
      ∧ ∃ t, (RecvCipher.decryptMessage P body).run (c.used P)
        = ⟨.ok msg, (c.used P).used P, t⟩ := by
  have hlt : msg.length < 2 ^ 16 := Nat.lt_succ_of_le h
  have hlength : (UInt16.ofNat msg.length).toNat = msg.length := by
    rw [UInt16.toNat_ofNat']
    exact Nat.mod_eq_of_lt hlt
  have hshort : (beBytes 2 (UInt16.ofNat msg.length).toNat).length ≤ maxMessageSize := by
    rw [beBytes_length]
    decide
  -- The length takes one use of the cipher and the message the next.
  rcases sealNext_openNext ε hP c _ hshort with ⟨header, hhlen, hhseal, hhopen⟩
  rcases sealNext_openNext ε hP (c.used P) msg h with ⟨body, hblen, hbseal, hbopen⟩
  -- A sealed length is always 18 bytes long.
  have hsize : header.length = encryptedLengthSize := by
    rw [hhlen, beBytes_length]
    rfl
  refine ⟨Slice.pack header hsize, body, by rw [hblen, hlength], ?_, ?_, ⟨_, hbopen⟩⟩
  · unfold SendCipher.encrypt SendCipher.encryptLength
    rw [if_pos hlt, Outcome.expect_some, Method.run_lift_ok_bind,
      Method.run_bind_of_ok _ _ _ _ _ _ hhseal, Method.run_bind_of_ok _ _ _ _ _ _ hbseal]
    exact ⟨_, rfl⟩
  · exact ⟨_, run_decryptLength c _ (Slice.pack header hsize) (UInt16.ofNat msg.length) _ hhopen⟩

end

end Noise

end LnGossipSim
