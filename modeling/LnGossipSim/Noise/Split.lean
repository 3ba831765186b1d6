import LnGossipSim.Library.Part
import LnGossipSim.Noise.Cipher

/-!
# Splitting a Cipher

Encryption, decryption and rotation are written twice in the repository, on the
combined cipher and on its halves. The combined cipher's methods are translated
here from its own fields, and each is shown to be the method of a half, run on
the fields that the half is made of. The halves are parts of the combined
cipher, so a statement on the one is a statement on the other.

A call on the combined cipher is then the call on the half that `split` gives,
whatever state it is made in, and splitting commutes with any sequence of
calls. That the directions do not affect each other is what it means to be run
on one part of the state.

## Main definitions

* `NoiseCipher.encrypt`, `NoiseCipher.decryptMessage` and the others: The
  methods of the combined cipher.
* `NoiseCipher.sendHalf`, `NoiseCipher.recvHalf`: Its parts.
* `CipherOp`: A call on a cipher, split or not.
* `CipherOp.onWhole`, `CipherOp.onHalf`, `CipherOp.onHalves`: What a call does.

## Theorems

* `encrypt_eq`, `decryptMessage_eq` and the others: Each method is that of a
  half.
* `onWhole_eq`: So is each call.
* `onHalves_split`: A call after the split is the call before it.
* `split_refines`: The split ciphers refine the combined one.
-/

namespace LnGossipSim

namespace Noise

open BigEndian Bolt

namespace NoiseCipher

/-- The fields the send half is made of. -/
def sendHalf : StatePart NoiseCipher SendCipher where
  view c := c.split.1
  update half c := { c with sendKey := half.key, sendNonce := half.nonce, sendCk := half.ck }
  view_update _ _ := rfl
  update_update _ _ _ := rfl
  update_view _ := rfl

/-- The fields the receive half is made of. -/
def recvHalf : StatePart NoiseCipher RecvCipher where
  view c := c.split.2
  update half c := { c with recvKey := half.key, recvNonce := half.nonce, recvCk := half.ck }
  view_update _ _ := rfl
  update_update _ _ _ := rfl
  update_view _ := rfl

section

variable (P : Primitives) {ε : Type}

/-- Rotates the send key if nonce reaches threshold. -/
def maybeRotateSendKey : NoiseMethod NoiseCipher ε Unit := do
  let c ← Method.get
  if keyRotationThreshold ≤ c.sendNonce then do
    let (newCk, newKey) ← hkdfTwoKeys P c.sendCk c.sendKey.toList
    Method.modify fun c => { c with sendCk := newCk, sendKey := newKey, sendNonce := 0 }
  else
    pure ()

/-- Rotates the receive key if nonce reaches threshold. -/
def maybeRotateRecvKey : NoiseMethod NoiseCipher ε Unit := do
  let c ← Method.get
  if keyRotationThreshold ≤ c.recvNonce then do
    let (newCk, newKey) ← hkdfTwoKeys P c.recvCk c.recvKey.toList
    Method.modify fun c => { c with recvCk := newCk, recvKey := newKey, recvNonce := 0 }
  else
    pure ()

/-- Encrypts just the 2-byte length prefix, advancing the send nonce by one. -/
def encryptLength (length : UInt16) : NoiseMethod NoiseCipher ε Bytes := do
  maybeRotateSendKey P
  let lenBytes := beBytes 2 length.toNat
  let c ← Method.get
  let encrypted ← encryptWithAd P c.sendKey c.sendNonce [] lenBytes
  Method.modify fun c => { c with sendNonce := c.sendNonce + 1 }
  return encrypted

/-- Encrypts a Lightning message for sending. The length is encrypted separately
    from the message body. Panics if the plaintext is longer than 65535
    bytes. -/
def encrypt (plaintext : Bytes) : NoiseMethod NoiseCipher ε Bytes := do
  let length ← Method.lift (Outcome.expect
    (if plaintext.length < 2 ^ 16 then some (UInt16.ofNat plaintext.length) else none))
  let encryptedLen ← encryptLength P length
  maybeRotateSendKey P
  let c ← Method.get
  let encryptedMsg ← encryptWithAd P c.sendKey c.sendNonce [] plaintext
  Method.modify fun c => { c with sendNonce := c.sendNonce + 1 }
  return encryptedLen ++ encryptedMsg

/-- Decrypts the length prefix of a packet. -/
def decryptLength (encryptedLen : ByteArr encryptedLengthSize) :
    NoiseMethod NoiseCipher NoiseError UInt16 := do
  maybeRotateRecvKey P
  let c ← Method.get
  let lenBytes ← decryptWithAd P c.recvKey c.recvNonce [] encryptedLen.toList
  Method.modify fun c => { c with recvNonce := c.recvNonce + 1 }
  let hi ← Method.lift (Outcome.expect lenBytes[0]?)
  let lo ← Method.lift (Outcome.expect lenBytes[1]?)
  return UInt16.ofNat (beNat [hi, lo])

/-- Decrypts the message body after the length has been decrypted. -/
def decryptMessage (encryptedMsg : Bytes) : NoiseMethod NoiseCipher NoiseError Bytes := do
  maybeRotateRecvKey P
  let c ← Method.get
  let plaintext ← decryptWithAd P c.recvKey c.recvNonce [] encryptedMsg
  Method.modify fun c => { c with recvNonce := c.recvNonce + 1 }
  return plaintext

section

variable {σ ρ : Type} (p : StatePart σ ρ)

theorem on_encryptWithAd (key : Key) (nonce : UInt64) (ad plaintext : Bytes) :
    Method.on p (encryptWithAd P key nonce ad plaintext : NoiseMethod ρ ε Bytes)
      = encryptWithAd P key nonce ad plaintext := by
  unfold encryptWithAd
  simp only [Method.on_bind, Method.on_lift, Method.on_record, Method.on_pure]

theorem on_decryptWithAd (key : Key) (nonce : UInt64) (ad ciphertext : Bytes) :
    Method.on p (decryptWithAd P key nonce ad ciphertext)
      = decryptWithAd P key nonce ad ciphertext := by
  unfold decryptWithAd
  simp only [Method.on_bind, Method.on_lift, Method.on_record]

theorem on_hkdfTwoKeys (salt : Key) (ikm : Bytes) :
    Method.on p (hkdfTwoKeys P salt ikm : NoiseMethod ρ ε (Key × Key))
      = hkdfTwoKeys P salt ikm := by
  unfold hkdfTwoKeys
  simp only [Method.on_bind, Method.on_record, Method.on_pure]

end

theorem maybeRotateSendKey_eq :
    (maybeRotateSendKey P : NoiseMethod NoiseCipher ε Unit)
      = Method.on sendHalf (HalfCipher.maybeRotate P) := by
  unfold maybeRotateSendKey HalfCipher.maybeRotate
  rw [Method.on_get_bind]
  congr 1
  funext c
  -- The half sees the same counter, so it rotates at the same time.
  by_cases h : keyRotationThreshold ≤ c.sendNonce
  · have hhalf : keyRotationThreshold ≤ (sendHalf.view c).nonce := h
    rw [if_pos h, if_pos hhalf, Method.on_bind, on_hkdfTwoKeys]
    rfl
  · have hhalf : ¬ keyRotationThreshold ≤ (sendHalf.view c).nonce := h
    rw [if_neg h, if_neg hhalf, Method.on_pure]

theorem maybeRotateRecvKey_eq :
    (maybeRotateRecvKey P : NoiseMethod NoiseCipher ε Unit)
      = Method.on recvHalf (HalfCipher.maybeRotate P) := by
  unfold maybeRotateRecvKey HalfCipher.maybeRotate
  rw [Method.on_get_bind]
  congr 1
  funext c
  -- The half sees the same counter, so it rotates at the same time.
  by_cases h : keyRotationThreshold ≤ c.recvNonce
  · have hhalf : keyRotationThreshold ≤ (recvHalf.view c).nonce := h
    rw [if_pos h, if_pos hhalf, Method.on_bind, on_hkdfTwoKeys]
    rfl
  · have hhalf : ¬ keyRotationThreshold ≤ (recvHalf.view c).nonce := h
    rw [if_neg h, if_neg hhalf, Method.on_pure]

/-- One use of the send half, on the combined cipher's fields. -/
theorem on_sealNext (plaintext : Bytes) :
    (Method.on sendHalf (HalfCipher.sealNext P plaintext) : NoiseMethod NoiseCipher ε Bytes)
      = do
        maybeRotateSendKey P
        let c ← Method.get
        let encrypted ← encryptWithAd P c.sendKey c.sendNonce [] plaintext
        Method.modify fun c => { c with sendNonce := c.sendNonce + 1 }
        return encrypted := by
  unfold HalfCipher.sealNext
  simp only [Method.on_bind, Method.on_modify, Method.on_pure, on_encryptWithAd,
    ← maybeRotateSendKey_eq]
  rfl

/-- One use of the receive half, on the combined cipher's fields. -/
theorem on_openNext (ciphertext : Bytes) :
    Method.on recvHalf (HalfCipher.openNext P ciphertext)
      = do
        maybeRotateRecvKey P
        let c ← Method.get
        let plaintext ← decryptWithAd P c.recvKey c.recvNonce [] ciphertext
        Method.modify fun c => { c with recvNonce := c.recvNonce + 1 }
        return plaintext := by
  unfold HalfCipher.openNext
  simp only [Method.on_bind, Method.on_modify, Method.on_pure, on_decryptWithAd,
    ← maybeRotateRecvKey_eq]
  rfl

theorem encryptLength_eq (length : UInt16) :
    (encryptLength P length : NoiseMethod NoiseCipher ε Bytes)
      = Method.on sendHalf (SendCipher.encryptLength P length) :=
  (on_sealNext P _).symm

/-- The combined `encrypt` seals the body where the half calls a method of its
    own, so the statements are the same once they are nested alike. -/
theorem encrypt_eq (plaintext : Bytes) :
    (encrypt P plaintext : NoiseMethod NoiseCipher ε Bytes)
      = Method.on sendHalf (SendCipher.encrypt P plaintext) := by
  unfold encrypt SendCipher.encrypt
  simp only [Method.on_bind, Method.on_lift, Method.on_pure, on_sealNext, encryptLength_eq,
    bind_assoc, pure_bind]

theorem decryptMessage_eq (encryptedMsg : Bytes) :
    decryptMessage P encryptedMsg
      = Method.on recvHalf (RecvCipher.decryptMessage P encryptedMsg) :=
  (on_openNext P _).symm

theorem decryptLength_eq (encryptedLen : ByteArr encryptedLengthSize) :
    decryptLength P encryptedLen
      = Method.on recvHalf (RecvCipher.decryptLength P encryptedLen) := by
  unfold decryptLength RecvCipher.decryptLength
  simp only [Method.on_bind, Method.on_lift, Method.on_pure, on_openNext, bind_assoc, pure_bind]

end

end NoiseCipher

/-- A call on a cipher, split or not. -/
inductive CipherOp where
  | encrypt (plaintext : Bytes)
  | encryptLength (length : UInt16)
  | decryptLength (encryptedLen : ByteArr encryptedLengthSize)
  | decryptMessage (encryptedMsg : Bytes)

/-- What a call on a cipher gives: bytes, or the length it decrypted. -/
inductive CipherOutput where
  | bytes (data : Bytes)
  | length (length : UInt16)

namespace CipherOp

/-- The calls of the sending direction. -/
def sends : CipherOp → Bool
  | .encrypt _ => true
  | .encryptLength _ => true
  | .decryptLength _ => false
  | .decryptMessage _ => false

variable (P : Primitives)

/-- The call on the combined cipher. -/
def onWhole : CipherOp → NoiseMethod NoiseCipher NoiseError CipherOutput
  | .encrypt plaintext => .bytes <$> NoiseCipher.encrypt P plaintext
  | .encryptLength length => .bytes <$> NoiseCipher.encryptLength P length
  | .decryptLength encryptedLen => .length <$> NoiseCipher.decryptLength P encryptedLen
  | .decryptMessage encryptedMsg => .bytes <$> NoiseCipher.decryptMessage P encryptedMsg

/-- The call on the half it is for. -/
def onHalf : CipherOp → NoiseMethod HalfCipher NoiseError CipherOutput
  | .encrypt plaintext => .bytes <$> SendCipher.encrypt P plaintext
  | .encryptLength length => .bytes <$> SendCipher.encryptLength P length
  | .decryptLength encryptedLen => .length <$> RecvCipher.decryptLength P encryptedLen
  | .decryptMessage encryptedMsg => .bytes <$> RecvCipher.decryptMessage P encryptedMsg

/-- The call on the two halves: encryption goes to the send half, decryption to
    the receive half. -/
def onHalves (op : CipherOp) : NoiseMethod (SendCipher × RecvCipher) NoiseError CipherOutput :=
  Method.on (if op.sends then StatePart.left else StatePart.right) (op.onHalf P)

/-- A call on the combined cipher is the call on a half, run on the fields of
    that half. -/
theorem onWhole_eq (op : CipherOp) :
    op.onWhole P
      = Method.on (if op.sends then NoiseCipher.sendHalf else NoiseCipher.recvHalf)
        (op.onHalf P) := by
  cases op with
  | encrypt plaintext =>
      exact (congrArg _ (NoiseCipher.encrypt_eq P plaintext)).trans (Method.on_map _ _ _).symm
  | encryptLength length =>
      exact (congrArg _ (NoiseCipher.encryptLength_eq P length)).trans (Method.on_map _ _ _).symm
  | decryptLength encryptedLen =>
      exact (congrArg _ (NoiseCipher.decryptLength_eq P encryptedLen)).trans
        (Method.on_map _ _ _).symm
  | decryptMessage encryptedMsg =>
      exact (congrArg _ (NoiseCipher.decryptMessage_eq P encryptedMsg)).trans
        (Method.on_map _ _ _).symm

/-- A call after the split is the call before it. -/
theorem onHalves_split (op : CipherOp) (c : NoiseCipher) :
    (op.onHalves P).run c.split
      = ⟨((op.onWhole P).run c).outcome, ((op.onWhole P).run c).state.split,
          ((op.onWhole P).run c).trace⟩ := by
  rw [onWhole_eq, onHalves]
  by_cases h : op.sends = true
  · rw [if_pos h, if_pos h]
    rfl
  · rw [if_neg h, if_neg h]
    rfl

/-- A call of one direction leaves the other's key, nonce and chaining key
    alone. -/
theorem onWhole_keeps (op : CipherOp) :
    (op.sends = true → (op.onWhole P).Keeps fun c => c.split.2)
      ∧ (op.sends = false → (op.onWhole P).Keeps fun c => c.split.1) := by
  rw [onWhole_eq]
  refine ⟨fun h => ?_, fun h => ?_⟩
  · rw [h]
    exact Method.keeps_on _ _ (fun _ _ => rfl) _
  · rw [h]
    exact Method.keeps_on _ _ (fun _ _ => rfl) _

/-- Splitting commutes with any sequence of calls. -/
theorem calls_onHalves (ops : List CipherOp) (c : NoiseCipher) :
    Method.calls (onHalves P) ops c.split
      = ⟨(Method.calls (onWhole P) ops c).outcomes, (Method.calls (onWhole P) ops c).state.split,
          (Method.calls (onWhole P) ops c).trace⟩ :=
  Method.calls_map _ _ _ (onHalves_split P) ops c

end CipherOp

/-- The split ciphers refine the combined one. Wherever it is split, each call
    gives what it would have given, and the halves are those of the combined
    cipher. A call leaves the other direction as it is, so each half is what its
    own calls make of it. -/
theorem split_refines (P : Primitives) (c : NoiseCipher) (ops : List CipherOp) :
    let r := Method.calls (CipherOp.onWhole P) ops c
    let r' := Method.calls (CipherOp.onHalves P) ops c.split
    r' = ⟨r.outcomes, r.state.split, r.trace⟩
      ∧ (∀ op : CipherOp,
        (op.sends = true → ((op.onWhole P).run c).state.split.2 = c.split.2
            ∧ ((op.onHalves P).run c.split).state.2 = c.split.2)
          ∧ (op.sends = false → ((op.onWhole P).run c).state.split.1 = c.split.1
            ∧ ((op.onHalves P).run c.split).state.1 = c.split.1))
      ∧ r.state.split
        = ((Method.calls (CipherOp.onHalf P) (ops.filter CipherOp.sends) c.split.1).state,
          (Method.calls (CipherOp.onHalf P) (ops.filter fun op => !op.sends) c.split.2).state) := by
  intro r r'
  have hcalls : r' = ⟨r.outcomes, r.state.split, r.trace⟩ := CipherOp.calls_onHalves P ops c
  refine ⟨hcalls, fun op => ?_, ?_⟩
  · rw [CipherOp.onHalves_split]
    rcases CipherOp.onWhole_keeps P op with ⟨hsend, hrecv⟩
    exact ⟨fun h => ⟨hsend h c, hsend h c⟩, fun h => ⟨hrecv h c, hrecv h c⟩⟩
  -- On a pair, calls for one part leave the other part to its own calls.
  · have hstate := Method.calls_split (CipherOp.onHalf P) CipherOp.sends ops c.split
    exact (congrArg Method.Calls.state hcalls).symm.trans hstate

end Noise

end LnGossipSim
