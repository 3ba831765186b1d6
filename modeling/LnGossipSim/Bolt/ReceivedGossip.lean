import LnGossipSim.Bolt.Signing

/-!
# Received Gossip

What is hashed to check a gossip message that was received. The hash is
computed from the decoded fields, and the decoders ignore whatever follows the
last field they know. A payload that ends there is hashed from behind its
signatures to its end, as its author hashed it. A longer one is not: what
follows the last known field is left out, so the hash is that of a part of what
was signed, and a valid signature is rejected.

Where the last known field ends can be read off the payload, from its length
prefixes alone.

## Main definitions

* `Signing.NoCollision`: Two inputs do not collide.
* `u16At`: The 16-bit number at an offset of a payload.
* `NodeAnnouncement.lastFieldEnd`, `ChannelUpdate.lastFieldEnd`,
  `ChannelAnnouncement.lastFieldEnd`: Where the last known field ends.

## Theorems

* `NodeAnnouncement.lastFieldEnd_eq`, `ChannelUpdate.lastFieldEnd_eq`,
  `ChannelAnnouncement.lastFieldEnd_eq`: It is where the encoding ends.
* `hash_received`: The hash covers a received message exactly when nothing
  follows.
* `received_as_signed`: When received gossip is hashed as it was signed.
* `extension_not_hashed`: An announcement with an extension.
-/

namespace LnGossipSim

namespace Bolt

open BigEndian Codec

/-- Two inputs with the same double SHA-256 are the same. -/
def Signing.NoCollision {S : Secp256k1} (E : Signing S) (a b : Bytes) : Prop :=
  E.sha256d a = E.sha256d b → a = b

/-- The big-endian 16-bit number at an offset of a payload. -/
def u16At (payload : Bytes) (offset : Nat) : Nat := beNat ((payload.drop offset).take 2)

/-- Where a length-prefixed field starts, its length is read off the prefix. -/
theorem u16At_of_write (before v after : Bytes) (offset : Nat) (hoffset : before.length = offset)
    (hfits : FitsVec v) :
    u16At (before ++ (WireFormat.write v ++ after)) offset = v.length := by
  have hprefix : WireFormat.write v = WireFormat.write (UInt16.ofNat v.length) ++ v := rfl
  have hlength : (UInt16.ofNat v.length).toNat = v.length := by
    rw [UInt16.toNat_ofNat']
    unfold FitsVec at hfits
    omega
  unfold u16At
  rw [List.drop_left' hoffset, hprefix, List.append_assoc,
    List.take_left' (write_uInt16_length _)]
  change beNat (beBytes 2 (UInt16.ofNat v.length).toNat) = v.length
  rw [beNat_beBytes 2 _ (UInt16.ofNat v.length).toNat_lt, hlength]

/-- A message that was received is hashed to its end exactly when nothing
    follows what it was decoded from. -/
theorem hash_received {S : Secp256k1} (E : Signing S) (sigs pre rest payload : Bytes)
    (offset : Nat) (hpayload : payload = sigs ++ pre ++ rest) (hoffset : sigs.length = offset)
    (hcoll : E.NoCollision pre (payload.drop offset)) :
    E.sha256d pre = E.sha256d (payload.drop offset)
      ↔ payload.length = (sigs ++ pre).length := by
  have hdrop : payload.drop offset = pre ++ rest := by
    rw [hpayload, List.append_assoc, List.drop_left' hoffset]
  rw [hdrop] at hcoll ⊢
  have hlength : payload.length = (sigs ++ pre).length + rest.length := by
    rw [hpayload, List.length_append]
  constructor
  · intro h
    -- Equal hashes mean equal bytes, so nothing is left over.
    have hrest := congrArg List.length (hcoll h)
    rw [List.length_append] at hrest
    omega
  · intro h
    have hnil : rest = [] := List.eq_nil_of_length_eq_zero (by omega)
    rw [hnil, List.append_nil]

namespace NodeAnnouncement

variable {S : Secp256k1}

/-- Where the last known field of a payload ends: `addresses`, whose length
    prefix stands 72 bytes behind `features`. -/
def lastFieldEnd (payload : Bytes) : Nat :=
  let addresses := 64 + (2 + u16At payload 64) + 72
  addresses + (2 + u16At payload addresses)

theorem lastFieldEnd_eq (m : NodeAnnouncement S) (rest : Bytes) (h : m.Fits) :
    lastFieldEnd (m.encode ++ rest) = m.encode.length := by
  have hfeatures : u16At (m.encode ++ rest) 64 = m.features.length := by
    have hat := u16At_of_write (WireFormat.write m.signature) m.features
      (WireFormat.write m.timestamp ++ WireFormat.write m.nodeId ++ WireFormat.write m.rgbColor
        ++ WireFormat.write m.nodeAlias ++ WireFormat.write m.addresses ++ rest) 64
      (write_signature_length m.signature) h.features
    rw [← hat]
    unfold encode
    simp only [List.append_assoc]
  have haddresses : u16At (m.encode ++ rest) (64 + (2 + m.features.length) + 72)
      = m.addresses.length := by
    have hat := u16At_of_write (WireFormat.write m.signature ++ WireFormat.write m.features
        ++ WireFormat.write m.timestamp ++ WireFormat.write m.nodeId
        ++ WireFormat.write m.rgbColor ++ WireFormat.write m.nodeAlias) m.addresses rest
      (64 + (2 + m.features.length) + 72) (by simp; omega) h.addresses
    rw [← hat]
    unfold encode
    simp only [List.append_assoc]
  unfold lastFieldEnd
  simp only [hfeatures, haddresses]
  unfold encode
  simp only [List.length_append, write_signature_length, write_vec_length, write_uInt32_length,
    write_publicKey_length, write_byteArr_length]

end NodeAnnouncement

namespace ChannelUpdate

variable {S : Secp256k1}

/-- Where the last known field of a payload ends. Every field has a fixed
    width. -/
def lastFieldEnd : Nat := 136

theorem lastFieldEnd_eq (m : ChannelUpdate S) : lastFieldEnd = m.encode.length := by
  unfold encode
  simp only [List.length_append, write_signature_length, write_uInt8_length, write_uInt16_length,
    write_uInt32_length, write_uInt64_length, write_byteArr_length]
  rfl

end ChannelUpdate

namespace ChannelAnnouncement

variable {S : Secp256k1}

/-- Where the last known field of a payload ends: 172 bytes behind
    `features`. -/
def lastFieldEnd (payload : Bytes) : Nat := 256 + (2 + u16At payload 256) + 172

theorem lastFieldEnd_eq (m : ChannelAnnouncement S) (rest : Bytes) (h : m.Fits) :
    lastFieldEnd (m.encode ++ rest) = m.encode.length := by
  have hfeatures : u16At (m.encode ++ rest) 256 = m.features.length := by
    have hat := u16At_of_write m.signatures m.features
      (WireFormat.write m.chainHash ++ WireFormat.write m.shortChannelId
        ++ WireFormat.write m.nodeId1 ++ WireFormat.write m.nodeId2
        ++ WireFormat.write m.bitcoinKey1 ++ WireFormat.write m.bitcoinKey2 ++ rest) 256
      m.signatures_length h.features
    rw [← hat]
    unfold encode signatures
    simp only [List.append_assoc]
  unfold lastFieldEnd
  rw [hfeatures]
  unfold encode
  simp only [List.length_append, write_signature_length, write_vec_length, write_uInt64_length,
    write_publicKey_length, write_byteArr_length]
  unfold chainHashSize
  omega

end ChannelAnnouncement

/-- When received gossip is hashed as it was signed. An accepted payload is
    hashed from behind its signatures to its end exactly when it ends with its
    last known field. Then a node announcement is verified on the bytes that its
    author signed. -/
theorem received_as_signed {S : Secp256k1} (E : Signing S) (hS : S.SerializesParsed)
    (payload : Bytes) :
    (∀ m : NodeAnnouncement S, NodeAnnouncement.decode payload = .ok m →
      E.NoCollision m.signaturePreimage (payload.drop 64) →
      ((m.signatureHash E = E.sha256d (payload.drop 64)
          ↔ payload.length = NodeAnnouncement.lastFieldEnd payload)
        ∧ (payload.length = NodeAnnouncement.lastFieldEnd payload →
          m.verify E = E.verifyEcdsa (E.sha256d (payload.drop 64)) m.signature m.nodeId)))
    ∧ (∀ m : ChannelUpdate S, ChannelUpdate.decode payload = .ok m →
      E.NoCollision m.signaturePreimage (payload.drop 64) →
      (m.signatureHash E = E.sha256d (payload.drop 64)
        ↔ payload.length = ChannelUpdate.lastFieldEnd))
    ∧ (∀ m : ChannelAnnouncement S, ChannelAnnouncement.decode payload = .ok m →
      E.NoCollision m.signaturePreimage (payload.drop 256) →
      (m.signatureHash E = E.sha256d (payload.drop 256)
        ↔ payload.length = ChannelAnnouncement.lastFieldEnd payload)) := by
  refine ⟨?_, ?_, ?_⟩
  · intro m hdecode hcoll
    -- The payload is the encoding and what the decoder ignored.
    rcases NodeAnnouncement.acceptsOnly hS payload m hdecode with ⟨rest, hpayload, hfits⟩
    have hend := m.lastFieldEnd_eq rest hfits
    rw [← hpayload, m.encode_eq] at hend
    have hiff := hash_received E _ m.signaturePreimage rest payload 64
      (by rw [← m.encode_eq, hpayload]) (write_signature_length m.signature) hcoll
    rw [← hend] at hiff
    refine ⟨hiff, fun hlength => ?_⟩
    rw [← hiff.mpr hlength]
    rfl
  · intro m hdecode hcoll
    rcases ChannelUpdate.acceptsOnly hS payload m hdecode with ⟨rest, hpayload, -⟩
    have hiff := hash_received E _ m.signaturePreimage rest payload 64
      (by rw [← m.encode_eq, hpayload]) (write_signature_length m.signature) hcoll
    rw [← m.encode_eq, ← m.lastFieldEnd_eq] at hiff
    exact hiff
  · intro m hdecode hcoll
    rcases ChannelAnnouncement.acceptsOnly hS payload m hdecode with ⟨rest, hpayload, hfits⟩
    have hend := m.lastFieldEnd_eq rest hfits
    rw [← hpayload, m.encode_eq] at hend
    have hiff := hash_received E _ m.signaturePreimage rest payload 256
      (by rw [← m.encode_eq, hpayload]) m.signatures_length hcoll
    rw [← hend] at hiff
    exact hiff

/-- An announcement with two feature bytes and one address, received as it was
    sent. -/
theorem received_as_signed_announcement :
    let sk : Secp256k1.transparent.SecretKey := List.Vector.replicate 32 7
    let m := NodeAnnouncement.newSigned .transparent [1, 2] 1700000000
      (List.Vector.replicate 3 9) (List.Vector.replicate 32 66) [1, 127, 0, 0, 1, 35, 69] sk
    m.signatureHash .transparent = Signing.transparent.sha256d (m.encode.drop 64)
      ∧ m.verify .transparent = true := by
  intro sk m
  have hfits : m.LengthsFit := ⟨by unfold FitsVec; decide, by unfold FitsVec; decide⟩
  have hdecode : NodeAnnouncement.decode m.encode = .ok m :=
    NodeAnnouncement.decode_own Secp256k1.transparent_parsesSerialized m hfits
  have hend : m.encode.length = NodeAnnouncement.lastFieldEnd m.encode := by decide +kernel
  rcases (received_as_signed .transparent Secp256k1.transparent_serializesParsed
    m.encode).1 m hdecode (fun _ => m.preimage_eq_drop) with ⟨hhash, hverify⟩
  refine ⟨hhash.mpr hend, ?_⟩
  rw [hverify hend]
  decide +kernel

/-- An announcement with two bytes of an extension, signed over all of it. The
    signature is valid for the bytes that were signed, and is rejected. -/
theorem extension_not_hashed :
    let sk : Secp256k1.transparent.SecretKey := List.Vector.replicate 32 7
    let E := Signing.transparent
    let plain := NodeAnnouncement.newSigned E [] 0 (List.Vector.replicate 3 0)
      (List.Vector.replicate 32 0) [] sk
    let signed := plain.withSignature
      (E.signEcdsa (E.sha256d (plain.signaturePreimage ++ [0x42, 0x42])) sk)
    let payload := signed.encode ++ [0x42, 0x42]
    NodeAnnouncement.decode payload = .ok signed
      ∧ signed.signatureHash E ≠ E.sha256d (payload.drop 64)
      ∧ E.verifyEcdsa (E.sha256d (payload.drop 64)) signed.signature signed.nodeId = true
      ∧ signed.verify E = false := by
  intro sk E plain signed payload
  have hfits : signed.Fits := NodeAnnouncement.fits_of_lengthsFit
    Secp256k1.transparent_parsesSerialized signed ⟨Nat.zero_le _, Nat.zero_le _⟩
  -- The decoder drops the two bytes, and the hash is over what is left.
  refine ⟨NodeAnnouncement.decodesBack signed _ hfits, ?_, ?_, ?_⟩
  · decide +kernel
  · decide +kernel
  · decide +kernel

end Bolt

end LnGossipSim
