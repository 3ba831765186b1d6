import LnGossipSim.Bolt.Gossip

/-!
# Signed Gossip

What the signatures of the gossip messages are over. `signature_hash` does not
cut the encoded message: each message lists the fields after its signatures a
second time and hashes them. Here the two lists are shown to agree, so that the
bytes hashed are the bytes sent without the signatures, and no two messages
share them unless they agree in every other field.

A message that is built is signed over a hash that its own signatures do not
enter, so putting them in leaves the hash as it was. It is decoded to itself
from its encoding, and its signatures verify there.

## Main definitions

* `Signing`: The hash and the signature operations of the libraries.
* `Signing.VerifiesSigned`: A signature made with a secret verifies under its
  key.
* `Signing.transparent`: Operations that meet this assumption.
* `signaturePreimage`, `signatureHash`, `newSigned`: Of each message.
* `NodeAnnouncement.verify`: The check of a node's own signature.
* `NodeAnnouncement.defaultSigned`: An announcement with default fields.

## Theorems

* `encode_eq`: An encoding is its signatures and what they are over.
* `hash_eq_drop`: The digest is that of the encoding behind the signatures.
* `preimage_inj`: What is signed determines every other field.
* `newSigned_verifies`: A message that was built is signed by its keys.
* `signed_as_sent`: What is signed is exactly what is sent.
-/

namespace LnGossipSim

namespace Bolt

open Codec

/-- The hash of the hashing library, and signing and verification of 32-byte
    digests by the elliptic curve library. -/
structure Signing (S : Secp256k1) where
  sha256 : Bytes → ByteArr 32
  signEcdsa : ByteArr 32 → S.SecretKey → S.Signature
  verifyEcdsa : ByteArr 32 → S.Signature → S.PublicKey → Bool

namespace Signing

/-- The double SHA-256. -/
def sha256d {S : Secp256k1} (E : Signing S) (data : Bytes) : ByteArr 32 :=
  E.sha256 (E.sha256 data).toList

/-- A signature made with a secret verifies under the key of the secret. -/
def VerifiesSigned {S : Secp256k1} (E : Signing S) : Prop :=
  ∀ digest sk, E.verifyEcdsa digest (E.signEcdsa digest sk) (S.publicKey sk) = true

/-- The key, next to the digest without its first byte. -/
def keyAndDigest (key : ByteArr publicKeySize) (digest : ByteArr 32) :
    ByteArr compactSignatureSize :=
  key ++ digest.tail

/-- Operations that hide nothing: the hash keeps the last bytes of its input,
    and a signature names the key and the digest. -/
def transparent : Signing .transparent where
  sha256 data := Slice.pack ((data.reverse ++ List.replicate 32 0).take 32) (by
    rw [List.length_take, List.length_append, List.length_replicate]
    omega)
  signEcdsa digest sk := keyAndDigest (Secp256k1.transparent.publicKey sk) digest
  verifyEcdsa digest sig key := decide (List.Vector.toList sig = (keyAndDigest key digest).toList)

theorem transparent_verifiesSigned : transparent.VerifiesSigned :=
  fun _ _ => decide_eq_true rfl

end Signing

namespace NodeAnnouncement

variable {S : Secp256k1}

/-- The data that is hashed, from `features` onward. -/
def signaturePreimage (m : NodeAnnouncement S) : Bytes :=
  WireFormat.write m.features
    ++ WireFormat.write m.timestamp
    ++ WireFormat.write m.nodeId
    ++ WireFormat.write m.rgbColor
    ++ WireFormat.write m.nodeAlias
    ++ WireFormat.write m.addresses

/-- Computes the double-SHA256 hash that must be signed. -/
def signatureHash (E : Signing S) (m : NodeAnnouncement S) : ByteArr 32 :=
  E.sha256d m.signaturePreimage

/-- Verifies the signature against the embedded node id. -/
def verify (E : Signing S) (m : NodeAnnouncement S) : Bool :=
  E.verifyEcdsa (m.signatureHash E) m.signature m.nodeId

/-- Creates an announcement and signs it with the node secret. The placeholder
    does not enter the hash. -/
def newSigned (E : Signing S) (features : Bytes) (timestamp : UInt32) (rgbColor : ByteArr 3)
    (nodeAlias : ByteArr 32) (addresses : Bytes) (nodeSk : S.SecretKey) : NodeAnnouncement S :=
  let nodeId := S.publicKey nodeSk
  let placeholder := E.signEcdsa (List.Vector.replicate 32 0) nodeSk
  let ann : NodeAnnouncement S :=
    { signature := placeholder, features, timestamp, nodeId, rgbColor, nodeAlias, addresses }
  { ann with signature := E.signEcdsa (ann.signatureHash E) nodeSk }

/-- An announcement with its optional fields left empty or zero. -/
def defaultSigned (E : Signing S) (nodeSk : S.SecretKey) : NodeAnnouncement S :=
  newSigned E [] 0 (List.Vector.replicate 3 0) (List.Vector.replicate 32 0) [] nodeSk

/-- The message with another signature. -/
def withSignature (m : NodeAnnouncement S) (signature : S.Signature) : NodeAnnouncement S :=
  { m with signature }

/-- The byte fields fit their length prefixes. -/
def LengthsFit (m : NodeAnnouncement S) : Prop := FitsVec m.features ∧ FitsVec m.addresses

/-- An encoding is the signature followed by what is signed. -/
theorem encode_eq (m : NodeAnnouncement S) :
    m.encode = WireFormat.write m.signature ++ m.signaturePreimage := by
  unfold encode signaturePreimage
  simp only [List.append_assoc]

theorem preimage_eq_drop (m : NodeAnnouncement S) :
    m.signaturePreimage = m.encode.drop 64 := by
  rw [encode_eq, List.drop_left' (write_signature_length m.signature)]

/-- The digest that is signed is that of the encoding behind the signature. -/
theorem hash_eq_drop (E : Signing S) (m : NodeAnnouncement S) :
    m.signatureHash E = E.sha256d (m.encode.drop 64) := by
  unfold signatureHash
  rw [preimage_eq_drop]

theorem fits_of_lengthsFit (hS : S.ParsesSerialized) (m : NodeAnnouncement S)
    (h : m.LengthsFit) : m.Fits :=
  ⟨hS.signature _, h.1, hS.key _, h.2⟩

theorem decode_own (hS : S.ParsesSerialized) (m : NodeAnnouncement S) (h : m.LengthsFit) :
    decode m.encode = .ok m := by
  have hback := decodesBack m [] (fits_of_lengthsFit hS m h)
  rw [List.append_nil] at hback
  exact hback

/-- What is signed determines every field but the signature. -/
theorem preimage_inj (hS : S.ParsesSerialized) (m m' : NodeAnnouncement S) (h : m.LengthsFit)
    (h' : m'.LengthsFit) (hpre : m.signaturePreimage = m'.signaturePreimage) :
    m = m'.withSignature m.signature := by
  -- with the same signature in front the two encodings are the same
  have hsame : m.encode = (m'.withSignature m.signature).encode := by
    rw [encode_eq, encode_eq, hpre]
    rfl
  have hdecode := decode_own hS m h
  rw [hsame, decode_own hS (m'.withSignature m.signature) h'] at hdecode
  exact (Outcome.ok.inj hdecode).symm

/-- A message that was built is decoded to itself and verifies. -/
theorem newSigned_verifies (E : Signing S) (hS : S.ParsesSerialized) (hE : E.VerifiesSigned)
    (features : Bytes) (timestamp : UInt32) (rgbColor : ByteArr 3) (nodeAlias : ByteArr 32)
    (addresses : Bytes) (nodeSk : S.SecretKey) (hf : FitsVec features) (ha : FitsVec addresses) :
    let m := newSigned E features timestamp rgbColor nodeAlias addresses nodeSk
    ∃ m', decode m.encode = .ok m' ∧ m'.nodeId = S.publicKey nodeSk ∧ m'.verify E = true := by
  intro m
  exact ⟨m, decode_own hS m ⟨hf, ha⟩, rfl, hE _ _⟩

end NodeAnnouncement

namespace ChannelUpdate

variable {S : Secp256k1}

/-- The data that is hashed, from `chain_hash` onward. -/
def signaturePreimage (m : ChannelUpdate S) : Bytes :=
  WireFormat.write m.chainHash
    ++ WireFormat.write m.shortChannelId
    ++ WireFormat.write m.timestamp
    ++ WireFormat.write m.messageFlags
    ++ WireFormat.write m.channelFlags
    ++ WireFormat.write m.cltvExpiryDelta
    ++ WireFormat.write m.htlcMinimumMsat
    ++ WireFormat.write m.feeBaseMsat
    ++ WireFormat.write m.feeProportionalMillionths
    ++ WireFormat.write m.htlcMaximumMsat

/-- Computes the double-SHA256 hash that must be signed. -/
def signatureHash (E : Signing S) (m : ChannelUpdate S) : ByteArr 32 :=
  E.sha256d m.signaturePreimage

/-- Creates an update and signs it with the node secret. -/
def newSigned (E : Signing S) (chainHash : ByteArr chainHashSize) (shortChannelId : UInt64)
    (timestamp : UInt32) (messageFlags channelFlags : UInt8) (cltvExpiryDelta : UInt16)
    (htlcMinimumMsat : UInt64) (feeBaseMsat feeProportionalMillionths : UInt32)
    (htlcMaximumMsat : UInt64) (nodeSk : S.SecretKey) : ChannelUpdate S :=
  let placeholder := E.signEcdsa (List.Vector.replicate 32 0) nodeSk
  let update : ChannelUpdate S :=
    { signature := placeholder, chainHash, shortChannelId, timestamp, messageFlags, channelFlags,
      cltvExpiryDelta, htlcMinimumMsat, feeBaseMsat, feeProportionalMillionths, htlcMaximumMsat }
  { update with signature := E.signEcdsa (update.signatureHash E) nodeSk }

/-- The message with another signature. -/
def withSignature (m : ChannelUpdate S) (signature : S.Signature) : ChannelUpdate S :=
  { m with signature }

theorem encode_eq (m : ChannelUpdate S) :
    m.encode = WireFormat.write m.signature ++ m.signaturePreimage := by
  unfold encode signaturePreimage
  simp only [List.append_assoc]

theorem preimage_eq_drop (m : ChannelUpdate S) : m.signaturePreimage = m.encode.drop 64 := by
  rw [encode_eq, List.drop_left' (write_signature_length m.signature)]

theorem hash_eq_drop (E : Signing S) (m : ChannelUpdate S) :
    m.signatureHash E = E.sha256d (m.encode.drop 64) := by
  unfold signatureHash
  rw [preimage_eq_drop]

theorem decode_own (hS : S.ParsesSerialized) (m : ChannelUpdate S) :
    decode m.encode = .ok m := by
  have hback := decodesBack m [] (hS.signature m.signature)
  rw [List.append_nil] at hback
  exact hback

theorem preimage_inj (hS : S.ParsesSerialized) (m m' : ChannelUpdate S)
    (hpre : m.signaturePreimage = m'.signaturePreimage) :
    m = m'.withSignature m.signature := by
  have hsame : m.encode = (m'.withSignature m.signature).encode := by
    rw [encode_eq, encode_eq, hpre]
    rfl
  have hdecode := decode_own hS m
  rw [hsame, decode_own hS (m'.withSignature m.signature)] at hdecode
  exact (Outcome.ok.inj hdecode).symm

theorem newSigned_verifies (E : Signing S) (hS : S.ParsesSerialized) (hE : E.VerifiesSigned)
    (chainHash : ByteArr chainHashSize) (shortChannelId : UInt64) (timestamp : UInt32)
    (messageFlags channelFlags : UInt8) (cltvExpiryDelta : UInt16) (htlcMinimumMsat : UInt64)
    (feeBaseMsat feeProportionalMillionths : UInt32) (htlcMaximumMsat : UInt64)
    (nodeSk : S.SecretKey) :
    let m := newSigned E chainHash shortChannelId timestamp messageFlags channelFlags
      cltvExpiryDelta htlcMinimumMsat feeBaseMsat feeProportionalMillionths htlcMaximumMsat nodeSk
    ∃ m', decode m.encode = .ok m'
      ∧ E.verifyEcdsa (m'.signatureHash E) m'.signature (S.publicKey nodeSk) = true := by
  intro m
  exact ⟨m, decode_own hS m, hE _ _⟩

end ChannelUpdate

namespace ChannelAnnouncement

variable {S : Secp256k1}

/-- The data that is hashed, from `features` onward. -/
def signaturePreimage (m : ChannelAnnouncement S) : Bytes :=
  WireFormat.write m.features
    ++ WireFormat.write m.chainHash
    ++ WireFormat.write m.shortChannelId
    ++ WireFormat.write m.nodeId1
    ++ WireFormat.write m.nodeId2
    ++ WireFormat.write m.bitcoinKey1
    ++ WireFormat.write m.bitcoinKey2

/-- Computes the double-SHA256 hash that must be signed. -/
def signatureHash (E : Signing S) (m : ChannelAnnouncement S) : ByteArr 32 :=
  E.sha256d m.signaturePreimage

/-- Creates an announcement and signs it with the two node secrets and the two
    funding key secrets. -/
def newSigned (E : Signing S) (features : Bytes) (chainHash : ByteArr chainHashSize)
    (shortChannelId : UInt64) (nodeSk1 nodeSk2 bitcoinSk1 bitcoinSk2 : S.SecretKey) :
    ChannelAnnouncement S :=
  let nodeId1 := S.publicKey nodeSk1
  let nodeId2 := S.publicKey nodeSk2
  let bitcoinKey1 := S.publicKey bitcoinSk1
  let bitcoinKey2 := S.publicKey bitcoinSk2
  let placeholder := E.signEcdsa (List.Vector.replicate 32 0) nodeSk1
  let ann : ChannelAnnouncement S :=
    { nodeSignature1 := placeholder, nodeSignature2 := placeholder,
      bitcoinSignature1 := placeholder, bitcoinSignature2 := placeholder, features, chainHash,
      shortChannelId, nodeId1, nodeId2, bitcoinKey1, bitcoinKey2 }
  let msg := ann.signatureHash E
  { ann with
    nodeSignature1 := E.signEcdsa msg nodeSk1
    nodeSignature2 := E.signEcdsa msg nodeSk2
    bitcoinSignature1 := E.signEcdsa msg bitcoinSk1
    bitcoinSignature2 := E.signEcdsa msg bitcoinSk2 }

/-- The message with other signatures. -/
def withSignatures (m : ChannelAnnouncement S)
    (nodeSignature1 nodeSignature2 bitcoinSignature1 bitcoinSignature2 : S.Signature) :
    ChannelAnnouncement S :=
  { m with nodeSignature1, nodeSignature2, bitcoinSignature1, bitcoinSignature2 }

/-- The four signatures, in the order they are sent. -/
def signatures (m : ChannelAnnouncement S) : Bytes :=
  WireFormat.write m.nodeSignature1
    ++ WireFormat.write m.nodeSignature2
    ++ WireFormat.write m.bitcoinSignature1
    ++ WireFormat.write m.bitcoinSignature2

theorem signatures_length (m : ChannelAnnouncement S) : m.signatures.length = 256 := by
  unfold signatures
  simp only [List.length_append, write_signature_length]

/-- An encoding is the four signatures followed by what is signed. -/
theorem encode_eq (m : ChannelAnnouncement S) :
    m.encode = m.signatures ++ m.signaturePreimage := by
  unfold encode signatures signaturePreimage
  simp only [List.append_assoc]

theorem preimage_eq_drop (m : ChannelAnnouncement S) :
    m.signaturePreimage = m.encode.drop 256 := by
  rw [encode_eq, List.drop_left' m.signatures_length]

theorem hash_eq_drop (E : Signing S) (m : ChannelAnnouncement S) :
    m.signatureHash E = E.sha256d (m.encode.drop 256) := by
  unfold signatureHash
  rw [preimage_eq_drop]

theorem decode_own (hS : S.ParsesSerialized) (m : ChannelAnnouncement S)
    (h : FitsVec m.features) : decode m.encode = .ok m := by
  have hfits : m.Fits :=
    ⟨h, hS.signature _, hS.signature _, hS.signature _, hS.signature _, hS.key _, hS.key _,
      hS.key _, hS.key _⟩
  have hback := decodesBack m [] hfits
  rw [List.append_nil] at hback
  exact hback

/-- What is signed determines every field but the signatures. -/
theorem preimage_inj (hS : S.ParsesSerialized) (m m' : ChannelAnnouncement S)
    (h : FitsVec m.features) (h' : FitsVec m'.features)
    (hpre : m.signaturePreimage = m'.signaturePreimage) :
    m = m'.withSignatures m.nodeSignature1 m.nodeSignature2 m.bitcoinSignature1
      m.bitcoinSignature2 := by
  let m'' := m'.withSignatures m.nodeSignature1 m.nodeSignature2 m.bitcoinSignature1
    m.bitcoinSignature2
  have hsame : m.encode = m''.encode := by
    rw [encode_eq, encode_eq, hpre]
    rfl
  have hdecode := decode_own hS m h
  rw [hsame, decode_own hS m'' h'] at hdecode
  exact (Outcome.ok.inj hdecode).symm

/-- Each of the four signatures verifies under its own key. -/
theorem newSigned_verifies (E : Signing S) (hS : S.ParsesSerialized) (hE : E.VerifiesSigned)
    (features : Bytes) (chainHash : ByteArr chainHashSize) (shortChannelId : UInt64)
    (nodeSk1 nodeSk2 bitcoinSk1 bitcoinSk2 : S.SecretKey) (hf : FitsVec features) :
    let m := newSigned E features chainHash shortChannelId nodeSk1 nodeSk2 bitcoinSk1 bitcoinSk2
    ∃ m', decode m.encode = .ok m'
      ∧ m'.nodeId1 = S.publicKey nodeSk1 ∧ m'.nodeId2 = S.publicKey nodeSk2
      ∧ m'.bitcoinKey1 = S.publicKey bitcoinSk1 ∧ m'.bitcoinKey2 = S.publicKey bitcoinSk2
      ∧ E.verifyEcdsa (m'.signatureHash E) m'.nodeSignature1 m'.nodeId1 = true
      ∧ E.verifyEcdsa (m'.signatureHash E) m'.nodeSignature2 m'.nodeId2 = true
      ∧ E.verifyEcdsa (m'.signatureHash E) m'.bitcoinSignature1 m'.bitcoinKey1 = true
      ∧ E.verifyEcdsa (m'.signatureHash E) m'.bitcoinSignature2 m'.bitcoinKey2 = true := by
  intro m
  exact ⟨m, decode_own hS m hf, rfl, rfl, rfl, rfl, hE _ _, hE _ _, hE _ _, hE _ _⟩

end ChannelAnnouncement

/-- What is signed is exactly what is sent. For each signed message the bytes
    that are hashed are the encoding from behind the signatures on, whatever the
    signatures are, so the digest is that of these bytes, and they determine every
    other field. So a message that is built still carries valid signatures once it
    has been sent. -/
theorem signed_as_sent {S : Secp256k1} (E : Signing S) (hS : S.ParsesSerialized)
    (hE : E.VerifiesSigned) :
    ((∀ m : NodeAnnouncement S, m.signaturePreimage = m.encode.drop 64
        ∧ m.signatureHash E = E.sha256d (m.encode.drop 64)
        ∧ ∀ sig, (m.withSignature sig).signaturePreimage = m.signaturePreimage
          ∧ (m.withSignature sig).signatureHash E = m.signatureHash E)
      ∧ (∀ m m' : NodeAnnouncement S, m.LengthsFit → m'.LengthsFit →
        m.signaturePreimage = m'.signaturePreimage → m = m'.withSignature m.signature)
      ∧ ∀ features timestamp rgbColor nodeAlias addresses nodeSk,
        FitsVec features → FitsVec addresses →
        ∃ m', NodeAnnouncement.decode (NodeAnnouncement.newSigned E features timestamp rgbColor
            nodeAlias addresses nodeSk).encode = .ok m'
          ∧ m'.nodeId = S.publicKey nodeSk ∧ m'.verify E = true)
    ∧ ((∀ m : ChannelUpdate S, m.signaturePreimage = m.encode.drop 64
        ∧ m.signatureHash E = E.sha256d (m.encode.drop 64)
        ∧ ∀ sig, (m.withSignature sig).signaturePreimage = m.signaturePreimage
          ∧ (m.withSignature sig).signatureHash E = m.signatureHash E)
      ∧ (∀ m m' : ChannelUpdate S,
        m.signaturePreimage = m'.signaturePreimage → m = m'.withSignature m.signature)
      ∧ ∀ chainHash shortChannelId timestamp messageFlags channelFlags cltvExpiryDelta
          htlcMinimumMsat feeBaseMsat feeProportionalMillionths htlcMaximumMsat nodeSk,
        ∃ m', ChannelUpdate.decode (ChannelUpdate.newSigned E chainHash shortChannelId timestamp
            messageFlags channelFlags cltvExpiryDelta htlcMinimumMsat feeBaseMsat
            feeProportionalMillionths htlcMaximumMsat nodeSk).encode = .ok m'
          ∧ E.verifyEcdsa (m'.signatureHash E) m'.signature (S.publicKey nodeSk) = true)
    ∧ ((∀ m : ChannelAnnouncement S, m.signaturePreimage = m.encode.drop 256
        ∧ m.signatureHash E = E.sha256d (m.encode.drop 256)
        ∧ ∀ sig1 sig2 sig3 sig4,
          (m.withSignatures sig1 sig2 sig3 sig4).signaturePreimage = m.signaturePreimage
          ∧ (m.withSignatures sig1 sig2 sig3 sig4).signatureHash E = m.signatureHash E)
      ∧ (∀ m m' : ChannelAnnouncement S, FitsVec m.features → FitsVec m'.features →
        m.signaturePreimage = m'.signaturePreimage →
          m = m'.withSignatures m.nodeSignature1 m.nodeSignature2 m.bitcoinSignature1
            m.bitcoinSignature2)
      ∧ ∀ features chainHash shortChannelId nodeSk1 nodeSk2 bitcoinSk1 bitcoinSk2,
        FitsVec features →
        ∃ m', ChannelAnnouncement.decode (ChannelAnnouncement.newSigned E features chainHash
            shortChannelId nodeSk1 nodeSk2 bitcoinSk1 bitcoinSk2).encode = .ok m'
          ∧ m'.nodeId1 = S.publicKey nodeSk1 ∧ m'.nodeId2 = S.publicKey nodeSk2
          ∧ m'.bitcoinKey1 = S.publicKey bitcoinSk1 ∧ m'.bitcoinKey2 = S.publicKey bitcoinSk2
          ∧ E.verifyEcdsa (m'.signatureHash E) m'.nodeSignature1 m'.nodeId1 = true
          ∧ E.verifyEcdsa (m'.signatureHash E) m'.nodeSignature2 m'.nodeId2 = true
          ∧ E.verifyEcdsa (m'.signatureHash E) m'.bitcoinSignature1 m'.bitcoinKey1 = true
          ∧ E.verifyEcdsa (m'.signatureHash E) m'.bitcoinSignature2 m'.bitcoinKey2 = true) := by
  refine ⟨⟨?_, ?_, ?_⟩, ⟨?_, ?_, ?_⟩, ?_, ?_, ?_⟩
  · exact fun m => ⟨m.preimage_eq_drop, m.hash_eq_drop E, fun _ => ⟨rfl, rfl⟩⟩
  · exact NodeAnnouncement.preimage_inj hS
  · exact NodeAnnouncement.newSigned_verifies E hS hE
  · exact fun m => ⟨m.preimage_eq_drop, m.hash_eq_drop E, fun _ => ⟨rfl, rfl⟩⟩
  · exact ChannelUpdate.preimage_inj hS
  · exact ChannelUpdate.newSigned_verifies E hS hE
  · exact fun m => ⟨m.preimage_eq_drop, m.hash_eq_drop E, fun _ _ _ _ => ⟨rfl, rfl⟩⟩
  · exact ChannelAnnouncement.preimage_inj hS
  · exact ChannelAnnouncement.newSigned_verifies E hS hE

/-- An announcement with two feature bytes and one address. -/
theorem signed_as_sent_announcement :
    let sk : Secp256k1.transparent.SecretKey := List.Vector.replicate 32 7
    let m := NodeAnnouncement.newSigned .transparent [1, 2] 1700000000
      (List.Vector.replicate 3 9) (List.Vector.replicate 32 66) [1, 127, 0, 0, 1, 35, 69] sk
    ∃ m', NodeAnnouncement.decode m.encode = .ok m'
      ∧ m'.nodeId = Secp256k1.transparent.publicKey sk ∧ m'.verify .transparent = true :=
  (signed_as_sent .transparent Secp256k1.transparent_parsesSerialized
    Signing.transparent_verifiesSigned).1.2.2 _ _ _ _ _ _ (by unfold FitsVec; decide)
    (by unfold FitsVec; decide)

end Bolt

end LnGossipSim
