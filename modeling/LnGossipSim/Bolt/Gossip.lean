import LnGossipSim.Bolt.Wire

/-!
# Gossip Messages

The announcements of BOLT 7: `channel_announcement`, `node_announcement` and
`channel_update`. None of them ends in a TLV stream, so each decoder takes its
fields off the front of the payload and ignores whatever follows the last one.
Encoding and decoding here are without the two-byte message type.

## Main definitions

* `ChannelAnnouncement`: A new public channel, signed by four keys.
* `NodeAnnouncement`: Extra data about a node, signed by its key.
* `ChannelUpdate`: One side's forwarding parameters, signed by its node key.

## Theorems

* `ChannelAnnouncement.decodesBack`, `ChannelAnnouncement.acceptsOnly`: The
  two laws of a channel announcement.
* `NodeAnnouncement.decodesBack`, `NodeAnnouncement.acceptsOnly`: The two laws
  of a node announcement.
* `ChannelUpdate.decodesBack`, `ChannelUpdate.acceptsOnly`: The two laws of a
  channel update.
-/

namespace LnGossipSim

namespace Bolt

open Codec

/-- BOLT 7 `channel_announcement` message (type 256). -/
structure ChannelAnnouncement (S : Secp256k1) where
  nodeSignature1 : S.Signature
  nodeSignature2 : S.Signature
  bitcoinSignature1 : S.Signature
  bitcoinSignature2 : S.Signature
  features : Bytes
  chainHash : ByteArr chainHashSize
  shortChannelId : UInt64
  nodeId1 : S.PublicKey
  nodeId2 : S.PublicKey
  bitcoinKey1 : S.PublicKey
  bitcoinKey2 : S.PublicKey

/-- BOLT 7 `node_announcement` message (type 257). -/
structure NodeAnnouncement (S : Secp256k1) where
  signature : S.Signature
  features : Bytes
  timestamp : UInt32
  nodeId : S.PublicKey
  rgbColor : ByteArr 3
  nodeAlias : ByteArr 32
  addresses : Bytes

/-- BOLT 7 `channel_update` message (type 258). -/
structure ChannelUpdate (S : Secp256k1) where
  signature : S.Signature
  chainHash : ByteArr chainHashSize
  shortChannelId : UInt64
  timestamp : UInt32
  messageFlags : UInt8
  channelFlags : UInt8
  cltvExpiryDelta : UInt16
  htlcMinimumMsat : UInt64
  feeBaseMsat : UInt32
  feeProportionalMillionths : UInt32
  htlcMaximumMsat : UInt64

namespace ChannelAnnouncement

variable {S : Secp256k1}

/-- Encodes to wire format (without message type prefix). -/
def encode (m : ChannelAnnouncement S) : Bytes :=
  WireFormat.write m.nodeSignature1
    ++ WireFormat.write m.nodeSignature2
    ++ WireFormat.write m.bitcoinSignature1
    ++ WireFormat.write m.bitcoinSignature2
    ++ WireFormat.write m.features
    ++ WireFormat.write m.chainHash
    ++ WireFormat.write m.shortChannelId
    ++ WireFormat.write m.nodeId1
    ++ WireFormat.write m.nodeId2
    ++ WireFormat.write m.bitcoinKey1
    ++ WireFormat.write m.bitcoinKey2

/-- Decodes from wire format (without message type prefix). -/
def decode (payload : Bytes) : Outcome BoltError (ChannelAnnouncement S) := do
  let (nodeSignature1, cursor) ← readAs S.Signature payload
  let (nodeSignature2, cursor) ← readAs S.Signature cursor
  let (bitcoinSignature1, cursor) ← readAs S.Signature cursor
  let (bitcoinSignature2, cursor) ← readAs S.Signature cursor
  let (features, cursor) ← readAs Bytes cursor
  let (chainHash, cursor) ← readAs (ByteArr chainHashSize) cursor
  let (shortChannelId, cursor) ← readAs UInt64 cursor
  let (nodeId1, cursor) ← readAs S.PublicKey cursor
  let (nodeId2, cursor) ← readAs S.PublicKey cursor
  let (bitcoinKey1, cursor) ← readAs S.PublicKey cursor
  let (bitcoinKey2, _) ← readAs S.PublicKey cursor
  return { nodeSignature1, nodeSignature2, bitcoinSignature1, bitcoinSignature2, features,
           chainHash, shortChannelId, nodeId1, nodeId2, bitcoinKey1, bitcoinKey2 }

/-- The features fit their length prefix, and the library parses the
    signatures and keys back. -/
structure Fits (m : ChannelAnnouncement S) : Prop where
  features : FitsVec m.features
  nodeSignature1 : S.SignatureReparses m.nodeSignature1
  nodeSignature2 : S.SignatureReparses m.nodeSignature2
  bitcoinSignature1 : S.SignatureReparses m.bitcoinSignature1
  bitcoinSignature2 : S.SignatureReparses m.bitcoinSignature2
  nodeId1 : S.KeyReparses m.nodeId1
  nodeId2 : S.KeyReparses m.nodeId2
  bitcoinKey1 : S.KeyReparses m.bitcoinKey1
  bitcoinKey2 : S.KeyReparses m.bitcoinKey2

theorem decodesBack : DecodesBack encode decode (fun m : ChannelAnnouncement S => m.Fits) := by
  intro m rest h
  unfold encode decode
  simp only [List.append_assoc, read_write, Outcome.ok_bind,
    read_write_signature _ _ h.nodeSignature1, read_write_signature _ _ h.nodeSignature2,
    read_write_signature _ _ h.bitcoinSignature1, read_write_signature _ _ h.bitcoinSignature2,
    read_write_vec _ _ h.features, read_write_publicKey _ _ h.nodeId1,
    read_write_publicKey _ _ h.nodeId2, read_write_publicKey _ _ h.bitcoinKey1,
    read_write_publicKey _ _ h.bitcoinKey2]
  rfl

theorem acceptsOnly (hS : S.SerializesParsed) :
    AcceptsOnly encode decode (fun m : ChannelAnnouncement S => m.Fits) := by
  intro payload m h
  unfold decode at h
  rcases read_bind_signature_eq_ok hS h with ⟨_, c1, ⟨e1, f1⟩, h⟩
  rcases read_bind_signature_eq_ok hS h with ⟨_, c2, ⟨e2, f2⟩, h⟩
  rcases read_bind_signature_eq_ok hS h with ⟨_, c3, ⟨e3, f3⟩, h⟩
  rcases read_bind_signature_eq_ok hS h with ⟨_, c4, ⟨e4, f4⟩, h⟩
  rcases read_bind_vec_eq_ok h with ⟨_, c5, ⟨e5, f5⟩, h⟩
  rcases read_bind_eq_ok h with ⟨_, c6, e6, h⟩
  rcases read_bind_eq_ok h with ⟨_, c7, e7, h⟩
  rcases read_bind_publicKey_eq_ok hS h with ⟨_, c8, ⟨e8, f8⟩, h⟩
  rcases read_bind_publicKey_eq_ok hS h with ⟨_, c9, ⟨e9, f9⟩, h⟩
  rcases read_bind_publicKey_eq_ok hS h with ⟨_, c10, ⟨e10, f10⟩, h⟩
  rcases read_bind_publicKey_eq_ok hS h with ⟨_, c11, ⟨e11, f11⟩, h⟩
  rw [← Outcome.ok.inj h]
  refine ⟨c11, ?_, ⟨f5, f1, f2, f3, f4, f8, f9, f10, f11⟩⟩
  unfold encode
  rw [e1, e2, e3, e4, e5, e6, e7, e8, e9, e10, e11]
  simp only [List.append_assoc]

theorem settles_decode (payload : Bytes) :
    (decode payload : Outcome BoltError (ChannelAnnouncement S)).Settles := by
  unfold decode
  iterate 11 refine settles_read _ _ fun _ => ?_
  exact Outcome.settles_ok _

end ChannelAnnouncement

namespace NodeAnnouncement

variable {S : Secp256k1}

/-- Encodes to wire format (without message type prefix). -/
def encode (m : NodeAnnouncement S) : Bytes :=
  WireFormat.write m.signature
    ++ WireFormat.write m.features
    ++ WireFormat.write m.timestamp
    ++ WireFormat.write m.nodeId
    ++ WireFormat.write m.rgbColor
    ++ WireFormat.write m.nodeAlias
    ++ WireFormat.write m.addresses

/-- Decodes from wire format (without message type prefix). -/
def decode (payload : Bytes) : Outcome BoltError (NodeAnnouncement S) := do
  let (signature, cursor) ← readAs S.Signature payload
  let (features, cursor) ← readAs Bytes cursor
  let (timestamp, cursor) ← readAs UInt32 cursor
  let (nodeId, cursor) ← readAs S.PublicKey cursor
  let (rgbColor, cursor) ← readAs (ByteArr 3) cursor
  let (nodeAlias, cursor) ← readAs (ByteArr 32) cursor
  let (addresses, _) ← readAs Bytes cursor
  return { signature, features, timestamp, nodeId, rgbColor, nodeAlias, addresses }

/-- The byte fields fit their length prefixes, and the library parses the
    signature and the key back. -/
structure Fits (m : NodeAnnouncement S) : Prop where
  signature : S.SignatureReparses m.signature
  features : FitsVec m.features
  nodeId : S.KeyReparses m.nodeId
  addresses : FitsVec m.addresses

theorem decodesBack : DecodesBack encode decode (fun m : NodeAnnouncement S => m.Fits) := by
  intro m rest h
  unfold encode decode
  simp only [List.append_assoc, read_write, Outcome.ok_bind,
    read_write_signature _ _ h.signature, read_write_vec _ _ h.features,
    read_write_publicKey _ _ h.nodeId, read_write_vec _ _ h.addresses]
  rfl

theorem acceptsOnly (hS : S.SerializesParsed) :
    AcceptsOnly encode decode (fun m : NodeAnnouncement S => m.Fits) := by
  intro payload m h
  unfold decode at h
  rcases read_bind_signature_eq_ok hS h with ⟨_, c1, ⟨e1, f1⟩, h⟩
  rcases read_bind_vec_eq_ok h with ⟨_, c2, ⟨e2, f2⟩, h⟩
  rcases read_bind_eq_ok h with ⟨_, c3, e3, h⟩
  rcases read_bind_publicKey_eq_ok hS h with ⟨_, c4, ⟨e4, f4⟩, h⟩
  rcases read_bind_eq_ok h with ⟨_, c5, e5, h⟩
  rcases read_bind_eq_ok h with ⟨_, c6, e6, h⟩
  rcases read_bind_vec_eq_ok h with ⟨_, c7, ⟨e7, f7⟩, h⟩
  rw [← Outcome.ok.inj h]
  refine ⟨c7, ?_, ⟨f1, f2, f4, f7⟩⟩
  unfold encode
  rw [e1, e2, e3, e4, e5, e6, e7]
  simp only [List.append_assoc]

theorem settles_decode (payload : Bytes) :
    (decode payload : Outcome BoltError (NodeAnnouncement S)).Settles := by
  unfold decode
  iterate 7 refine settles_read _ _ fun _ => ?_
  exact Outcome.settles_ok _

end NodeAnnouncement

namespace ChannelUpdate

variable {S : Secp256k1}

/-- Encodes to wire format (without message type prefix). -/
def encode (m : ChannelUpdate S) : Bytes :=
  WireFormat.write m.signature
    ++ WireFormat.write m.chainHash
    ++ WireFormat.write m.shortChannelId
    ++ WireFormat.write m.timestamp
    ++ WireFormat.write m.messageFlags
    ++ WireFormat.write m.channelFlags
    ++ WireFormat.write m.cltvExpiryDelta
    ++ WireFormat.write m.htlcMinimumMsat
    ++ WireFormat.write m.feeBaseMsat
    ++ WireFormat.write m.feeProportionalMillionths
    ++ WireFormat.write m.htlcMaximumMsat

/-- Decodes from wire format (without message type prefix). -/
def decode (payload : Bytes) : Outcome BoltError (ChannelUpdate S) := do
  let (signature, cursor) ← readAs S.Signature payload
  let (chainHash, cursor) ← readAs (ByteArr chainHashSize) cursor
  let (shortChannelId, cursor) ← readAs UInt64 cursor
  let (timestamp, cursor) ← readAs UInt32 cursor
  let (messageFlags, cursor) ← readAs UInt8 cursor
  let (channelFlags, cursor) ← readAs UInt8 cursor
  let (cltvExpiryDelta, cursor) ← readAs UInt16 cursor
  let (htlcMinimumMsat, cursor) ← readAs UInt64 cursor
  let (feeBaseMsat, cursor) ← readAs UInt32 cursor
  let (feeProportionalMillionths, cursor) ← readAs UInt32 cursor
  let (htlcMaximumMsat, _) ← readAs UInt64 cursor
  return { signature, chainHash, shortChannelId, timestamp, messageFlags, channelFlags,
           cltvExpiryDelta, htlcMinimumMsat, feeBaseMsat, feeProportionalMillionths,
           htlcMaximumMsat }

/-- The library parses the signature back. -/
def Fits (m : ChannelUpdate S) : Prop := S.SignatureReparses m.signature

theorem decodesBack : DecodesBack encode decode (fun m : ChannelUpdate S => m.Fits) := by
  intro m rest h
  unfold encode decode
  simp only [List.append_assoc, read_write, Outcome.ok_bind, read_write_signature _ _ h]
  rfl

theorem acceptsOnly (hS : S.SerializesParsed) :
    AcceptsOnly encode decode (fun m : ChannelUpdate S => m.Fits) := by
  intro payload m h
  unfold decode at h
  rcases read_bind_signature_eq_ok hS h with ⟨_, c1, ⟨e1, f1⟩, h⟩
  rcases read_bind_eq_ok h with ⟨_, c2, e2, h⟩
  rcases read_bind_eq_ok h with ⟨_, c3, e3, h⟩
  rcases read_bind_eq_ok h with ⟨_, c4, e4, h⟩
  rcases read_bind_eq_ok h with ⟨_, c5, e5, h⟩
  rcases read_bind_eq_ok h with ⟨_, c6, e6, h⟩
  rcases read_bind_eq_ok h with ⟨_, c7, e7, h⟩
  rcases read_bind_eq_ok h with ⟨_, c8, e8, h⟩
  rcases read_bind_eq_ok h with ⟨_, c9, e9, h⟩
  rcases read_bind_eq_ok h with ⟨_, c10, e10, h⟩
  rcases read_bind_eq_ok h with ⟨_, c11, e11, h⟩
  rw [← Outcome.ok.inj h]
  refine ⟨c11, ?_, f1⟩
  unfold encode
  rw [e1, e2, e3, e4, e5, e6, e7, e8, e9, e10, e11]
  simp only [List.append_assoc]

theorem settles_decode (payload : Bytes) :
    (decode payload : Outcome BoltError (ChannelUpdate S)).Settles := by
  unfold decode
  iterate 11 refine settles_read _ _ fun _ => ?_
  exact Outcome.settles_ok _

end ChannelUpdate

end Bolt

end LnGossipSim
