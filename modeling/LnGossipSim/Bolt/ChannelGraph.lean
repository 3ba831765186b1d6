import LnGossipSim.Library.Transition
import LnGossipSim.Bolt.Message
import LnGossipSim.Bolt.Signing

/-!
# The Channel Graph

What a node that receives gossip makes of it. It keeps the channels that were
announced to it, and admits a message when it is valid for what it knows: an
announcement of a channel when it is for its chain, its nodes are in order and its
four signatures verify, an update when it is signed by the node of the channel it is
for, and an announcement of a node when that is one of a known channel. A message
that is not valid is not admitted, and then the node is right to drop the peer.

The messages that were built for signing are admitted. What it takes is that they are
sent after what they rely on.

## Main definitions

* `PublicChannel`: A channel that was announced.
* `ChannelAnnouncement.Valid`, `ChannelUpdate.ValidFor`, `NodeAnnouncement.ValidIn`:
  What makes the messages valid.
* `learn`: The channels known after a message, when it is valid.

## Theorems

* `learn_newAnnouncement`, `learn_newUpdate`, `learn_defaultSigned`: What was built
  for signing is admitted.
-/

namespace LnGossipSim

namespace Bolt

/-- A channel that was announced: its id and its two nodes. -/
structure PublicChannel (S : Secp256k1) where
  shortChannelId : UInt64
  nodeId1 : S.PublicKey
  nodeId2 : S.PublicKey

section

variable {S : Secp256k1} (E : Signing S) (keyLt : S.PublicKey → S.PublicKey → Bool)
  (chainHash : ByteArr chainHashSize)

/-- The announcement is for the chain, the nodes are in order, and all four signatures
    verify. -/
def ChannelAnnouncement.Valid (m : ChannelAnnouncement S) : Prop :=
  m.chainHash = chainHash ∧ keyLt m.nodeId1 m.nodeId2 = true
    ∧ E.verifyEcdsa (m.signatureHash E) m.nodeSignature1 m.nodeId1 = true
    ∧ E.verifyEcdsa (m.signatureHash E) m.nodeSignature2 m.nodeId2 = true
    ∧ E.verifyEcdsa (m.signatureHash E) m.bitcoinSignature1 m.bitcoinKey1 = true
    ∧ E.verifyEcdsa (m.signatureHash E) m.bitcoinSignature2 m.bitcoinKey2 = true

/-- The channel that an announcement is about. -/
def ChannelAnnouncement.channel (m : ChannelAnnouncement S) : PublicChannel S :=
  ⟨m.shortChannelId, m.nodeId1, m.nodeId2⟩

/-- The node that an update of the channel is from: the first one unless the direction
    bit is set. -/
def ChannelUpdate.origin (m : ChannelUpdate S) (c : PublicChannel S) : S.PublicKey :=
  if m.channelFlags &&& 1 = 0 then c.nodeId1 else c.nodeId2

/-- The update is for the chain and for this channel, and signed by the node it is
    from. -/
def ChannelUpdate.ValidFor (m : ChannelUpdate S) (c : PublicChannel S) : Prop :=
  m.chainHash = chainHash ∧ m.shortChannelId = c.shortChannelId
    ∧ E.verifyEcdsa (m.signatureHash E) m.signature (m.origin c) = true

/-- The announcement is of a node of a known channel, and signed by it. -/
def NodeAnnouncement.ValidIn (m : NodeAnnouncement S) (graph : List (PublicChannel S)) : Prop :=
  m.verify E = true ∧ ∃ c ∈ graph, m.nodeId = c.nodeId1 ∨ m.nodeId = c.nodeId2

instance (m : ChannelAnnouncement S) : Decidable (m.Valid E keyLt chainHash) := by
  unfold ChannelAnnouncement.Valid
  exact inferInstance

instance (m : ChannelUpdate S) (c : PublicChannel S) : Decidable (m.ValidFor E chainHash c) := by
  unfold ChannelUpdate.ValidFor
  exact inferInstance

instance [DecidableEq S.PublicKey] (m : NodeAnnouncement S) (graph : List (PublicChannel S)) :
    Decidable (m.ValidIn E graph) := by
  unfold NodeAnnouncement.ValidIn
  exact inferInstance

/-- The channels known after a message, or nothing when it is not valid. -/
def learn [DecidableEq S.PublicKey] (graph : List (PublicChannel S)) :
    Message S → Option (List (PublicChannel S))
  | .channelAnnouncement m => if m.Valid E keyLt chainHash then some (m.channel :: graph) else none
  | .channelUpdate m => if ∃ c ∈ graph, m.ValidFor E chainHash c then some graph else none
  | .nodeAnnouncement m => if m.ValidIn E graph then some graph else none
  | _ => some graph

end

section

variable {S : Secp256k1} {E : Signing S} {keyLt : S.PublicKey → S.PublicKey → Bool}
  [DecidableEq S.PublicKey]

/-- An announcement that was built from two node secrets in the right order. -/
theorem learn_newAnnouncement (hE : E.VerifiesSigned) (graph : List (PublicChannel S))
    (features : Bytes) (chainHash : ByteArr chainHashSize) (scid : UInt64)
    (nodeSk1 nodeSk2 bitcoinSk1 bitcoinSk2 : S.SecretKey)
    (hkeys : keyLt (S.publicKey nodeSk1) (S.publicKey nodeSk2) = true) :
    learn E keyLt chainHash graph (.channelAnnouncement (ChannelAnnouncement.newSigned E features
        chainHash scid nodeSk1 nodeSk2 bitcoinSk1 bitcoinSk2))
      = some (⟨scid, S.publicKey nodeSk1, S.publicKey nodeSk2⟩ :: graph) :=
  if_pos ⟨rfl, hkeys, hE _ _, hE _ _, hE _ _, hE _ _⟩

/-- An update that was built from the secret of a known channel's first node. -/
theorem learn_newUpdate (hE : E.VerifiesSigned) (graph : List (PublicChannel S))
    (chainHash : ByteArr chainHashSize) (scid : UInt64) (timestamp : UInt32)
    (messageFlags channelFlags : UInt8) (cltvExpiryDelta : UInt16) (htlcMinimumMsat : UInt64)
    (feeBaseMsat feeProportionalMillionths : UInt32) (htlcMaximumMsat : UInt64)
    (nodeSk : S.SecretKey) (nodeId2 : S.PublicKey) (hflags : channelFlags &&& 1 = 0)
    (hknown : ⟨scid, S.publicKey nodeSk, nodeId2⟩ ∈ graph) :
    learn E keyLt chainHash graph (.channelUpdate (ChannelUpdate.newSigned E chainHash scid
        timestamp messageFlags channelFlags cltvExpiryDelta htlcMinimumMsat feeBaseMsat
        feeProportionalMillionths htlcMaximumMsat nodeSk)) = some graph := by
  let update := ChannelUpdate.newSigned E chainHash scid timestamp messageFlags channelFlags
    cltvExpiryDelta htlcMinimumMsat feeBaseMsat feeProportionalMillionths htlcMaximumMsat nodeSk
  have horigin : update.origin ⟨scid, S.publicKey nodeSk, nodeId2⟩ = S.publicKey nodeSk :=
    if_pos hflags
  -- The direction bit is clear, so the signature is checked against the first node.
  refine if_pos ⟨_, hknown, rfl, rfl, ?_⟩
  rw [horigin]
  exact hE _ _

/-- An announcement of a known channel's first node, with its optional fields left
    out. -/
theorem learn_defaultSigned (hE : E.VerifiesSigned) (graph : List (PublicChannel S))
    (chainHash : ByteArr chainHashSize) (nodeSk : S.SecretKey) (c : PublicChannel S)
    (hknown : c ∈ graph) (hnode : c.nodeId1 = S.publicKey nodeSk) :
    learn E keyLt chainHash graph (.nodeAnnouncement (NodeAnnouncement.defaultSigned E nodeSk))
      = some graph :=
  if_pos ⟨hE _ _, c, hknown, Or.inl hnode.symm⟩

end

end Bolt

end LnGossipSim
