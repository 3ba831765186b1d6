import LnGossipSim.Bolt.TlvFields

/-!
# Channel Establishment Messages

The messages of BOLT 2: `open_channel`, a long fixed part followed by a TLV
stream with one even type among its fields, and `funding_created`. Encoding
and decoding here are without the two-byte message type.

Public keys and signatures are parsed by the elliptic curve library. They fit
their format when the library parses their serialization back to them.

## Main definitions

* `OpenChannel`, `OpenChannelTlvs`: The proposal of a channel.
* `FundingCreated`: The funding outpoint and a signature.

## Theorems

* `OpenChannel.encode_eq`: Encoding never panics, and what it produces.
* `OpenChannel.tlvEncoder`, `OpenChannel.tlvCodec`: The laws of a codec that ends in a stream.
* `FundingCreated.decodesBack`, `FundingCreated.acceptsOnly`: Its two laws.
-/

namespace LnGossipSim

namespace Bolt

open Codec

/-- TLV type for upfront shutdown script. -/
def tlvUpfrontShutdownScript : UInt64 := 0

/-- TLV type for channel type. -/
def tlvChannelType : UInt64 := 1

/-- TLV extensions for the `open_channel` message. -/
structure OpenChannelTlvs where
  upfrontShutdownScript : Option ByteVec
  channelType : Option ByteVec
  deriving DecidableEq

/-- BOLT 2 `open_channel` message (type 32). -/
structure OpenChannel (S : Secp256k1) where
  chainHash : ByteArr chainHashSize
  temporaryChannelId : ChannelId
  fundingSatoshis : UInt64
  pushMsat : UInt64
  dustLimitSatoshis : UInt64
  maxHtlcValueInFlightMsat : UInt64
  channelReserveSatoshis : UInt64
  htlcMinimumMsat : UInt64
  feeratePerKw : UInt32
  toSelfDelay : UInt16
  maxAcceptedHtlcs : UInt16
  fundingPubkey : S.PublicKey
  revocationBasepoint : S.PublicKey
  paymentBasepoint : S.PublicKey
  delayedPaymentBasepoint : S.PublicKey
  htlcBasepoint : S.PublicKey
  firstPerCommitmentPoint : S.PublicKey
  channelFlags : UInt8
  tlvs : OpenChannelTlvs

/-- BOLT 2 `funding_created` message (type 34). -/
structure FundingCreated (S : Secp256k1) where
  temporaryChannelId : ChannelId
  fundingTxid : Txid
  fundingOutputIndex : UInt16
  signature : S.Signature

namespace OpenChannelTlvs

/-- The types of the two fields. -/
def types : List UInt64 := [tlvUpfrontShutdownScript, tlvChannelType]

/-- The values of the two fields, with their types. -/
def fields (tlvs : OpenChannelTlvs) : List (UInt64 × Option ByteVec) :=
  [(tlvUpfrontShutdownScript, tlvs.upfrontShutdownScript), (tlvChannelType, tlvs.channelType)]

/-- Extracts open channel TLVs from a parsed TLV stream. -/
def fromStream (stream : TlvStream) : OpenChannelTlvs :=
  { upfrontShutdownScript := stream.get tlvUpfrontShutdownScript
    channelType := stream.get tlvChannelType }

theorem fields_increasing (tlvs : OpenChannelTlvs) : FieldsIncreasing tlvs.fields :=
  types_increasing tlvUpfrontShutdownScript tlvChannelType (by decide)

theorem fromStream_eq (stream : TlvStream) (tlvs : OpenChannelTlvs) :
    fromStream stream = tlvs ↔ LooksUp stream tlvs.fields := by
  cases tlvs with
  | mk script channelType =>
      unfold fromStream LooksUp fields
      simp only [mk.injEq, List.forall_mem_cons, List.not_mem_nil, IsEmpty.forall_iff,
        implies_true, and_true]

end OpenChannelTlvs

namespace OpenChannel

variable {S : Secp256k1}

/-- The fields before the TLV stream. -/
def fixedPart (m : OpenChannel S) : Bytes :=
  WireFormat.write m.chainHash
    ++ WireFormat.write m.temporaryChannelId
    ++ WireFormat.write m.fundingSatoshis
    ++ WireFormat.write m.pushMsat
    ++ WireFormat.write m.dustLimitSatoshis
    ++ WireFormat.write m.maxHtlcValueInFlightMsat
    ++ WireFormat.write m.channelReserveSatoshis
    ++ WireFormat.write m.htlcMinimumMsat
    ++ WireFormat.write m.feeratePerKw
    ++ WireFormat.write m.toSelfDelay
    ++ WireFormat.write m.maxAcceptedHtlcs
    ++ WireFormat.write m.fundingPubkey
    ++ WireFormat.write m.revocationBasepoint
    ++ WireFormat.write m.paymentBasepoint
    ++ WireFormat.write m.delayedPaymentBasepoint
    ++ WireFormat.write m.htlcBasepoint
    ++ WireFormat.write m.firstPerCommitmentPoint
    ++ WireFormat.write m.channelFlags

/-- Encodes to wire format (without message type prefix). -/
def encode (m : OpenChannel S) : Outcome BoltError Bytes := do
  let out := m.fixedPart
  let stream ← TlvStream.new.addIfSome tlvUpfrontShutdownScript m.tlvs.upfrontShutdownScript
  let stream ← stream.addIfSome tlvChannelType m.tlvs.channelType
  return out ++ stream.encode

/-- Decodes from wire format (without message type prefix). Type 0 is an even
    type defined by BOLT 2, so it is treated as known. -/
def decode (payload : Bytes) : Outcome BoltError (OpenChannel S) := do
  let (chainHash, cursor) ← readAs (ByteArr chainHashSize) payload
  let (temporaryChannelId, cursor) ← readAs ChannelId cursor
  let (fundingSatoshis, cursor) ← readAs UInt64 cursor
  let (pushMsat, cursor) ← readAs UInt64 cursor
  let (dustLimitSatoshis, cursor) ← readAs UInt64 cursor
  let (maxHtlcValueInFlightMsat, cursor) ← readAs UInt64 cursor
  let (channelReserveSatoshis, cursor) ← readAs UInt64 cursor
  let (htlcMinimumMsat, cursor) ← readAs UInt64 cursor
  let (feeratePerKw, cursor) ← readAs UInt32 cursor
  let (toSelfDelay, cursor) ← readAs UInt16 cursor
  let (maxAcceptedHtlcs, cursor) ← readAs UInt16 cursor
  let (fundingPubkey, cursor) ← readAs S.PublicKey cursor
  let (revocationBasepoint, cursor) ← readAs S.PublicKey cursor
  let (paymentBasepoint, cursor) ← readAs S.PublicKey cursor
  let (delayedPaymentBasepoint, cursor) ← readAs S.PublicKey cursor
  let (htlcBasepoint, cursor) ← readAs S.PublicKey cursor
  let (firstPerCommitmentPoint, cursor) ← readAs S.PublicKey cursor
  let (channelFlags, cursor) ← readAs UInt8 cursor
  let stream ← TlvStream.decodeWithKnown cursor [tlvUpfrontShutdownScript]
  let tlvs := OpenChannelTlvs.fromStream stream
  return { chainHash, temporaryChannelId, fundingSatoshis, pushMsat, dustLimitSatoshis,
           maxHtlcValueInFlightMsat, channelReserveSatoshis, htlcMinimumMsat, feeratePerKw,
           toSelfDelay, maxAcceptedHtlcs, fundingPubkey, revocationBasepoint, paymentBasepoint,
           delayedPaymentBasepoint, htlcBasepoint, firstPerCommitmentPoint, channelFlags, tlvs }

/-- The library parses each of the six keys back. -/
structure Fits (m : OpenChannel S) : Prop where
  fundingPubkey : S.KeyReparses m.fundingPubkey
  revocationBasepoint : S.KeyReparses m.revocationBasepoint
  paymentBasepoint : S.KeyReparses m.paymentBasepoint
  delayedPaymentBasepoint : S.KeyReparses m.delayedPaymentBasepoint
  htlcBasepoint : S.KeyReparses m.htlcBasepoint
  firstPerCommitmentPoint : S.KeyReparses m.firstPerCommitmentPoint

/-- Encoding never panics: the records are added in the order of their
    types. -/
theorem encode_eq (m : OpenChannel S) :
    m.encode = .ok (m.fixedPart ++ TlvStream.encode ⟨tlvRecords m.tlvs.fields⟩) := by
  have hstream := TlvStream.addIfSome_two tlvUpfrontShutdownScript tlvChannelType
    m.tlvs.upfrontShutdownScript m.tlvs.channelType (by decide)
  unfold encode
  simp only
  rw [← bind_assoc, hstream]
  rfl

/-- Behind the fixed part, decoding is that of the stream. -/
theorem decode_front (m : OpenChannel S) (data : Bytes) (hfits : m.Fits) :
    decode (m.fixedPart ++ data)
      = (TlvStream.decodeWithKnown data [tlvUpfrontShutdownScript] >>= fun stream =>
          .ok { m with tlvs := OpenChannelTlvs.fromStream stream }) := by
  unfold decode fixedPart
  simp only [List.append_assoc, read_write, Outcome.ok_bind,
    read_write_publicKey _ _ hfits.fundingPubkey,
    read_write_publicKey _ _ hfits.revocationBasepoint,
    read_write_publicKey _ _ hfits.paymentBasepoint,
    read_write_publicKey _ _ hfits.delayedPaymentBasepoint,
    read_write_publicKey _ _ hfits.htlcBasepoint,
    read_write_publicKey _ _ hfits.firstPerCommitmentPoint]
  rfl

/-- What is decoded from the fixed part and a stream are the values the stream
    has for the two types. -/
theorem decode_stream (m : OpenChannel S) (s : TlvStream) (data : Bytes) (hfits : m.Fits)
    (hs : TlvStream.decodeWithKnown data [tlvUpfrontShutdownScript] = .ok s)
    (hget : LooksUp s m.tlvs.fields) :
    decode (m.fixedPart ++ data) = .ok m := by
  rw [decode_front m data hfits, hs, Outcome.ok_bind,
    (OpenChannelTlvs.fromStream_eq s m.tlvs).mpr hget]

/-- A payload that decodes to an `open_channel` is its fixed part followed by
    a stream that has the fields' values for their types. -/
theorem decode_eq_ok (hS : S.SerializesParsed) (payload : Bytes) (m : OpenChannel S)
    (h : decode payload = .ok m) :
    ∃ s data, payload = m.fixedPart ++ data ∧ m.Fits
      ∧ TlvStream.decodeWithKnown data [tlvUpfrontShutdownScript] = .ok s
      ∧ LooksUp s m.tlvs.fields := by
  unfold decode at h
  rcases read_bind_eq_ok h with ⟨_, c1, e1, h⟩
  rcases read_bind_eq_ok h with ⟨_, c2, e2, h⟩
  rcases read_bind_eq_ok h with ⟨_, c3, e3, h⟩
  rcases read_bind_eq_ok h with ⟨_, c4, e4, h⟩
  rcases read_bind_eq_ok h with ⟨_, c5, e5, h⟩
  rcases read_bind_eq_ok h with ⟨_, c6, e6, h⟩
  rcases read_bind_eq_ok h with ⟨_, c7, e7, h⟩
  rcases read_bind_eq_ok h with ⟨_, c8, e8, h⟩
  rcases read_bind_eq_ok h with ⟨_, c9, e9, h⟩
  rcases read_bind_eq_ok h with ⟨_, c10, e10, h⟩
  rcases read_bind_eq_ok h with ⟨_, c11, e11, h⟩
  rcases read_bind_publicKey_eq_ok hS h with ⟨_, c12, ⟨e12, f12⟩, h⟩
  rcases read_bind_publicKey_eq_ok hS h with ⟨_, c13, ⟨e13, f13⟩, h⟩
  rcases read_bind_publicKey_eq_ok hS h with ⟨_, c14, ⟨e14, f14⟩, h⟩
  rcases read_bind_publicKey_eq_ok hS h with ⟨_, c15, ⟨e15, f15⟩, h⟩
  rcases read_bind_publicKey_eq_ok hS h with ⟨_, c16, ⟨e16, f16⟩, h⟩
  rcases read_bind_publicKey_eq_ok hS h with ⟨_, c17, ⟨e17, f17⟩, h⟩
  rcases read_bind_eq_ok h with ⟨_, c18, e18, h⟩
  -- The last cursor is the stream.
  rcases (Outcome.bind_eq_ok _ _ _).mp h with ⟨s, hs, hm⟩
  rw [← Outcome.ok.inj hm]
  refine ⟨s, c18, ?_, ⟨f12, f13, f14, f15, f16, f17⟩, hs,
    (OpenChannelTlvs.fromStream_eq s _).mp rfl⟩
  unfold fixedPart
  rw [e1, e2, e3, e4, e5, e6, e7, e8, e9, e10, e11, e12, e13, e14, e15, e16, e17, e18]
  simp only [List.append_assoc]

theorem tlvEncoder (S : Secp256k1) :
    TlvEncoder encode decode (fun m : OpenChannel S => m.fixedPart) (fun m => m.tlvs.fields)
      OpenChannelTlvs.types [tlvUpfrontShutdownScript] Fits
      (fun s m => LooksUp s m.tlvs.fields) where
  types_eq _ := rfl
  increasing := types_increasing _ _ (by decide)
  known := List.forall_mem_cons.mpr ⟨by decide, List.forall_mem_singleton.mpr (by decide)⟩
  encode_eq := encode_eq
  extracts_own m := looksUp_own _ m.tlvs.fields_increasing
  decode_stream := decode_stream

theorem tlvCodec (hS : S.SerializesParsed) :
    TlvCodec encode decode (fun m : OpenChannel S => m.fixedPart) (fun m => m.tlvs.fields)
      OpenChannelTlvs.types [tlvUpfrontShutdownScript] Fits
      (fun s m => LooksUp s m.tlvs.fields) where
  toTlvEncoder := tlvEncoder S
  decode_eq_ok := decode_eq_ok hS
  shrinks m s hs hget := looksUp_shrinks s hs _ m.tlvs.fields_increasing hget

theorem settles_decode (payload : Bytes) :
    (decode payload : Outcome BoltError (OpenChannel S)).Settles := by
  unfold decode
  iterate 18 refine settles_read _ _ fun _ => ?_
  exact Outcome.settles_bind _ _ (TlvStream.decodeWithKnown_settles _ _)
    fun _ _ => Outcome.settles_ok _

end OpenChannel

namespace FundingCreated

variable {S : Secp256k1}

/-- Encodes to wire format (without message type prefix). -/
def encode (m : FundingCreated S) : Bytes :=
  WireFormat.write m.temporaryChannelId
    ++ WireFormat.write m.fundingTxid
    ++ WireFormat.write m.fundingOutputIndex
    ++ WireFormat.write m.signature

/-- Decodes from wire format (without message type prefix). -/
def decode (payload : Bytes) : Outcome BoltError (FundingCreated S) := do
  let (temporaryChannelId, cursor) ← readAs ChannelId payload
  let (fundingTxid, cursor) ← readAs Txid cursor
  let (fundingOutputIndex, cursor) ← readAs UInt16 cursor
  let (signature, _) ← readAs S.Signature cursor
  return { temporaryChannelId, fundingTxid, fundingOutputIndex, signature }

/-- The library parses the signature back. -/
def Fits (m : FundingCreated S) : Prop := S.SignatureReparses m.signature

theorem decodesBack : DecodesBack encode decode (fun m : FundingCreated S => m.Fits) := by
  intro m rest h
  unfold encode decode
  simp only [List.append_assoc, read_write, Outcome.ok_bind, read_write_signature _ _ h]
  rfl

theorem acceptsOnly (hS : S.SerializesParsed) :
    AcceptsOnly encode decode (fun m : FundingCreated S => m.Fits) := by
  intro payload m h
  unfold decode at h
  rcases read_bind_eq_ok h with ⟨_, c1, e1, h⟩
  rcases read_bind_eq_ok h with ⟨_, c2, e2, h⟩
  rcases read_bind_eq_ok h with ⟨_, c3, e3, h⟩
  rcases read_bind_signature_eq_ok hS h with ⟨_, c4, ⟨e4, f4⟩, h⟩
  rw [← Outcome.ok.inj h]
  refine ⟨c4, ?_, f4⟩
  unfold encode
  rw [e1, e2, e3, e4]
  simp only [List.append_assoc]

theorem settles_decode (payload : Bytes) :
    (decode payload : Outcome BoltError (FundingCreated S)).Settles := by
  unfold decode
  iterate 4 refine settles_read _ _ fun _ => ?_
  exact Outcome.settles_ok _

end FundingCreated

end Bolt

end LnGossipSim
