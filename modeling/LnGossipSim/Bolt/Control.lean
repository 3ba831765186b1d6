import LnGossipSim.Bolt.TlvFields

/-!
# Control Messages

The messages of BOLT 1: `warning` and `error`, which have the same fields,
`ping`, `pong`, and `init`, which ends in a TLV stream. Encoding and decoding
here are without the two-byte message type.

Each codec is related to its inverse by two theorems. The first reads an
encoding back with any bytes following it, when the length-prefixed fields fit
their prefix. The second says that an accepted payload starts with the
encoding of the result. For `init` the second is about its fixed part and the
records of the stream, since an extension record is accepted and not kept.

## Main definitions

* `ChannelNotice`: The fields of a warning or an error.
* `ChannelNotice.ofText`: What the constructors of both do.
* `Ping`, `Pong`: The liveness check and its response.
* `Pong.respondTo`, `Init.echo`: How an answer is made of what was received.
* `Init`, `InitTlvs`: The feature negotiation message.
* `InitTlvs.fromStream`: The fields of a parsed stream.

## Theorems

* `ChannelNotice.decodesBack`, `ChannelNotice.acceptsOnly`: Its two laws.
* `Ping.decodesBack`, `Ping.acceptsOnly`: The two laws of a ping.
* `Pong.decodesBack`, `Pong.acceptsOnly`: The two laws of a pong.
* `Init.encode_eq`: Encoding never panics, and what it produces.
* `Init.decode_eq_ok`: What a payload that decodes to an init looks like.
-/

namespace LnGossipSim

namespace Bolt

open Codec

/-- A message about one channel, or about all of them. -/
structure ChannelNotice where
  channelId : ChannelId
  data : Bytes
  deriving DecidableEq

/-- BOLT 1 warning message (type 1). -/
abbrev Warning := ChannelNotice

/-- BOLT 1 error message (type 17). -/
abbrev Error := ChannelNotice

/-- BOLT 1 ping message (type 18). -/
structure Ping where
  numPongBytes : UInt16
  ignored : Bytes
  deriving DecidableEq

/-- BOLT 1 pong message (type 19). -/
structure Pong where
  ignored : Bytes
  deriving DecidableEq

/-- Creates a ping requesting padding in the response. -/
def Ping.new (numPongBytes : UInt16) : Ping := { numPongBytes, ignored := [] }

/-- Creates a pong with the specified number of padding bytes. -/
def Pong.new (byteslen : UInt16) : Pong := { ignored := List.replicate byteslen.toNat 0 }

/-- Creates a pong response to a ping. The padding is capped so that the message
    with its type and length prefix stays within the maximum size. -/
def Pong.respondTo (ping : Ping) : Pong := Pong.new (min ping.numPongBytes 65531)

/-- A vector of chain hashes. Its total size fits the 64-bit `usize`, as that
    of any vector does. -/
abbrev ChainHashes :=
  { hashes : List (ByteArr chainHashSize) // hashes.length * chainHashSize < 2 ^ 64 }

/-- TLV extensions for the init message. -/
structure InitTlvs where
  networks : Option ChainHashes
  remoteAddr : Option ByteVec
  deriving DecidableEq

/-- BOLT 1 init message (type 16). -/
structure Init where
  globalfeatures : Bytes
  features : Bytes
  tlvs : InitTlvs
  deriving DecidableEq

/-- Creates an init that echoes the received init's features. -/
def Init.echo (received : Init) : Init :=
  { globalfeatures := received.globalfeatures, features := received.features,
    tlvs := { networks := none, remoteAddr := none } }

/-- TLV type for chain hash list. -/
def tlvNetworks : UInt64 := 1

/-- TLV type for remote address. -/
def tlvRemoteAddr : UInt64 := 3

/-- A notice with a text. Panics if the text is longer than the maximum message
    size. -/
def ChannelNotice.ofText (channelId : ChannelId) (msg : String) : Outcome BoltError ChannelNotice :=
  if msg.utf8ByteSize ≤ maxMessageSize then
    .ok { channelId, data := msg.toByteArray.data.toList }
  else .panicked

/-- Creates an error for all channels. -/
def Error.allChannels (msg : String) : Outcome BoltError Error :=
  ChannelNotice.ofText ChannelId.all msg

/-- Creates an error for a specific channel. -/
def Error.forChannel (channelId : ChannelId) (msg : String) : Outcome BoltError Error :=
  ChannelNotice.ofText channelId msg

/-- Creates a warning for all channels. -/
def Warning.allChannels (msg : String) : Outcome BoltError Warning :=
  ChannelNotice.ofText ChannelId.all msg

/-- Creates a warning for a specific channel. -/
def Warning.forChannel (channelId : ChannelId) (msg : String) : Outcome BoltError Warning :=
  ChannelNotice.ofText channelId msg

namespace ChannelNotice

/-- Encodes to wire format (without message type prefix). -/
def encode (m : ChannelNotice) : Bytes :=
  WireFormat.write m.channelId ++ WireFormat.write m.data

/-- Decodes from wire format (without message type prefix). -/
def decode (payload : Bytes) : Outcome BoltError ChannelNotice := do
  let (channelId, cursor) ← readAs ChannelId payload
  let (data, _) ← readAs Bytes cursor
  return { channelId, data }

/-- The data fits its length prefix. -/
def Fits (m : ChannelNotice) : Prop := FitsVec m.data

/-- A text that the constructors take, and the notice they make of it. -/
theorem ofText_eq_ok (channelId : ChannelId) (msg : String) (m : ChannelNotice) :
    ofText channelId msg = .ok m
      ↔ msg.utf8ByteSize ≤ maxMessageSize ∧ m = ⟨channelId, msg.toByteArray.data.toList⟩ := by
  unfold ofText
  by_cases h : msg.utf8ByteSize ≤ maxMessageSize
  · rw [if_pos h, Outcome.ok.injEq, eq_comm]
    exact (and_iff_right h).symm
  · simp only [h, if_false, reduceCtorEq, false_and]

theorem decodesBack : DecodesBack encode decode Fits := by
  intro m rest h
  unfold encode decode
  rw [List.append_assoc, read_write, Outcome.ok_bind]
  simp only
  rw [read_write_vec m.data rest h, Outcome.ok_bind]
  rfl

theorem acceptsOnly : AcceptsOnly encode decode Fits := by
  intro payload m h
  unfold decode at h
  rcases read_bind_eq_ok h with ⟨_, c1, e1, h⟩
  rcases read_bind_vec_eq_ok h with ⟨_, c2, ⟨e2, f2⟩, h⟩
  rw [← Outcome.ok.inj h]
  refine ⟨c2, ?_, f2⟩
  unfold encode
  rw [e1, e2, List.append_assoc]

theorem settles_decode (payload : Bytes) : (decode payload).Settles := by
  unfold decode
  refine settles_read _ _ fun _ => ?_
  exact settles_read _ _ fun _ => Outcome.settles_ok _

end ChannelNotice

/-- Encodes to wire format (without message type prefix). -/
def Error.encode : Error → Bytes := ChannelNotice.encode

/-- Decodes from wire format (without message type prefix). -/
def Error.decode : Bytes → Outcome BoltError Error := ChannelNotice.decode

/-- Encodes to wire format (without message type prefix). -/
def Warning.encode : Warning → Bytes := ChannelNotice.encode

/-- Decodes from wire format (without message type prefix). -/
def Warning.decode : Bytes → Outcome BoltError Warning := ChannelNotice.decode

namespace Ping

/-- Encodes to wire format (without message type prefix). -/
def encode (m : Ping) : Bytes :=
  WireFormat.write m.numPongBytes ++ WireFormat.write m.ignored

/-- Decodes from wire format (without message type prefix). -/
def decode (payload : Bytes) : Outcome BoltError Ping := do
  let (numPongBytes, cursor) ← readAs UInt16 payload
  let (ignored, _) ← readAs Bytes cursor
  return { numPongBytes, ignored }

/-- The padding fits its length prefix. -/
def Fits (m : Ping) : Prop := FitsVec m.ignored

theorem decodesBack : DecodesBack encode decode Fits := by
  intro m rest h
  unfold encode decode
  rw [List.append_assoc, read_write, Outcome.ok_bind]
  simp only
  rw [read_write_vec m.ignored rest h, Outcome.ok_bind]
  rfl

theorem acceptsOnly : AcceptsOnly encode decode Fits := by
  intro payload m h
  unfold decode at h
  rcases read_bind_eq_ok h with ⟨_, c1, e1, h⟩
  rcases read_bind_vec_eq_ok h with ⟨_, c2, ⟨e2, f2⟩, h⟩
  rw [← Outcome.ok.inj h]
  refine ⟨c2, ?_, f2⟩
  unfold encode
  rw [e1, e2, List.append_assoc]

theorem settles_decode (payload : Bytes) : (decode payload).Settles := by
  unfold decode
  refine settles_read _ _ fun _ => ?_
  exact settles_read _ _ fun _ => Outcome.settles_ok _

end Ping

namespace Pong

/-- Encodes to wire format (without message type prefix). -/
def encode (m : Pong) : Bytes := WireFormat.write m.ignored

/-- Decodes from wire format (without message type prefix). -/
def decode (payload : Bytes) : Outcome BoltError Pong := do
  let (ignored, _) ← readAs Bytes payload
  return { ignored }

/-- The padding fits its length prefix. -/
def Fits (m : Pong) : Prop := FitsVec m.ignored

theorem decodesBack : DecodesBack encode decode Fits := by
  intro m rest h
  unfold encode decode
  rw [read_write_vec m.ignored rest h, Outcome.ok_bind]
  rfl

theorem acceptsOnly : AcceptsOnly encode decode Fits := by
  intro payload m h
  unfold decode at h
  rcases read_bind_vec_eq_ok h with ⟨_, c1, ⟨e1, f1⟩, h⟩
  rw [← Outcome.ok.inj h]
  exact ⟨c1, e1, f1⟩

theorem settles_decode (payload : Bytes) : (decode payload).Settles :=
  settles_read payload _ fun _ => Outcome.settles_ok _

end Pong

namespace ChainHashes

/-- The hashes, concatenated into one value. -/
def value (networks : ChainHashes) : ByteVec :=
  ⟨networks.val.flatMap List.Vector.toList, by
    rw [Slice.length_flatMap_toList]
    exact networks.property⟩

/-- The whole hashes of a value, and the bytes left over. -/
def ofValue (data : ByteVec) : ChainHashes × Bytes :=
  (⟨(Slice.asChunks chainHashSize data.val).1, by
    have hlen := congrArg List.length (Slice.asChunks_flatten chainHashSize data.val)
    rw [List.length_append, Slice.length_flatMap_toList] at hlen
    have hdata := data.property
    omega⟩, (Slice.asChunks chainHashSize data.val).2)

end ChainHashes

namespace InitTlvs

/-- The values of the two fields, with their types. -/
def fields (tlvs : InitTlvs) : List (UInt64 × Option ByteVec) :=
  [(tlvNetworks, tlvs.networks.map ChainHashes.value), (tlvRemoteAddr, tlvs.remoteAddr)]

/-- The chain hashes in the stream, rejected when they are cut short. -/
def networksFromStream (stream : TlvStream) : Outcome BoltError (Option ChainHashes) :=
  match stream.get tlvNetworks with
  | some data => do
    let (chunks, remainder) := ChainHashes.ofValue data
    Outcome.rejectIf (remainder ≠ [])
      (.truncated ((chunks.val.length + 1) * chainHashSize) data.val.length)
    return some chunks
  | none => .ok none

/-- Extracts init TLVs from a parsed TLV stream. -/
def fromStream (stream : TlvStream) : Outcome BoltError InitTlvs := do
  let networks ← networksFromStream stream
  let remoteAddr := stream.get tlvRemoteAddr
  return { networks, remoteAddr }

end InitTlvs

namespace Init

/-- The fields before the TLV stream. -/
def fixedPart (m : Init) : Bytes :=
  WireFormat.write m.globalfeatures ++ WireFormat.write m.features

/-- Encodes to wire format (without message type prefix). -/
def encode (m : Init) : Outcome BoltError Bytes := do
  let out := m.fixedPart
  let stream ← TlvStream.new.addIfSome tlvNetworks (m.tlvs.networks.map ChainHashes.value)
  let stream ← stream.addIfSome tlvRemoteAddr m.tlvs.remoteAddr
  return out ++ stream.encode

/-- Decodes from wire format (without message type prefix). -/
def decode (payload : Bytes) : Outcome BoltError Init := do
  let (globalfeatures, cursor) ← readAs Bytes payload
  let (features, cursor) ← readAs Bytes cursor
  let stream ← TlvStream.decode cursor
  let tlvs ← InitTlvs.fromStream stream
  return { globalfeatures, features, tlvs }

/-- Both feature fields fit their length prefix. -/
def Fits (m : Init) : Prop := FitsVec m.globalfeatures ∧ FitsVec m.features

end Init

/-- A list of chain hashes is read back from its value. -/
theorem ChainHashes.ofValue_value (networks : ChainHashes) :
    ofValue (value networks) = (networks, []) := by
  have hchunks := Slice.asChunks_append chainHashSize networks.val [] (by decide)
  rw [List.append_nil] at hchunks
  unfold ofValue value
  simp only [hchunks]

/-- A value with nothing left over is that of its chain hashes. -/
theorem ChainHashes.value_ofValue (data : ByteVec) (h : (ofValue data).2 = []) :
    value (ofValue data).1 = data := by
  have hflat := Slice.asChunks_flatten chainHashSize data.val
  have hrem : (Slice.asChunks chainHashSize data.val).2 = [] := h
  rw [hrem, List.append_nil] at hflat
  ext1
  exact hflat

/-- The types of the two fields. -/
def InitTlvs.types : List UInt64 := [tlvNetworks, tlvRemoteAddr]

theorem InitTlvs.fields_increasing (tlvs : InitTlvs) : FieldsIncreasing tlvs.fields :=
  types_increasing tlvNetworks tlvRemoteAddr (by decide)

/-- The chain hashes are accepted exactly from their own value. -/
theorem InitTlvs.networksFromStream_eq_ok (stream : TlvStream) (networks : Option ChainHashes) :
    networksFromStream stream = .ok networks
      ↔ stream.get tlvNetworks = networks.map ChainHashes.value := by
  unfold networksFromStream
  cases stream.get tlvNetworks with
  | none =>
      rw [Outcome.ok.injEq, eq_comm, eq_comm (a := none), Option.map_eq_none_iff]
  | some data =>
      simp only
      by_cases hrem : (ChainHashes.ofValue data).2 = []
      · rw [Outcome.rejectIf_of_not _ _ (not_not.mpr hrem), Outcome.ok_bind, Outcome.pure_eq_ok,
          Outcome.ok.injEq]
        constructor
        · intro h
          rw [← h, Option.map_some, ChainHashes.value_ofValue data hrem]
        · intro h
          rcases Option.map_eq_some_iff.mp h.symm with ⟨hashes, hn, hvalue⟩
          rw [hn, ← hvalue, ChainHashes.ofValue_value]
      · constructor
        · intro h
          rw [Outcome.bind_eq_ok] at h
          rcases h with ⟨u, hreject, -⟩
          exact absurd hrem ((Outcome.rejectIf_eq_ok _ _ u).mp hreject)
        · intro h
          -- A value made of whole hashes leaves nothing over.
          rcases Option.map_eq_some_iff.mp h.symm with ⟨hashes, -, hvalue⟩
          rw [← hvalue, ChainHashes.ofValue_value] at hrem
          exact absurd rfl hrem

/-- The fields of a parsed stream are the values it has for their types. -/
theorem InitTlvs.fromStream_eq_ok (stream : TlvStream) (tlvs : InitTlvs) :
    fromStream stream = .ok tlvs ↔ LooksUp stream tlvs.fields := by
  unfold fromStream LooksUp fields
  simp only [Outcome.bind_eq_ok, networksFromStream_eq_ok, Outcome.pure_eq_ok, Outcome.ok.injEq,
    List.forall_mem_cons, List.not_mem_nil, IsEmpty.forall_iff, implies_true, and_true]
  constructor
  · intro h
    rcases h with ⟨networks, hnet, htlvs⟩
    rw [← htlvs]
    exact ⟨hnet, rfl⟩
  · intro h
    exact ⟨tlvs.networks, h.1, by rw [h.2]⟩

theorem InitTlvs.settles_fromStream (stream : TlvStream) : (fromStream stream).Settles := by
  unfold fromStream networksFromStream
  refine Outcome.settles_bind _ _ ?_ (fun _ _ => Outcome.settles_ok _)
  cases stream.get tlvNetworks with
  | none => exact Outcome.settles_ok _
  | some data =>
      exact Outcome.settles_bind _ _ (Outcome.settles_rejectIf _ _)
        (fun _ _ => Outcome.settles_ok _)

namespace Init

/-- Encoding never panics: the records are added in the order of their
    types. -/
theorem encode_eq (m : Init) :
    m.encode = .ok (m.fixedPart ++ TlvStream.encode ⟨tlvRecords m.tlvs.fields⟩) := by
  have hstream := TlvStream.addIfSome_two tlvNetworks tlvRemoteAddr
    (m.tlvs.networks.map ChainHashes.value) m.tlvs.remoteAddr (by decide)
  unfold encode
  simp only
  rw [← bind_assoc, hstream]
  rfl

/-- Behind the fixed part, decoding is that of the stream. -/
theorem decode_front (m : Init) (data : Bytes) (hfits : m.Fits) :
    decode (m.fixedPart ++ data)
      = (TlvStream.decodeWithKnown data [] >>= fun stream =>
          InitTlvs.fromStream stream >>= fun tlvs => .ok { m with tlvs }) := by
  unfold decode fixedPart
  rw [List.append_assoc, read_write_vec _ _ hfits.1, Outcome.ok_bind]
  simp only
  rw [read_write_vec _ _ hfits.2, Outcome.ok_bind]
  rfl

/-- What is decoded from the fixed part and a stream are the values the stream
    has for the two types. -/
theorem decode_stream (m : Init) (s : TlvStream) (data : Bytes) (hfits : m.Fits)
    (hs : TlvStream.decodeWithKnown data [] = .ok s) (hget : LooksUp s m.tlvs.fields) :
    decode (m.fixedPart ++ data) = .ok m := by
  rw [decode_front m data hfits, hs, Outcome.ok_bind,
    (InitTlvs.fromStream_eq_ok s m.tlvs).mpr hget]
  rfl

/-- A payload that decodes to an init is its fixed part followed by a stream
    that has the fields' values for their types. -/
theorem decode_eq_ok (payload : Bytes) (m : Init) (h : decode payload = .ok m) :
    ∃ s data, payload = m.fixedPart ++ data ∧ m.Fits
      ∧ TlvStream.decodeWithKnown data [] = .ok s ∧ LooksUp s m.tlvs.fields := by
  unfold decode at h
  rcases read_bind_vec_eq_ok h with ⟨_, c1, ⟨e1, f1⟩, h⟩
  rcases read_bind_vec_eq_ok h with ⟨_, c2, ⟨e2, f2⟩, h⟩
  rcases (Outcome.bind_eq_ok _ _ _).mp h with ⟨s, hs, h⟩
  rcases (Outcome.bind_eq_ok _ _ _).mp h with ⟨tlvs, htlvs, hm⟩
  rw [InitTlvs.fromStream_eq_ok] at htlvs
  rw [← Outcome.ok.inj hm]
  refine ⟨s, c2, ?_, ⟨f1, f2⟩, hs, htlvs⟩
  unfold fixedPart
  rw [e1, e2, List.append_assoc]

theorem tlvCodec : TlvCodec encode decode fixedPart (fun m => m.tlvs.fields) InitTlvs.types []
    Fits (fun s m => LooksUp s m.tlvs.fields) where
  types_eq _ := rfl
  increasing := types_increasing _ _ (by decide)
  known := List.forall_mem_cons.mpr ⟨by decide, List.forall_mem_singleton.mpr (by decide)⟩
  encode_eq := encode_eq
  extracts_own m := looksUp_own _ m.tlvs.fields_increasing
  decode_stream := decode_stream
  decode_eq_ok := decode_eq_ok
  shrinks m s hs hget := looksUp_shrinks s hs _ m.tlvs.fields_increasing hget

theorem settles_decode (payload : Bytes) : (decode payload).Settles := by
  unfold decode
  refine settles_read _ _ fun _ => settles_read _ _ fun q => ?_
  refine Outcome.settles_bind _ _ (TlvStream.decodeWithKnown_settles q.2 []) fun s _ => ?_
  exact Outcome.settles_bind _ _ (InitTlvs.settles_fromStream s) fun _ _ => Outcome.settles_ok _

end Init

end Bolt

end LnGossipSim
