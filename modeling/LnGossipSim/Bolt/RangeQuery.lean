import LnGossipSim.Bolt.TlvFields

/-!
# Range Query Messages

The BOLT 7 messages that enumerate the channels of a block range:
`query_channel_range` and `reply_channel_range`. Both end in a TLV stream.
Encoding and decoding here are without the two-byte message type.

The query's one field is itself a `BigSize`, written into the value of its
record. The decoder reads the `BigSize` off the front of the value and ignores
what is left of it, so the value of an accepted record need not be the one the
encoder would write: it only starts with it.

## Main definitions

* `QueryChannelRange`: The query, with its optional flags.
* `QueryChannelRange.Extracts`: The flags are at the front of a value.
* `ReplyChannelRange`, `ReplyChannelRangeTlvs`: The reply.

## Theorems

* `QueryChannelRange.queryOption_eq_ok`: When the flags are accepted.
* `QueryChannelRange.tlvCodec`: The laws of a codec that ends in a stream.
* `QueryChannelRange.looksUp_of_exact`: Flags that fill their value.
* `ReplyChannelRange.tlvCodec`: The laws of a codec that ends in a stream.
-/

namespace LnGossipSim

namespace Bolt

open Codec

/-- TLV type for the optional `query_option` flags. -/
def tlvQueryOption : UInt64 := 1

/-- TLV type for the optional per-channel timestamps. -/
def tlvTimestamps : UInt64 := 1

/-- TLV type for the optional per-channel checksums. -/
def tlvChecksums : UInt64 := 3

/-- BOLT 7 `query_channel_range` message (type 263). -/
structure QueryChannelRange where
  chainHash : ByteArr chainHashSize
  firstBlocknum : UInt32
  numberOfBlocks : UInt32
  queryOption : Option UInt64
  deriving DecidableEq

/-- TLV extensions for the `reply_channel_range` message. -/
structure ReplyChannelRangeTlvs where
  timestamps : Option ByteVec
  checksums : Option ByteVec
  deriving DecidableEq

/-- BOLT 7 `reply_channel_range` message (type 264). -/
structure ReplyChannelRange where
  chainHash : ByteArr chainHashSize
  firstBlocknum : UInt32
  numberOfBlocks : UInt32
  syncComplete : UInt8
  encodedShortIds : Bytes
  tlvs : ReplyChannelRangeTlvs
  deriving DecidableEq

/-- A `BigSize` as the value of a record. -/
def bigSizeValue (n : UInt64) : ByteVec :=
  ⟨WireFormat.write (⟨n⟩ : BigSize), by
    change (writeBigSize ⟨n⟩).length < 2 ^ 64
    rw [writeBigSize_length]
    unfold BigSize.len
    split_ifs <;> omega⟩

namespace QueryChannelRange

/-- The types of the fields. -/
def types : List UInt64 := [tlvQueryOption]

/-- The value of the one field, with its type. -/
def fields (m : QueryChannelRange) : List (UInt64 × Option ByteVec) :=
  [(tlvQueryOption, m.queryOption.map bigSizeValue)]

/-- The fields before the TLV stream. -/
def fixedPart (m : QueryChannelRange) : Bytes :=
  WireFormat.write m.chainHash
    ++ WireFormat.write m.firstBlocknum
    ++ WireFormat.write m.numberOfBlocks

/-- Encodes to wire format (without message type prefix). -/
def encode (m : QueryChannelRange) : Outcome BoltError Bytes := do
  let out := m.fixedPart
  let stream ← TlvStream.new.addIfSome tlvQueryOption (m.queryOption.map bigSizeValue)
  return out ++ stream.encode

/-- Reads the flags off the front of the value, when there is one. -/
def queryOptionFromStream (stream : TlvStream) : Outcome BoltError (Option UInt64) :=
  match stream.get tlvQueryOption with
  | some value => do
    let (flags, _) ← readAs BigSize value.val
    return some flags.value
  | none => .ok none

/-- Decodes from wire format (without message type prefix). -/
def decode (payload : Bytes) : Outcome BoltError QueryChannelRange := do
  let (chainHash, cursor) ← readAs (ByteArr chainHashSize) payload
  let (firstBlocknum, cursor) ← readAs UInt32 cursor
  let (numberOfBlocks, cursor) ← readAs UInt32 cursor
  let stream ← TlvStream.decode cursor
  let queryOption ← queryOptionFromStream stream
  return { chainHash, firstBlocknum, numberOfBlocks, queryOption }

/-- Every field has a fixed width. -/
def Fits (_ : QueryChannelRange) : Prop := True

/-- The flags are at the front of the value the stream has for them, and absent
    when the stream has none. -/
def Extracts (stream : TlvStream) (m : QueryChannelRange) : Prop :=
  match m.queryOption with
  | some n => ∃ value rest, stream.get tlvQueryOption = some value
      ∧ value.val = WireFormat.write (⟨n⟩ : BigSize) ++ rest
  | none => stream.get tlvQueryOption = none

theorem fields_increasing (m : QueryChannelRange) : FieldsIncreasing m.fields :=
  List.pairwise_singleton _ _

/-- The flags are accepted exactly where they are at the front of the value. -/
theorem queryOption_eq_ok (stream : TlvStream) (m : QueryChannelRange) :
    queryOptionFromStream stream = .ok m.queryOption ↔ Extracts stream m := by
  unfold queryOptionFromStream Extracts
  cases hget : stream.get tlvQueryOption with
  | none =>
      cases m.queryOption with
      | none => simp only
      | some n => simp only [Outcome.ok.injEq, reduceCtorEq, false_and, exists_false]
  | some value =>
      cases m.queryOption with
      | none =>
          simp only [Outcome.bind_eq_ok, Outcome.pure_eq_ok, Outcome.ok.injEq, reduceCtorEq,
            and_false, exists_false]
      | some n =>
          simp only [Outcome.bind_eq_ok, Prod.exists, Outcome.pure_eq_ok, Outcome.ok.injEq,
            Option.some.injEq]
          -- The reader takes the flags off the front and ignores the rest.
          constructor
          · intro h
            rcases h with ⟨flags, rest, hread, hn⟩
            refine ⟨value, rest, rfl, ?_⟩
            rw [← hn]
            exact eq_write_of_read hread
          · intro h
            rcases h with ⟨value', rest, hvalue, hval⟩
            rw [hvalue, hval]
            exact ⟨⟨n⟩, rest, read_write _ rest, rfl⟩

/-- Flags that fill their value are the field looked up. -/
theorem looksUp_of_exact (stream : TlvStream) (m : QueryChannelRange) (h : Extracts stream m)
    (hexact : ∀ value, stream.get tlvQueryOption = some value →
      ∃ n : BigSize, value.val = WireFormat.write n) :
    LooksUp stream m.fields := by
  unfold LooksUp fields
  simp only [List.forall_mem_cons, List.not_mem_nil, IsEmpty.forall_iff, implies_true, and_true]
  unfold Extracts at h
  cases hopt : m.queryOption with
  | none =>
      rw [hopt] at h
      exact h
  | some n =>
      rw [hopt] at h
      rcases h with ⟨value, rest, hget, hvalue⟩
      rcases hexact value hget with ⟨n', hn'⟩
      -- Both forms start the same bytes, so they are one number and nothing follows.
      have hpair := write_inj WireFormat.write (readAs BigSize) _ readsBack_bigSize n' ⟨n⟩ [] rest
        trivial trivial (by rw [List.append_nil, ← hn', hvalue])
      rw [hget, Option.map_some]
      congr 1
      ext1
      rw [hn', hpair.1]
      rfl

theorem encode_eq (m : QueryChannelRange) :
    m.encode = .ok (m.fixedPart ++ TlvStream.encode ⟨tlvRecords m.fields⟩) := by
  unfold encode
  simp only
  rw [TlvStream.addIfSome_one, Outcome.ok_bind]
  rfl

/-- A field that is looked up is at the front of its own value. -/
theorem extracts_of_looksUp (stream : TlvStream) (m : QueryChannelRange)
    (h : LooksUp stream m.fields) : Extracts stream m := by
  have hget := h (tlvQueryOption, _) List.mem_cons_self
  unfold Extracts
  cases hopt : m.queryOption with
  | none =>
      simp only [hopt, Option.map_none] at hget
      exact hget
  | some n =>
      simp only [hopt, Option.map_some] at hget
      exact ⟨bigSizeValue n, [], hget, (List.append_nil _).symm⟩

theorem extracts_own (m : QueryChannelRange) : Extracts ⟨tlvRecords m.fields⟩ m :=
  extracts_of_looksUp _ m (looksUp_own m.fields m.fields_increasing)

/-- Behind the fixed part, decoding is that of the stream. -/
theorem decode_front (m : QueryChannelRange) (data : Bytes) :
    decode (m.fixedPart ++ data)
      = (TlvStream.decodeWithKnown data [] >>= fun stream =>
          queryOptionFromStream stream >>= fun queryOption => .ok { m with queryOption }) := by
  unfold decode fixedPart
  simp only [List.append_assoc, read_write, Outcome.ok_bind]
  rfl

/-- What is decoded from the fixed part and a stream are the flags at the front
    of the value the stream has for them. -/
theorem decode_stream (m : QueryChannelRange) (s : TlvStream) (data : Bytes) (_ : m.Fits)
    (hs : TlvStream.decodeWithKnown data [] = .ok s) (hext : Extracts s m) :
    decode (m.fixedPart ++ data) = .ok m := by
  rw [decode_front m data, hs, Outcome.ok_bind, (queryOption_eq_ok s m).mpr hext]
  rfl

/-- A payload that decodes to a query is its fixed part followed by a stream
    with the flags at the front of the value for them. -/
theorem decode_eq_ok (payload : Bytes) (m : QueryChannelRange) (h : decode payload = .ok m) :
    ∃ s data, payload = m.fixedPart ++ data ∧ m.Fits
      ∧ TlvStream.decodeWithKnown data [] = .ok s ∧ Extracts s m := by
  unfold decode at h
  rcases read_bind_eq_ok h with ⟨_, c1, e1, h⟩
  rcases read_bind_eq_ok h with ⟨_, c2, e2, h⟩
  rcases read_bind_eq_ok h with ⟨_, c3, e3, h⟩
  rcases (Outcome.bind_eq_ok _ _ _).mp h with ⟨s, hs, h⟩
  rcases (Outcome.bind_eq_ok _ _ _).mp h with ⟨opt, hopt, hm⟩
  rw [← Outcome.ok.inj hm]
  refine ⟨s, c3, ?_, trivial, hs, (queryOption_eq_ok s _).mp hopt⟩
  unfold fixedPart
  rw [e1, e2, e3]
  simp only [List.append_assoc]

/-- The flags alone take no more bytes than the value they were read from. -/
theorem extracts_shrinks (m : QueryChannelRange) (s : TlvStream) (hs : s.Increasing)
    (h : Extracts s m) :
    (TlvStream.encode ⟨tlvRecords m.fields⟩).length ≤ s.encode.length := by
  unfold Extracts at h
  unfold fields
  cases hopt : m.queryOption with
  | none => exact Nat.zero_le _
  | some n =>
      rw [hopt] at h
      rcases h with ⟨value, rest, hget, hvalue⟩
      have hkept := looksUp_shrinks s hs [(tlvQueryOption, some value)]
        (List.pairwise_singleton _ _) (by
          intro f hf
          rw [List.mem_singleton.mp hf]
          exact hget)
      -- The rest of the value is what is lost.
      have hle : (bigSizeValue n).val.length ≤ value.val.length := by
        rw [hvalue, List.length_append]
        exact Nat.le_add_right _ _
      have hrec := TlvStream.record_encode_length_mono tlvQueryOption (bigSizeValue n) value hle
      have hone : ∀ v : ByteVec, TlvStream.encode ⟨tlvRecords [(tlvQueryOption, some v)]⟩
          = TlvRecord.encode ⟨tlvQueryOption, v⟩ := fun v => List.append_nil _
      rw [hone] at hkept
      rw [Option.map_some, hone]
      omega

theorem tlvCodec : TlvCodec encode decode fixedPart fields types [] Fits Extracts where
  types_eq _ := rfl
  increasing := List.pairwise_singleton _ _
  known := List.forall_mem_singleton.mpr (by decide)
  encode_eq := encode_eq
  extracts_own := extracts_own
  decode_stream := decode_stream
  decode_eq_ok := decode_eq_ok
  shrinks := extracts_shrinks

theorem settles_queryOption (stream : TlvStream) : (queryOptionFromStream stream).Settles := by
  unfold queryOptionFromStream
  cases stream.get tlvQueryOption with
  | none => exact Outcome.settles_ok _
  | some value => exact settles_read _ _ fun _ => Outcome.settles_ok _

theorem settles_decode (payload : Bytes) : (decode payload).Settles := by
  unfold decode
  iterate 3 refine settles_read _ _ fun _ => ?_
  refine Outcome.settles_bind _ _ (TlvStream.decodeWithKnown_settles _ _) fun s _ => ?_
  exact Outcome.settles_bind _ _ (settles_queryOption s) fun _ _ => Outcome.settles_ok _

end QueryChannelRange

namespace ReplyChannelRangeTlvs

/-- The types of the two fields. -/
def types : List UInt64 := [tlvTimestamps, tlvChecksums]

/-- The values of the two fields, with their types. -/
def fields (tlvs : ReplyChannelRangeTlvs) : List (UInt64 × Option ByteVec) :=
  [(tlvTimestamps, tlvs.timestamps), (tlvChecksums, tlvs.checksums)]

/-- Extracts the fields from a parsed TLV stream. -/
def fromStream (stream : TlvStream) : ReplyChannelRangeTlvs :=
  { timestamps := stream.get tlvTimestamps
    checksums := stream.get tlvChecksums }

theorem fields_increasing (tlvs : ReplyChannelRangeTlvs) : FieldsIncreasing tlvs.fields :=
  types_increasing tlvTimestamps tlvChecksums (by decide)

theorem fromStream_eq (stream : TlvStream) (tlvs : ReplyChannelRangeTlvs) :
    fromStream stream = tlvs ↔ LooksUp stream tlvs.fields := by
  cases tlvs with
  | mk timestamps checksums =>
      unfold fromStream LooksUp fields
      simp only [mk.injEq, List.forall_mem_cons, List.not_mem_nil, IsEmpty.forall_iff,
        implies_true, and_true]

end ReplyChannelRangeTlvs

namespace ReplyChannelRange

/-- The fields before the TLV stream. -/
def fixedPart (m : ReplyChannelRange) : Bytes :=
  WireFormat.write m.chainHash
    ++ WireFormat.write m.firstBlocknum
    ++ WireFormat.write m.numberOfBlocks
    ++ WireFormat.write m.syncComplete
    ++ WireFormat.write m.encodedShortIds

/-- Encodes to wire format (without message type prefix). -/
def encode (m : ReplyChannelRange) : Outcome BoltError Bytes := do
  let out := m.fixedPart
  let stream ← TlvStream.new.addIfSome tlvTimestamps m.tlvs.timestamps
  let stream ← stream.addIfSome tlvChecksums m.tlvs.checksums
  return out ++ stream.encode

/-- Decodes from wire format (without message type prefix). -/
def decode (payload : Bytes) : Outcome BoltError ReplyChannelRange := do
  let (chainHash, cursor) ← readAs (ByteArr chainHashSize) payload
  let (firstBlocknum, cursor) ← readAs UInt32 cursor
  let (numberOfBlocks, cursor) ← readAs UInt32 cursor
  let (syncComplete, cursor) ← readAs UInt8 cursor
  let (encodedShortIds, cursor) ← readAs Bytes cursor
  let stream ← TlvStream.decode cursor
  let tlvs := ReplyChannelRangeTlvs.fromStream stream
  return { chainHash, firstBlocknum, numberOfBlocks, syncComplete, encodedShortIds, tlvs }

/-- The encoded ids fit their length prefix. -/
def Fits (m : ReplyChannelRange) : Prop := FitsVec m.encodedShortIds

theorem encode_eq (m : ReplyChannelRange) :
    m.encode = .ok (m.fixedPart ++ TlvStream.encode ⟨tlvRecords m.tlvs.fields⟩) := by
  have hstream := TlvStream.addIfSome_two tlvTimestamps tlvChecksums m.tlvs.timestamps
    m.tlvs.checksums (by decide)
  unfold encode
  simp only
  rw [← bind_assoc, hstream]
  rfl

/-- Behind the fixed part, decoding is that of the stream. -/
theorem decode_front (m : ReplyChannelRange) (data : Bytes) (hfits : m.Fits) :
    decode (m.fixedPart ++ data)
      = (TlvStream.decodeWithKnown data [] >>= fun stream =>
          .ok { m with tlvs := ReplyChannelRangeTlvs.fromStream stream }) := by
  unfold decode fixedPart
  simp only [List.append_assoc, read_write, Outcome.ok_bind, read_write_vec _ _ hfits]
  rfl

/-- What is decoded from the fixed part and a stream are the values the stream
    has for the two types. -/
theorem decode_stream (m : ReplyChannelRange) (s : TlvStream) (data : Bytes) (hfits : m.Fits)
    (hs : TlvStream.decodeWithKnown data [] = .ok s) (hget : LooksUp s m.tlvs.fields) :
    decode (m.fixedPart ++ data) = .ok m := by
  rw [decode_front m data hfits, hs, Outcome.ok_bind,
    (ReplyChannelRangeTlvs.fromStream_eq s m.tlvs).mpr hget]

/-- A payload that decodes to a reply is its fixed part followed by a stream
    that has the fields' values for their types. -/
theorem decode_eq_ok (payload : Bytes) (m : ReplyChannelRange) (h : decode payload = .ok m) :
    ∃ s data, payload = m.fixedPart ++ data ∧ m.Fits
      ∧ TlvStream.decodeWithKnown data [] = .ok s ∧ LooksUp s m.tlvs.fields := by
  unfold decode at h
  rcases read_bind_eq_ok h with ⟨_, c1, e1, h⟩
  rcases read_bind_eq_ok h with ⟨_, c2, e2, h⟩
  rcases read_bind_eq_ok h with ⟨_, c3, e3, h⟩
  rcases read_bind_eq_ok h with ⟨_, c4, e4, h⟩
  rcases read_bind_vec_eq_ok h with ⟨_, c5, ⟨e5, f5⟩, h⟩
  rcases (Outcome.bind_eq_ok _ _ _).mp h with ⟨s, hs, hm⟩
  rw [← Outcome.ok.inj hm]
  refine ⟨s, c5, ?_, f5, hs, (ReplyChannelRangeTlvs.fromStream_eq s _).mp rfl⟩
  unfold fixedPart
  rw [e1, e2, e3, e4, e5]
  simp only [List.append_assoc]

theorem tlvCodec : TlvCodec encode decode fixedPart (fun m => m.tlvs.fields)
    ReplyChannelRangeTlvs.types [] Fits (fun s m => LooksUp s m.tlvs.fields) where
  types_eq _ := rfl
  increasing := types_increasing _ _ (by decide)
  known := List.forall_mem_cons.mpr ⟨by decide, List.forall_mem_singleton.mpr (by decide)⟩
  encode_eq := encode_eq
  extracts_own m := looksUp_own _ m.tlvs.fields_increasing
  decode_stream := decode_stream
  decode_eq_ok := decode_eq_ok
  shrinks m s hs hget := looksUp_shrinks s hs _ m.tlvs.fields_increasing hget

theorem settles_decode (payload : Bytes) : (decode payload).Settles := by
  unfold decode
  iterate 5 refine settles_read _ _ fun _ => ?_
  exact Outcome.settles_bind _ _ (TlvStream.decodeWithKnown_settles _ _)
    fun _ _ => Outcome.settles_ok _

end ReplyChannelRange

end Bolt

end LnGossipSim
