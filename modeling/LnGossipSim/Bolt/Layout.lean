import LnGossipSim.Bolt.Message

/-!
# Layout of a Message

A message on the wire is a front, made of its type and the fields of its fixed
part, followed by a TLV stream. A codec without a stream is all front. What
happens to the stream, whatever it holds, is then said once for the four codecs
that end in one: behind the front of a message, decoding is decoding the stream
and looking the named types up in it.

## Main definitions

* `Message.HasStream`, `Message.IsUnknown`: The kinds of messages.
* `Message.front`: The bytes before the TLV stream.
* `Message.tlvFields`, `Message.knownEven`: What a message names of a stream.
* `Message.records`: The records of its own stream.

## Theorems

* `Message.encode_layout`: An encoding is the front and the stream.
* `Message.arm_behind_front`: What one arm of the dispatch does with a stream.
* `Message.decode_behind_front`: Decoding behind the front of a message.
* `Message.decode_looksUp`, `Message.decode_streamError`: Its two outcomes.
-/

namespace LnGossipSim

namespace Bolt

namespace Message

variable {S : Secp256k1}

/-- The codec of the message ends in a TLV stream. -/
def HasStream : Message S → Prop
  | .init _ => True
  | .openChannel _ => True
  | .queryChannelRange _ => True
  | .replyChannelRange _ => True
  | _ => False

/-- No codec claims the type of the message. -/
def IsUnknown : Message S → Prop
  | .unknown _ _ => True
  | _ => False

/-- The bytes before the TLV stream, without the type: all there are when
    there is no stream. -/
def fixedBytes : Message S → Bytes
  | .init m => m.fixedPart
  | .openChannel m => m.fixedPart
  | .queryChannelRange m => m.fixedPart
  | .replyChannelRange m => m.fixedPart
  | m => m.bodyBytes

/-- The bytes before the TLV stream. -/
def front (m : Message S) : Bytes := WireFormat.write m.msgType ++ m.fixedBytes

/-- The values of the TLV fields, with their types. -/
def tlvFields : Message S → List (UInt64 × Option ByteVec)
  | .init m => m.tlvs.fields
  | .openChannel m => m.tlvs.fields
  | .queryChannelRange m => m.fields
  | .replyChannelRange m => m.tlvs.fields
  | _ => []

/-- The even types the codec of the message knows. -/
def knownEven : Message S → List UInt64
  | .openChannel _ => [tlvUpfrontShutdownScript]
  | _ => []

/-- The record types the message names. -/
def namedTypes (m : Message S) : List UInt64 := m.tlvFields.map Prod.fst

/-- The records of the message's own stream. -/
def records (m : Message S) : List TlvRecord := tlvRecords m.tlvFields

/-- An encoding is the front of the message followed by its stream. -/
theorem encode_layout (m : Message S) :
    m.encode = .ok (m.front ++ TlvStream.encode ⟨m.records⟩) := by
  rw [encode_eq, front, List.append_assoc]
  cases m with
  | init m => rfl
  | openChannel m => rfl
  | queryChannelRange m => rfl
  | replyChannelRange m => rfl
  | _ => exact congrArg (fun b => Outcome.ok (_ ++ b)) (List.append_nil _).symm

theorem tlvFields_increasing (m : Message S) : FieldsIncreasing m.tlvFields := by
  cases m with
  | init m => exact m.tlvs.fields_increasing
  | openChannel m => exact m.tlvs.fields_increasing
  | queryChannelRange m => exact m.fields_increasing
  | replyChannelRange m => exact m.tlvs.fields_increasing
  | _ => exact List.Pairwise.nil

/-- A message names no even type its codec does not know. -/
theorem known_of_named (m : Message S) : ∀ t ∈ m.namedTypes, t % 2 = 0 → t ∈ m.knownEven := by
  cases m with
  | init m => exact Init.tlvCodec.known
  | openChannel m => exact (OpenChannel.tlvEncoder S).known
  | queryChannelRange m => exact QueryChannelRange.tlvCodec.known
  | replyChannelRange m => exact ReplyChannelRange.tlvCodec.known
  | _ => exact fun t ht => absurd ht List.not_mem_nil

/-- The codec of a message knows no even type the message does not name. -/
theorem named_of_known (m : Message S) : ∀ t ∈ m.knownEven, t ∈ m.namedTypes := by
  cases m with
  | openChannel m => exact fun t ht => List.mem_cons.mpr (Or.inl (List.mem_singleton.mp ht))
  | _ => exact fun t ht => absurd ht List.not_mem_nil

theorem records_increasing (m : Message S) : TlvStream.Increasing ⟨m.records⟩ :=
  tlvRecords_increasing m.tlvFields m.tlvFields_increasing

/-- A record of the message has a type the message names. -/
theorem named_of_mem_records (m : Message S) (r : TlvRecord) (hr : r ∈ m.records) :
    r.tlvType ∈ m.namedTypes :=
  List.mem_map.mpr ⟨_, (mem_tlvRecords m.tlvFields r).mp hr, rfl⟩

theorem records_admitted (m : Message S) : Admitted m.knownEven none m.records :=
  tlvRecords_admitted m.knownEven m.tlvFields m.tlvFields_increasing m.known_of_named

theorem decode_write (t : UInt16) (body : Bytes) :
    (decode (WireFormat.write t ++ body) : Outcome BoltError (Message S)) = decodeBody t body := by
  rw [decode, read_write, Outcome.ok_bind]

/-- A codec that decodes a stream behind its fixed part does so as one arm of
    the dispatch. -/
theorem arm_behind_front {α : Type} (t : UInt16) (wrap : α → Message S)
    (decodeArm : Bytes → Outcome BoltError α) (fixedPart : Bytes) (known : List UInt64)
    (fields : List (UInt64 × Option ByteVec)) (finish : TlvStream → Outcome BoltError α) (m : α)
    (harm : ∀ body, decodeBody t body = decodeArm body >>= fun a => .ok (wrap a))
    (hfront : ∀ data, decodeArm (fixedPart ++ data)
      = TlvStream.decodeWithKnown data known >>= finish)
    (hfinish : ∀ s, LooksUp s fields → finish s = .ok m) :
    ∃ finish : TlvStream → Outcome BoltError (Message S),
      (∀ data, decode (WireFormat.write t ++ fixedPart ++ data)
          = TlvStream.decodeWithKnown data known >>= finish)
        ∧ ∀ s, LooksUp s fields → finish s = .ok (wrap m) := by
  refine ⟨fun s => finish s >>= fun a => .ok (wrap a), ?_, ?_⟩
  · intro data
    rw [List.append_assoc, decode_write, harm, hfront, bind_assoc]
  · intro s hget
    simp only [hfinish s hget, Outcome.ok_bind]

/-- Behind the front of a message that ends in a stream, decoding is decoding
    the stream, and what then finishes returns the message when the stream has
    the values of its fields. -/
theorem decode_behind_front (hS : S.ParsesSerialized) (m : Message S) (h : m.LengthsFit)
    (hstream : m.HasStream) :
    ∃ finish : TlvStream → Outcome BoltError (Message S),
      (∀ data, decode (m.front ++ data) = TlvStream.decodeWithKnown data m.knownEven >>= finish)
        ∧ ∀ s, LooksUp s m.tlvFields → finish s = .ok m := by
  have hfits := fits_of_lengthsFit hS m h
  -- Four codecs end in a stream, the others contradict the hypothesis.
  cases m with
  | init m =>
      refine arm_behind_front MsgType.init .init Init.decode m.fixedPart _ _ _ m (fun _ => rfl)
        (fun data => Init.decode_front m data hfits) ?_
      intro s hget
      rw [(InitTlvs.fromStream_eq_ok s m.tlvs).mpr hget, Outcome.ok_bind]
  | openChannel m =>
      refine arm_behind_front MsgType.openChannel .openChannel OpenChannel.decode m.fixedPart _ _ _
        m (fun _ => rfl) (fun data => OpenChannel.decode_front m data hfits) ?_
      intro s hget
      rw [(OpenChannelTlvs.fromStream_eq s m.tlvs).mpr hget]
  | queryChannelRange m =>
      refine arm_behind_front MsgType.queryChannelRange .queryChannelRange QueryChannelRange.decode
        m.fixedPart _ _ _ m (fun _ => rfl) (fun data => QueryChannelRange.decode_front m data) ?_
      intro s hget
      have hext := QueryChannelRange.extracts_of_looksUp s m hget
      rw [(QueryChannelRange.queryOption_eq_ok s m).mpr hext, Outcome.ok_bind]
  | replyChannelRange m =>
      refine arm_behind_front MsgType.replyChannelRange .replyChannelRange ReplyChannelRange.decode
        m.fixedPart _ _ _ m (fun _ => rfl)
        (fun data => ReplyChannelRange.decode_front m data hfits) ?_
      intro s hget
      rw [(ReplyChannelRangeTlvs.fromStream_eq s m.tlvs).mpr hget]
  | _ => exact absurd hstream id

/-- A stream that has the values of the fields is decoded to the message. -/
theorem decode_looksUp (hS : S.ParsesSerialized) (m : Message S) (h : m.LengthsFit)
    (hstream : m.HasStream) (s : TlvStream) (data : Bytes)
    (hs : TlvStream.decodeWithKnown data m.knownEven = .ok s) (hget : LooksUp s m.tlvFields) :
    decode (m.front ++ data) = .ok m := by
  rcases decode_behind_front hS m h hstream with ⟨finish, hdecode, hfinish⟩
  rw [hdecode data, hs, Outcome.ok_bind, hfinish s hget]

/-- An error in the stream is that of the message. -/
theorem decode_streamError (hS : S.ParsesSerialized) (m : Message S) (h : m.LengthsFit)
    (hstream : m.HasStream) (data : Bytes) (e : BoltError)
    (hs : TlvStream.decodeWithKnown data m.knownEven = .err e) :
    (decode (m.front ++ data) : Outcome BoltError (Message S)) = .err e := by
  rcases decode_behind_front hS m h hstream with ⟨finish, hdecode, -⟩
  rw [hdecode data, hs, Outcome.err_bind]

end Message

end Bolt

end LnGossipSim
