import LnGossipSim.Bolt.Message

/-!
# Canonical Messages

Decoding a message and encoding the result again drops what the message has no
field for, and nothing else: the bytes after the last field of a codec without
a TLV stream, and the records a codec with one does not name. The result is
never longer than the input, has its type, and decodes to the same message.

This is what the daemon relies on when it relays a message a caller supplied.
It forwards the encoding of what it decoded, not the bytes it was given.

## Main definitions

* `KeepsNamed`: Of a fixed part and a stream, only named records are kept.
* `Message.KeptFrom`: What an encoding keeps of the input.
* `sendMessageWire`: What the daemon forwards for a supplied message.

## Theorems

* `TlvCodec.keepsNamed`: A codec with a stream keeps the named records.
* `Message.bodyKept`: What each codec keeps of a body it accepts.
* `Message.reencode`: What decoding and encoding again does to an input.
* `Message.decode_canonical`: Decoding is a canonicalisation.
-/

namespace LnGossipSim

namespace Bolt

open BigEndian Codec

/-- The input is two type bytes, a fixed part and a TLV stream, and the output
    is the same with the records of the named types only. The last is said of
    streams that satisfy `Exact`. -/
def KeepsNamed (fixedPart : Bytes) (types knownEven : List UInt64) (Exact : TlvStream → Prop)
    (b out : Bytes) : Prop :=
  ∃ tail s, b = b.take 2 ++ fixedPart ++ tail ∧ TlvStream.decodeWithKnown tail knownEven = .ok s
    ∧ (Exact s → out = b.take 2 ++ fixedPart
        ++ TlvStream.encode ⟨s.records.filter (fun r => decide (r.tlvType ∈ types))⟩)

/-- The value for the flags, when there is one, is exactly one `BigSize`. -/
def QueryOptionExact (s : TlvStream) : Prop :=
  ∀ value, s.get tlvQueryOption = some value → ∃ n : BigSize, value.val = WireFormat.write n

/-- What the encoding `out` of a message keeps of the input `b` it was decoded
    from. -/
def Message.KeptFrom {S : Secp256k1} (b out : Bytes) : Message S → Prop
  | .init m => KeepsNamed m.fixedPart InitTlvs.types [] (fun _ => True) b out
  | .openChannel m =>
    KeepsNamed m.fixedPart OpenChannelTlvs.types [tlvUpfrontShutdownScript] (fun _ => True) b out
  | .queryChannelRange m =>
    KeepsNamed m.fixedPart QueryChannelRange.types [] QueryOptionExact b out
  | .replyChannelRange m =>
    KeepsNamed m.fixedPart ReplyChannelRangeTlvs.types [] (fun _ => True) b out
  | .unknown _ _ => out = b
  | _ => out <+: b

/-- Why a supplied message is not forwarded. -/
inductive SendMessageError where
  | unknownMessageType (msgType : UInt16)
  | decodeFailed (e : BoltError)
  deriving DecidableEq

/-- What the daemon forwards to a peer for a caller-supplied message. Unknown
    types are refused, the odd ones that decode included. -/
def sendMessageWire (S : Secp256k1) (bytes : Bytes) : Outcome SendMessageError Bytes :=
  match (Message.decode bytes : Outcome BoltError (Message S)) with
  | .ok (.unknown t _) => .err (.unknownMessageType t)
  | .err (.unknownEvenType t) => .err (.unknownMessageType t)
  | .ok m => m.encode.mapErr .decodeFailed
  | .err e => .err (.decodeFailed e)
  | .panicked => .panicked
  | .diverged => .diverged

/-- The body of a message: a fixed part and a stream of which the named records
    are kept. -/
def BodyKeepsNamed (fixedPart : Bytes) (types knownEven : List UInt64)
    (Exact : TlvStream → Prop) (body out : Bytes) : Prop :=
  ∃ tail s, body = fixedPart ++ tail ∧ TlvStream.decodeWithKnown tail knownEven = .ok s
    ∧ (Exact s → out = fixedPart
        ++ TlvStream.encode ⟨s.records.filter (fun r => decide (r.tlvType ∈ types))⟩)

section

variable {α : Type} {encode : α → Outcome BoltError Bytes} {decode : Bytes → Outcome BoltError α}
variable {fixedPart : α → Bytes} {fields : α → List (UInt64 × Option ByteVec)}
variable {types knownEven : List UInt64} {Fits : α → Prop} {Extracts : TlvStream → α → Prop}

/-- A codec with a stream keeps the records of the named types, when what it
    extracts from them is the whole of their values. -/
theorem TlvCodec.keepsNamed
    (codec : TlvCodec encode decode fixedPart fields types knownEven Fits Extracts)
    (Exact : TlvStream → Prop) (hexact : ∀ s m, Extracts s m → Exact s → LooksUp s (fields m))
    (payload : Bytes) (m : α) (h : decode payload = .ok m) :
    BodyKeepsNamed (fixedPart m) types knownEven Exact payload
      (fixedPart m ++ TlvStream.encode ⟨tlvRecords (fields m)⟩) := by
  rcases codec.canonical payload m h with ⟨s, hpayload, hadm, hext, -, -⟩
  refine ⟨s.encode, s, hpayload, ?_, ?_⟩
  · rw [TlvStream.decodeWithKnown_eq_ok]
    exact ⟨rfl, hadm⟩
  · intro hs
    have hinc : s.Increasing := ((admitted_iff knownEven s.records).mp hadm).1
    have hfilter := filter_eq_tlvRecords s hinc (fields m) (codec.fieldsIncreasing m)
      (hexact s m hext hs)
    rw [codec.types_eq m] at hfilter
    rw [hfilter]

end

namespace Message

variable {S : Secp256k1}

/-- What the encoding of a message keeps of a body it was decoded from. -/
def BodyKept (body : Bytes) (m : Message S) : Prop :=
  match m with
  | .init i => BodyKeepsNamed i.fixedPart InitTlvs.types [] (fun _ => True) body m.bodyBytes
  | .openChannel o =>
    BodyKeepsNamed o.fixedPart OpenChannelTlvs.types [tlvUpfrontShutdownScript] (fun _ => True)
      body m.bodyBytes
  | .queryChannelRange q =>
    BodyKeepsNamed q.fixedPart QueryChannelRange.types [] QueryOptionExact body m.bodyBytes
  | .replyChannelRange r =>
    BodyKeepsNamed r.fixedPart ReplyChannelRangeTlvs.types [] (fun _ => True) body m.bodyBytes
  | .unknown _ _ => m.bodyBytes = body
  | _ => m.bodyBytes <+: body

theorem kept_of_acceptsOnly {α : Type} {encode : α → Bytes}
    {decode : Bytes → Outcome BoltError α} {Fits : α → Prop}
    (h : AcceptsOnly encode decode Fits) (body : Bytes) (m : α) (hm : decode body = .ok m) :
    Fits m ∧ (encode m).length ≤ body.length ∧ encode m <+: body := by
  rcases h body m hm with ⟨rest, hbody, hfits⟩
  have hpre : encode m <+: body := ⟨rest, hbody.symm⟩
  exact ⟨hfits, hpre.length_le, hpre⟩

/-- What each codec keeps of a body it accepts. The result fits, and takes no
    more bytes than the body did. -/
theorem bodyKept (hS : S.SerializesParsed) (m : Message S) (body : Bytes)
    (h : m.AcceptsBody body) :
    m.Fits ∧ m.bodyBytes.length ≤ body.length ∧ m.BodyKept body := by
  -- A codec without a stream keeps a prefix, one with a stream its named records.
  cases m with
  | warning m => exact kept_of_acceptsOnly ChannelNotice.acceptsOnly body m h
  | init m =>
      rcases Init.tlvCodec.canonical body m h with ⟨s, -, -, -, hfits, hlen⟩
      exact ⟨hfits, hlen, Init.tlvCodec.keepsNamed _ (fun _ _ hext _ => hext) body m h⟩
  | error m => exact kept_of_acceptsOnly ChannelNotice.acceptsOnly body m h
  | ping m => exact kept_of_acceptsOnly Ping.acceptsOnly body m h
  | pong m => exact kept_of_acceptsOnly Pong.acceptsOnly body m h
  | openChannel m =>
      rcases (OpenChannel.tlvCodec hS).canonical body m h with ⟨s, -, -, -, hfits, hlen⟩
      exact ⟨hfits, hlen,
        (OpenChannel.tlvCodec hS).keepsNamed _ (fun _ _ hext _ => hext) body m h⟩
  | fundingCreated m => exact kept_of_acceptsOnly (FundingCreated.acceptsOnly hS) body m h
  | channelAnnouncement m =>
      exact kept_of_acceptsOnly (ChannelAnnouncement.acceptsOnly hS) body m h
  | nodeAnnouncement m => exact kept_of_acceptsOnly (NodeAnnouncement.acceptsOnly hS) body m h
  | channelUpdate m => exact kept_of_acceptsOnly (ChannelUpdate.acceptsOnly hS) body m h
  | queryChannelRange m =>
      rcases QueryChannelRange.tlvCodec.canonical body m h with ⟨s, -, -, -, hfits, hlen⟩
      exact ⟨hfits, hlen, QueryChannelRange.tlvCodec.keepsNamed QueryOptionExact
        (fun s m hext hs => QueryChannelRange.looksUp_of_exact s m hext hs) body m h⟩
  | replyChannelRange m =>
      rcases ReplyChannelRange.tlvCodec.canonical body m h with ⟨s, -, -, -, hfits, hlen⟩
      exact ⟨hfits, hlen,
        ReplyChannelRange.tlvCodec.keepsNamed _ (fun _ _ hext _ => hext) body m h⟩
  | unknown t payload =>
      rcases h with ⟨hclaimed, hodd, hpayload⟩
      refine ⟨⟨hclaimed, hodd⟩, ?_, hpayload⟩
      exact Nat.le_of_eq (congrArg List.length hpayload)

/-- The same with the message type in front. -/
theorem keptFrom_of_bodyKept (m : Message S) (head body : Bytes) (hhead : head.length = 2)
    (h : m.BodyKept body) : m.KeptFrom (head ++ body) (head ++ m.bodyBytes) := by
  -- The type takes the first two bytes on both sides.
  have htake : (head ++ body).take 2 = head := List.take_left' hhead
  have hnamed : ∀ (fixedPart : Bytes) (types knownEven : List UInt64)
      (Exact : TlvStream → Prop), BodyKeepsNamed fixedPart types knownEven Exact body m.bodyBytes →
      KeepsNamed fixedPart types knownEven Exact (head ++ body) (head ++ m.bodyBytes) := by
    intro fixedPart types knownEven Exact hbody
    rcases hbody with ⟨tail, s, hbody, hs, hexact⟩
    refine ⟨tail, s, ?_, hs, ?_⟩
    · rw [htake, List.append_assoc, ← hbody]
    · intro hex
      rw [htake, List.append_assoc, ← hexact hex]
  cases m with
  | init m => exact hnamed _ _ _ _ h
  | openChannel m => exact hnamed _ _ _ _ h
  | queryChannelRange m => exact hnamed _ _ _ _ h
  | replyChannelRange m => exact hnamed _ _ _ _ h
  | unknown t payload => exact congrArg (head ++ ·) h
  | _ => exact List.prefix_append_right_inj head |>.mpr h

/-- The type of a message is the number its first two bytes denote. -/
theorem beNat_write_msgType (t : UInt16) : beNat (WireFormat.write t) = t.toNat :=
  beNat_beBytes 2 t.toNat t.toNat_lt

/-- What decoding and encoding again does to an accepted input. -/
theorem reencode (hS : S.SerializesParsed) (b : Bytes) (m : Message S) (h : decode b = .ok m) :
    2 ≤ b.length ∧ m.msgType.toNat = beNat (b.take 2)
      ∧ ∃ out, m.encode = .ok out ∧ out.take 2 = b.take 2 ∧ out.length ≤ b.length
        ∧ decode out = .ok m ∧ m.KeptFrom b out := by
  rcases (decode_eq_ok b m).mp h with ⟨body, hb, hbody⟩
  rcases bodyKept hS m body hbody with ⟨hfits, hlen, hkept⟩
  have hhead : (WireFormat.write m.msgType).length = 2 := writeInt_length 2 _ _
  have htake : ∀ rest : Bytes, (WireFormat.write m.msgType ++ rest).take 2
      = WireFormat.write m.msgType := fun rest => List.take_left' hhead
  refine ⟨?_, ?_, _, encode_eq m, ?_, ?_, ?_, ?_⟩
  · rw [hb, List.length_append]
    omega
  · rw [hb, htake, beNat_write_msgType]
  · rw [hb, htake, htake]
  · rw [hb, List.length_append, List.length_append]
    omega
  -- What was accepted fits, so its encoding is accepted again.
  · rw [decode_eq_ok]
    exact ⟨m.bodyBytes, rfl, acceptsBody_own m hfits⟩
  · rw [hb]
    exact keptFrom_of_bodyKept m _ body hhead hkept

/-- What is forwarded is the encoding of what was decoded. -/
theorem sendMessageWire_eq_ok (b wire : Bytes) (h : sendMessageWire S b = .ok wire) :
    ∃ m : Message S, decode b = .ok m ∧ m.encode = .ok wire := by
  unfold sendMessageWire at h
  cases hdec : (decode b : Outcome BoltError (Message S)) with
  | ok m =>
      rw [hdec] at h
      refine ⟨m, rfl, ?_⟩
      -- An unknown message is refused instead of forwarded.
      cases m with
      | unknown t payload => simp only [reduceCtorEq] at h
      | _ => exact (Outcome.mapErr_eq_ok _ _ _).mp h
  | err e =>
      rw [hdec] at h
      cases e <;> simp only [reduceCtorEq] at h
  | panicked =>
      rw [hdec] at h
      simp only [reduceCtorEq] at h
  | diverged =>
      rw [hdec] at h
      simp only [reduceCtorEq] at h

/-- Decoding is a canonicalisation that drops only extension data, and what the
    daemon forwards has the type and the meaning of what it was given. -/
theorem decode_canonical (hS : S.SerializesParsed) (b : Bytes) :
    (∀ m : Message S, decode b = .ok m →
      2 ≤ b.length ∧ m.msgType.toNat = beNat (b.take 2)
        ∧ ∃ out, m.encode = .ok out ∧ out.take 2 = b.take 2 ∧ out.length ≤ b.length
          ∧ decode out = .ok m ∧ m.KeptFrom b out)
    ∧ (∀ wire, sendMessageWire S b = .ok wire →
        wire.take 2 = b.take 2
        ∧ (∃ m : Message S, decode b = .ok m ∧ decode wire = .ok m)
        ∧ (b.length ≤ maxMessageSize → wire.length ≤ maxMessageSize)) := by
  refine ⟨fun m h => reencode hS b m h, ?_⟩
  intro wire hwire
  rcases sendMessageWire_eq_ok b wire hwire with ⟨m, hm, hout⟩
  rcases reencode hS b m hm with ⟨-, -, out, hout', htake, hlen, hdec, -⟩
  have hsame : wire = out := by
    rw [hout, Outcome.ok.injEq] at hout'
    exact hout'
  rw [hsame]
  exact ⟨htake, ⟨m, hm, hdec⟩, fun hmax => Nat.le_trans hlen hmax⟩

/-- A pong with a trailing byte: the encoding drops it. -/
theorem decode_canonical_pong :
    ∃ out, (Message.pong ⟨[]⟩ : Message Secp256k1.transparent).encode = .ok out
      ∧ out.take 2 = [0, 19] ∧ out.length ≤ 5
      ∧ decode out = .ok (Message.pong ⟨[]⟩ : Message Secp256k1.transparent)
      ∧ out <+: [0, 19, 0, 0, 0xff] :=
  ((decode_canonical Secp256k1.transparent_serializesParsed [0, 19, 0, 0, 0xff]).1
    (Message.pong ⟨[]⟩) rfl).2.2

end Message

end Bolt

end LnGossipSim
