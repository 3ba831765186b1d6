import LnGossipSim.Bolt.Control
import LnGossipSim.Bolt.Channel
import LnGossipSim.Bolt.Gossip
import LnGossipSim.Bolt.RangeQuery

/-!
# BOLT Messages

The message type, which puts a two-byte type number in front of the codecs of
the individual messages. An odd type no codec claims is kept as it is; an even
one is an error.

`decodeBody` is the dispatch on the type number. `decodeBody_eq_ok` inverts it
once: a body is accepted as a message exactly when the type number is that of
the message and its own codec accepts the body. Every result about decoding is
then a case analysis over messages, not over type numbers.

## Main definitions

* `MsgType`: BOLT message type constants.
* `Message`: A decoded BOLT message.
* `Message.msgType`, `Message.encode`, `Message.decode`: Its wire format.
* `Message.AcceptsBody`: The message's own codec accepts a body.
* `Message.Fits`: Every part of the message fits its format.
* `Message.LengthsFit`: The byte fields fit their length prefixes.

## Theorems

* `Message.decodeBody_eq_ok`: Inversion of the dispatch.
* `Message.settles_decode`: Decoding never panics, whatever the input.
* `Message.encode_eq`: Encoding never panics, and what it produces.
* `Message.decode_encode`: Decoding undoes encoding.
-/

namespace LnGossipSim

namespace Bolt

open Codec

namespace MsgType

def warning : UInt16 := 1
def init : UInt16 := 16
def error : UInt16 := 17
def ping : UInt16 := 18
def pong : UInt16 := 19
def openChannel : UInt16 := 32
def fundingCreated : UInt16 := 34
def channelAnnouncement : UInt16 := 256
def nodeAnnouncement : UInt16 := 257
def channelUpdate : UInt16 := 258
def queryChannelRange : UInt16 := 263
def replyChannelRange : UInt16 := 264

/-- The types a codec claims. -/
def claimed : List UInt16 :=
  [warning, init, error, ping, pong, openChannel, fundingCreated, channelAnnouncement,
    nodeAnnouncement, channelUpdate, queryChannelRange, replyChannelRange]

end MsgType

/-- A decoded BOLT message. -/
inductive Message (S : Secp256k1) where
  | warning (m : Warning)
  | init (m : Init)
  | error (m : Error)
  | ping (m : Ping)
  | pong (m : Pong)
  | openChannel (m : OpenChannel S)
  | fundingCreated (m : FundingCreated S)
  | channelAnnouncement (m : ChannelAnnouncement S)
  | nodeAnnouncement (m : NodeAnnouncement S)
  | channelUpdate (m : ChannelUpdate S)
  | queryChannelRange (m : QueryChannelRange)
  | replyChannelRange (m : ReplyChannelRange)
  | unknown (msgType : UInt16) (payload : Bytes)

namespace Message

variable {S : Secp256k1}

/-- Returns the message type number. -/
def msgType : Message S → UInt16
  | .warning _ => MsgType.warning
  | .init _ => MsgType.init
  | .error _ => MsgType.error
  | .ping _ => MsgType.ping
  | .pong _ => MsgType.pong
  | .openChannel _ => MsgType.openChannel
  | .fundingCreated _ => MsgType.fundingCreated
  | .channelAnnouncement _ => MsgType.channelAnnouncement
  | .nodeAnnouncement _ => MsgType.nodeAnnouncement
  | .channelUpdate _ => MsgType.channelUpdate
  | .queryChannelRange _ => MsgType.queryChannelRange
  | .replyChannelRange _ => MsgType.replyChannelRange
  | .unknown t _ => t

/-- Encodes the message without its type. -/
def encodeBody : Message S → Outcome BoltError Bytes
  | .warning m => .ok m.encode
  | .init m => m.encode
  | .error m => .ok m.encode
  | .ping m => .ok m.encode
  | .pong m => .ok m.encode
  | .openChannel m => m.encode
  | .fundingCreated m => .ok m.encode
  | .channelAnnouncement m => .ok m.encode
  | .nodeAnnouncement m => .ok m.encode
  | .channelUpdate m => .ok m.encode
  | .queryChannelRange m => m.encode
  | .replyChannelRange m => m.encode
  | .unknown _ payload => .ok payload

/-- Encodes to wire format (with 2-byte message type prefix). -/
def encode (m : Message S) : Outcome BoltError Bytes := do
  let out := WireFormat.write m.msgType
  let body ← m.encodeBody
  return out ++ body

/-- Decodes what follows the message type. -/
def decodeBody (t : UInt16) (cursor : Bytes) : Outcome BoltError (Message S) :=
  if t = MsgType.warning then do return .warning (← Warning.decode cursor)
  else if t = MsgType.init then do return .init (← Init.decode cursor)
  else if t = MsgType.error then do return .error (← Error.decode cursor)
  else if t = MsgType.ping then do return .ping (← Ping.decode cursor)
  else if t = MsgType.pong then do return .pong (← Pong.decode cursor)
  else if t = MsgType.openChannel then do return .openChannel (← OpenChannel.decode cursor)
  else if t = MsgType.fundingCreated then do
    return .fundingCreated (← FundingCreated.decode cursor)
  else if t = MsgType.channelAnnouncement then do
    return .channelAnnouncement (← ChannelAnnouncement.decode cursor)
  else if t = MsgType.nodeAnnouncement then do
    return .nodeAnnouncement (← NodeAnnouncement.decode cursor)
  else if t = MsgType.channelUpdate then do return .channelUpdate (← ChannelUpdate.decode cursor)
  else if t = MsgType.queryChannelRange then do
    return .queryChannelRange (← QueryChannelRange.decode cursor)
  else if t = MsgType.replyChannelRange then do
    return .replyChannelRange (← ReplyChannelRange.decode cursor)
  else if t % 2 = 0 then .err (.unknownEvenType t)
  else .ok (.unknown t cursor)

/-- Decodes from wire format (with 2-byte message type prefix). -/
def decode (data : Bytes) : Outcome BoltError (Message S) := do
  let (t, cursor) ← readAs UInt16 data
  decodeBody t cursor

/-- The codec of the message accepts this body as it. -/
def AcceptsBody (cursor : Bytes) : Message S → Prop
  | .warning m => Warning.decode cursor = .ok m
  | .init m => Init.decode cursor = .ok m
  | .error m => Error.decode cursor = .ok m
  | .ping m => Ping.decode cursor = .ok m
  | .pong m => Pong.decode cursor = .ok m
  | .openChannel m => OpenChannel.decode cursor = .ok m
  | .fundingCreated m => FundingCreated.decode cursor = .ok m
  | .channelAnnouncement m => ChannelAnnouncement.decode cursor = .ok m
  | .nodeAnnouncement m => NodeAnnouncement.decode cursor = .ok m
  | .channelUpdate m => ChannelUpdate.decode cursor = .ok m
  | .queryChannelRange m => QueryChannelRange.decode cursor = .ok m
  | .replyChannelRange m => ReplyChannelRange.decode cursor = .ok m
  | .unknown t payload => t ∉ MsgType.claimed ∧ t % 2 ≠ 0 ∧ payload = cursor

/-- Every part of the message fits its format, and an unknown message has an
    odd type that no codec claims. -/
def Fits : Message S → Prop
  | .warning m => m.Fits
  | .init m => m.Fits
  | .error m => m.Fits
  | .ping m => m.Fits
  | .pong m => m.Fits
  | .openChannel m => m.Fits
  | .fundingCreated m => m.Fits
  | .channelAnnouncement m => m.Fits
  | .nodeAnnouncement m => m.Fits
  | .channelUpdate m => m.Fits
  | .queryChannelRange m => m.Fits
  | .replyChannelRange m => m.Fits
  | .unknown t _ => t ∉ MsgType.claimed ∧ t % 2 ≠ 0

/-- The length-prefixed byte fields are at most 65535 bytes long, and an
    unknown message has an odd type that no codec claims. -/
def LengthsFit : Message S → Prop
  | .warning m => FitsVec m.data
  | .init m => FitsVec m.globalfeatures ∧ FitsVec m.features
  | .error m => FitsVec m.data
  | .ping m => FitsVec m.ignored
  | .pong m => FitsVec m.ignored
  | .openChannel _ => True
  | .fundingCreated _ => True
  | .channelAnnouncement m => FitsVec m.features
  | .nodeAnnouncement m => FitsVec m.features ∧ FitsVec m.addresses
  | .channelUpdate _ => True
  | .queryChannelRange _ => True
  | .replyChannelRange m => FitsVec m.encodedShortIds
  | .unknown t _ => t ∉ MsgType.claimed ∧ t % 2 ≠ 0

theorem map_eq_ok {α β : Type} (f : α → β) (x : Outcome BoltError α) (b : β) :
    (do return f (← x) : Outcome BoltError β) = .ok b ↔ ∃ a, x = .ok a ∧ f a = b := by
  simp only [Outcome.bind_eq_ok, Outcome.pure_eq_ok, Outcome.ok.injEq]

/-- One arm of the dispatch: what its codec returns, it returns as a message of
    its kind. -/
theorem arm_eq_ok {α : Type} (t u : UInt16) (cursor : Bytes) (wrap : α → Message S)
    (x : Outcome BoltError α) (m : Message S) (ht : t = u)
    (hwrap : ∀ a, (wrap a).msgType = u ∧ (x = .ok a → (wrap a).AcceptsBody cursor))
    (h : (do return wrap (← x) : Outcome BoltError (Message S)) = .ok m) :
    m.msgType = t ∧ m.AcceptsBody cursor := by
  rcases (map_eq_ok wrap x m).mp h with ⟨a, hx, hm⟩
  rw [← hm, ht]
  exact ⟨(hwrap a).1, (hwrap a).2 hx⟩

/-- What the dispatch returns has the type it dispatched on, and its codec
    accepts the body. -/
theorem acceptsBody_of_decodeBody (t : UInt16) (cursor : Bytes) (m : Message S)
    (h : decodeBody t cursor = .ok m) : m.msgType = t ∧ m.AcceptsBody cursor := by
  unfold decodeBody at h
  by_cases h1 : t = MsgType.warning
  · rw [if_pos h1] at h
    exact arm_eq_ok t _ cursor Message.warning _ m h1 (fun _ => ⟨rfl, id⟩) h
  rw [if_neg h1] at h
  by_cases h2 : t = MsgType.init
  · rw [if_pos h2] at h
    exact arm_eq_ok t _ cursor Message.init _ m h2 (fun _ => ⟨rfl, id⟩) h
  rw [if_neg h2] at h
  by_cases h3 : t = MsgType.error
  · rw [if_pos h3] at h
    exact arm_eq_ok t _ cursor Message.error _ m h3 (fun _ => ⟨rfl, id⟩) h
  rw [if_neg h3] at h
  by_cases h4 : t = MsgType.ping
  · rw [if_pos h4] at h
    exact arm_eq_ok t _ cursor Message.ping _ m h4 (fun _ => ⟨rfl, id⟩) h
  rw [if_neg h4] at h
  by_cases h5 : t = MsgType.pong
  · rw [if_pos h5] at h
    exact arm_eq_ok t _ cursor Message.pong _ m h5 (fun _ => ⟨rfl, id⟩) h
  rw [if_neg h5] at h
  by_cases h6 : t = MsgType.openChannel
  · rw [if_pos h6] at h
    exact arm_eq_ok t _ cursor Message.openChannel _ m h6 (fun _ => ⟨rfl, id⟩) h
  rw [if_neg h6] at h
  by_cases h7 : t = MsgType.fundingCreated
  · rw [if_pos h7] at h
    exact arm_eq_ok t _ cursor Message.fundingCreated _ m h7 (fun _ => ⟨rfl, id⟩) h
  rw [if_neg h7] at h
  by_cases h8 : t = MsgType.channelAnnouncement
  · rw [if_pos h8] at h
    exact arm_eq_ok t _ cursor Message.channelAnnouncement _ m h8 (fun _ => ⟨rfl, id⟩) h
  rw [if_neg h8] at h
  by_cases h9 : t = MsgType.nodeAnnouncement
  · rw [if_pos h9] at h
    exact arm_eq_ok t _ cursor Message.nodeAnnouncement _ m h9 (fun _ => ⟨rfl, id⟩) h
  rw [if_neg h9] at h
  by_cases h10 : t = MsgType.channelUpdate
  · rw [if_pos h10] at h
    exact arm_eq_ok t _ cursor Message.channelUpdate _ m h10 (fun _ => ⟨rfl, id⟩) h
  rw [if_neg h10] at h
  by_cases h11 : t = MsgType.queryChannelRange
  · rw [if_pos h11] at h
    exact arm_eq_ok t _ cursor Message.queryChannelRange _ m h11 (fun _ => ⟨rfl, id⟩) h
  rw [if_neg h11] at h
  by_cases h12 : t = MsgType.replyChannelRange
  · rw [if_pos h12] at h
    exact arm_eq_ok t _ cursor Message.replyChannelRange _ m h12 (fun _ => ⟨rfl, id⟩) h
  rw [if_neg h12] at h
  -- No codec claims the type, so only its parity is left to decide.
  by_cases heven : t % 2 = 0
  · rw [if_pos heven] at h
    simp only [reduceCtorEq] at h
  rw [if_neg heven, Outcome.ok.injEq] at h
  rw [← h]
  refine ⟨rfl, ?_, heven, rfl⟩
  simp only [MsgType.claimed, List.mem_cons, List.not_mem_nil, or_false, not_or]
  exact ⟨h1, h2, h3, h4, h5, h6, h7, h8, h9, h10, h11, h12⟩

/-- A body is accepted as a message exactly when the type is the message's and
    its codec accepts the body. -/
theorem decodeBody_eq_ok (t : UInt16) (cursor : Bytes) (m : Message S) :
    decodeBody t cursor = .ok m ↔ m.msgType = t ∧ m.AcceptsBody cursor := by
  refine ⟨acceptsBody_of_decodeBody t cursor m, ?_⟩
  intro h
  rcases h with ⟨ht, hbody⟩
  rw [← ht]
  cases m with
  | warning m => exact (map_eq_ok Message.warning _ _).mpr ⟨m, hbody, rfl⟩
  | init m => exact (map_eq_ok Message.init _ _).mpr ⟨m, hbody, rfl⟩
  | error m => exact (map_eq_ok Message.error _ _).mpr ⟨m, hbody, rfl⟩
  | ping m => exact (map_eq_ok Message.ping _ _).mpr ⟨m, hbody, rfl⟩
  | pong m => exact (map_eq_ok Message.pong _ _).mpr ⟨m, hbody, rfl⟩
  | openChannel m => exact (map_eq_ok Message.openChannel _ _).mpr ⟨m, hbody, rfl⟩
  | fundingCreated m => exact (map_eq_ok Message.fundingCreated _ _).mpr ⟨m, hbody, rfl⟩
  | channelAnnouncement m => exact (map_eq_ok Message.channelAnnouncement _ _).mpr ⟨m, hbody, rfl⟩
  | nodeAnnouncement m => exact (map_eq_ok Message.nodeAnnouncement _ _).mpr ⟨m, hbody, rfl⟩
  | channelUpdate m => exact (map_eq_ok Message.channelUpdate _ _).mpr ⟨m, hbody, rfl⟩
  | queryChannelRange m => exact (map_eq_ok Message.queryChannelRange _ _).mpr ⟨m, hbody, rfl⟩
  | replyChannelRange m => exact (map_eq_ok Message.replyChannelRange _ _).mpr ⟨m, hbody, rfl⟩
  | unknown t payload =>
      -- No arm of the dispatch claims an unknown type.
      rcases hbody with ⟨hclaimed, hodd, hpayload⟩
      simp only [MsgType.claimed, List.mem_cons, List.not_mem_nil, or_false, not_or] at hclaimed
      rcases hclaimed with ⟨h1, h2, h3, h4, h5, h6, h7, h8, h9, h10, h11, h12⟩
      change decodeBody t cursor = _
      unfold decodeBody
      rw [if_neg h1, if_neg h2, if_neg h3, if_neg h4, if_neg h5, if_neg h6, if_neg h7, if_neg h8,
        if_neg h9, if_neg h10, if_neg h11, if_neg h12, if_neg hodd, hpayload]

/-- A message is decoded from its type followed by a body its codec accepts,
    and from nothing else. -/
theorem decode_eq_ok (data : Bytes) (m : Message S) :
    decode data = .ok m
      ↔ ∃ body, data = WireFormat.write m.msgType ++ body ∧ m.AcceptsBody body := by
  unfold decode
  rw [Outcome.bind_eq_ok]
  constructor
  · intro h
    rcases h with ⟨⟨t, body⟩, hread, hbody⟩
    rcases (decodeBody_eq_ok t body m).mp hbody with ⟨ht, haccepts⟩
    exact ⟨body, by rw [ht]; exact eq_write_of_read hread, haccepts⟩
  · intro h
    rcases h with ⟨body, hdata, haccepts⟩
    rw [hdata]
    exact ⟨(m.msgType, body), read_write _ body, (decodeBody_eq_ok _ body m).mpr ⟨rfl, haccepts⟩⟩

/-- Decoding never panics and never loops, whatever bytes it is given. -/
theorem settles_decode (data : Bytes) : (decode data : Outcome BoltError (Message S)).Settles := by
  unfold decode
  refine settles_read _ _ fun p => ?_
  have harm : ∀ {α : Type} (x : Outcome BoltError α) (wrap : α → Message S), x.Settles →
      (do return wrap (← x) : Outcome BoltError (Message S)).Settles :=
    fun x wrap hx => Outcome.settles_bind _ _ hx fun _ _ => Outcome.settles_ok _
  simp only
  unfold decodeBody
  -- One arm of the dispatch after the other.
  refine Outcome.settles_ite _ _ _ (harm _ _ (ChannelNotice.settles_decode _)) ?_
  refine Outcome.settles_ite _ _ _ (harm _ _ (Init.settles_decode _)) ?_
  refine Outcome.settles_ite _ _ _ (harm _ _ (ChannelNotice.settles_decode _)) ?_
  refine Outcome.settles_ite _ _ _ (harm _ _ (Ping.settles_decode _)) ?_
  refine Outcome.settles_ite _ _ _ (harm _ _ (Pong.settles_decode _)) ?_
  refine Outcome.settles_ite _ _ _ (harm _ _ (OpenChannel.settles_decode _)) ?_
  refine Outcome.settles_ite _ _ _ (harm _ _ (FundingCreated.settles_decode _)) ?_
  refine Outcome.settles_ite _ _ _ (harm _ _ (ChannelAnnouncement.settles_decode _)) ?_
  refine Outcome.settles_ite _ _ _ (harm _ _ (NodeAnnouncement.settles_decode _)) ?_
  refine Outcome.settles_ite _ _ _ (harm _ _ (ChannelUpdate.settles_decode _)) ?_
  refine Outcome.settles_ite _ _ _ (harm _ _ (QueryChannelRange.settles_decode _)) ?_
  refine Outcome.settles_ite _ _ _ (harm _ _ (ReplyChannelRange.settles_decode _)) ?_
  exact Outcome.settles_ite _ _ _ (Outcome.settles_err _) (Outcome.settles_ok _)

/-- The bytes a message is encoded to, without its type. -/
def bodyBytes : Message S → Bytes
  | .warning m => m.encode
  | .init m => m.fixedPart ++ TlvStream.encode ⟨tlvRecords m.tlvs.fields⟩
  | .error m => m.encode
  | .ping m => m.encode
  | .pong m => m.encode
  | .openChannel m => m.fixedPart ++ TlvStream.encode ⟨tlvRecords m.tlvs.fields⟩
  | .fundingCreated m => m.encode
  | .channelAnnouncement m => m.encode
  | .nodeAnnouncement m => m.encode
  | .channelUpdate m => m.encode
  | .queryChannelRange m => m.fixedPart ++ TlvStream.encode ⟨tlvRecords m.fields⟩
  | .replyChannelRange m => m.fixedPart ++ TlvStream.encode ⟨tlvRecords m.tlvs.fields⟩
  | .unknown _ payload => payload

/-- Encoding never panics: every record is added to its stream after the
    smaller ones. -/
theorem encode_eq (m : Message S) :
    m.encode = .ok (WireFormat.write m.msgType ++ m.bodyBytes) := by
  have hbody : m.encodeBody = .ok m.bodyBytes := by
    cases m with
    | init m => exact Init.encode_eq m
    | openChannel m => exact OpenChannel.encode_eq m
    | queryChannelRange m => exact QueryChannelRange.encode_eq m
    | replyChannelRange m => exact ReplyChannelRange.encode_eq m
    | _ => rfl
  unfold encode
  simp only
  rw [hbody]
  rfl

theorem accepts_of_decodesBack {α : Type} {encode : α → Bytes}
    {decode : Bytes → Outcome BoltError α} {Fits : α → Prop}
    (h : DecodesBack encode decode Fits) (m : α) (hm : Fits m) : decode (encode m) = .ok m := by
  have hdecode := h m [] hm
  rw [List.append_nil] at hdecode
  exact hdecode

/-- A message that fits is accepted from the bytes it is encoded to. -/
theorem acceptsBody_own (m : Message S) (h : m.Fits) : m.AcceptsBody m.bodyBytes := by
  cases m with
  | warning m => exact accepts_of_decodesBack ChannelNotice.decodesBack m h
  | init m => exact Init.tlvCodec.reads_own m h
  | error m => exact accepts_of_decodesBack ChannelNotice.decodesBack m h
  | ping m => exact accepts_of_decodesBack Ping.decodesBack m h
  | pong m => exact accepts_of_decodesBack Pong.decodesBack m h
  | openChannel m => exact (OpenChannel.tlvEncoder S).reads_own m h
  | fundingCreated m => exact accepts_of_decodesBack FundingCreated.decodesBack m h
  | channelAnnouncement m => exact accepts_of_decodesBack ChannelAnnouncement.decodesBack m h
  | nodeAnnouncement m => exact accepts_of_decodesBack NodeAnnouncement.decodesBack m h
  | channelUpdate m => exact accepts_of_decodesBack ChannelUpdate.decodesBack m h
  | queryChannelRange m => exact QueryChannelRange.tlvCodec.reads_own m h
  | replyChannelRange m => exact ReplyChannelRange.tlvCodec.reads_own m h
  | unknown t payload => exact ⟨h.1, h.2, rfl⟩

/-- When the library parses what it serializes, only the lengths are left to
    fit. -/
theorem fits_of_lengthsFit (hS : S.ParsesSerialized) (m : Message S) (h : m.LengthsFit) :
    m.Fits := by
  cases m with
  | openChannel m =>
      exact ⟨hS.key _, hS.key _, hS.key _, hS.key _, hS.key _, hS.key _⟩
  | fundingCreated m => exact hS.signature _
  | channelAnnouncement m =>
      exact ⟨h, hS.signature _, hS.signature _, hS.signature _, hS.signature _, hS.key _, hS.key _,
        hS.key _, hS.key _⟩
  | nodeAnnouncement m => exact ⟨hS.signature _, h.1, hS.key _, h.2⟩
  | channelUpdate m => exact hS.signature _
  | queryChannelRange m => trivial
  | _ => exact h

/-- Decoding undoes encoding, for every message whose byte fields fit their
    length prefixes. -/
theorem decode_encode (hS : S.ParsesSerialized) (m : Message S) (h : m.LengthsFit) :
    ∃ bytes, m.encode = .ok bytes ∧ decode bytes = .ok m := by
  refine ⟨_, encode_eq m, ?_⟩
  rw [decode_eq_ok]
  exact ⟨m.bodyBytes, rfl, acceptsBody_own m (fits_of_lengthsFit hS m h)⟩

/-- An init with both optional fields, one of them empty. -/
theorem decode_encode_init :
    ∃ bytes,
      (Message.init ⟨[], [0x02], some ⟨[], by decide⟩, some ⟨[0x7f], by decide⟩⟩
        : Message Secp256k1.transparent).encode = .ok bytes
      ∧ decode bytes = .ok (Message.init ⟨[], [0x02], some ⟨[], by decide⟩,
          some ⟨[0x7f], by decide⟩⟩ : Message Secp256k1.transparent) :=
  decode_encode Secp256k1.transparent_parsesSerialized _
    ⟨Nat.zero_le 65535, Nat.le_of_ble_eq_true rfl⟩

end Message

end Bolt

end LnGossipSim
