import LnGossipSim.Bolt.Message
import LnGossipSim.Simd.Conn

/-!
# Sendable Messages

A message is encoded in one crate and sent in another. The encoders accept any
message, and the connection refuses what is longer than a frame can be, counting
the type and every length prefix. A message is sendable when the two agree: it
is read back from its encoding, and both kinds of connection accept that.

For a message whose fields fit their prefixes the length of the encoding is all
that decides. The constructors of errors and warnings bound the length of their
text by the length of a whole frame, so for a few texts they make a message that
cannot be sent.

## Main definitions

* `Sendable`: A message that survives sending.
* `NoticeBuilder`: The constructors of errors and warnings.

## Theorems

* `sendable_iff`: Its length decides whether a message is sendable.
* `notices_sendable_iff`: The texts whose message is sendable.
-/

namespace LnGossipSim

namespace Simd

open Bolt Noise

/-- The encoding of the message decodes to it, fits a frame, and is accepted by
    both kinds of connection. -/
def Sendable {S : Secp256k1} (P : Primitives) (m : Message S) : Prop :=
  ∃ wire, m.encode = .ok wire ∧ Message.decode wire = .ok m ∧ wire.length ≤ 65535
    ∧ (∀ w : NoiseWriter, ((NoiseWriter.send P .whole wire).run w).outcome = .ok ())
    ∧ ∀ c : NoiseConnection, ((NoiseConnection.sendMessage P .whole wire).run c).outcome = .ok ()

/-- The constructors of errors and warnings. -/
inductive NoticeBuilder where
  | errorAllChannels
  | errorForChannel (channelId : ChannelId)
  | warningAllChannels
  | warningForChannel (channelId : ChannelId)

namespace NoticeBuilder

/-- The message a constructor makes of a text. -/
def build {S : Secp256k1} (b : NoticeBuilder) (msg : String) : Outcome BoltError (Message S) :=
  match b with
  | .errorAllChannels => Message.error <$> Error.allChannels msg
  | .errorForChannel channelId => Message.error <$> Error.forChannel channelId msg
  | .warningAllChannels => Message.warning <$> Warning.allChannels msg
  | .warningForChannel channelId => Message.warning <$> Warning.forChannel channelId msg

/-- The channel of the message. -/
def channelId : NoticeBuilder → ChannelId
  | .errorAllChannels => ChannelId.all
  | .errorForChannel channelId => channelId
  | .warningAllChannels => ChannelId.all
  | .warningForChannel channelId => channelId

/-- The kind of the message. -/
def wrap {S : Secp256k1} : NoticeBuilder → ChannelNotice → Message S
  | .errorAllChannels => Message.error
  | .errorForChannel _ => Message.error
  | .warningAllChannels => Message.warning
  | .warningForChannel _ => Message.warning

/-- The constructors differ in the kind and the channel only. -/
theorem build_eq_ok {S : Secp256k1} (b : NoticeBuilder) (msg : String) (m : Message S) :
    b.build msg = .ok m
      ↔ msg.utf8ByteSize ≤ 65535 ∧ m = b.wrap ⟨b.channelId, msg.toByteArray.data.toList⟩ := by
  have hbuild : b.build msg
      = (do return b.wrap (← ChannelNotice.ofText b.channelId msg)
        : Outcome BoltError (Message S)) := by
    cases b <;> rfl
  rw [hbuild, Message.map_eq_ok]
  constructor
  · intro h
    rcases h with ⟨notice, hnotice, hm⟩
    rcases (ChannelNotice.ofText_eq_ok _ _ _).mp hnotice with ⟨hsize, hfields⟩
    exact ⟨hsize, by rw [← hm, hfields]⟩
  · intro h
    rcases h with ⟨hsize, hm⟩
    exact ⟨_, (ChannelNotice.ofText_eq_ok _ _ _).mpr ⟨hsize, rfl⟩, hm.symm⟩

end NoticeBuilder

section

variable {S : Secp256k1} {P : Primitives}

theorem wire_length (m : Message S) :
    (WireFormat.write m.msgType ++ m.bodyBytes).length = 2 + m.bodyBytes.length :=
  List.length_append

/-- A message that fits its format is sendable exactly when it fits a frame with
    its type. -/
theorem sendable_iff (hP : P.OpensSealed) (m : Message S) (hfits : m.Fits) :
    Sendable P m ↔ 2 + m.bodyBytes.length ≤ 65535 := by
  have hencode := Message.encode_eq m
  have hlength := wire_length m
  constructor
  · intro h
    rcases h with ⟨wire, hwire, -, hlen, -⟩
    rw [hencode, Outcome.ok.injEq] at hwire
    rw [← hlength, hwire]
    exact hlen
  · intro h
    rw [← hlength] at h
    refine ⟨_, hencode, ?_, h, fun w => (send_accepts_iff hP _ w).mpr h,
      fun c => (sendMessage_accepts_iff hP _ c).mpr h⟩
    exact (Message.decode_eq_ok _ m).mpr ⟨m.bodyBytes, rfl, Message.acceptsBody_own m hfits⟩

/-- The text of a notice is preceded by the channel and by its length. -/
theorem notice_bodyBytes_length (b : NoticeBuilder) (channelId : ChannelId) (data : Bytes) :
    (b.wrap ⟨channelId, data⟩ : Message S).bodyBytes.length = 34 + data.length := by
  have hencode : (b.wrap ⟨channelId, data⟩ : Message S).bodyBytes
      = ChannelNotice.encode ⟨channelId, data⟩ := by
    cases b <;> rfl
  have hid : (WireFormat.write channelId).length = 32 := channelId.bytes.toList_length
  rw [hencode, ChannelNotice.encode, List.length_append, write_vec_length, hid]
  simp only
  omega

theorem notice_fits (b : NoticeBuilder) (channelId : ChannelId) (data : Bytes)
    (h : data.length ≤ 65535) : (b.wrap ⟨channelId, data⟩ : Message S).Fits := by
  cases b <;> exact h

theorem text_length (msg : String) : msg.toByteArray.data.toList.length = msg.utf8ByteSize := rfl

/-- The message that a constructor makes of a text is sendable exactly when the
    text leaves room for the type, the channel and the length in a frame, or is
    so long that the constructor panics. -/
theorem notices_sendable_iff (hP : P.OpensSealed) (b : NoticeBuilder) (msg : String) :
    (∀ m : Message S, b.build msg = .ok m → Sendable P m)
      ↔ ¬ (65499 < msg.utf8ByteSize ∧ msg.utf8ByteSize ≤ 65535) := by
  have hdata := text_length msg
  constructor
  · intro hall h
    -- The guard lets the text pass, and the message does not fit.
    have hsend := hall _ ((b.build_eq_ok msg _).mpr ⟨h.2, rfl⟩)
    have hfits : (b.wrap ⟨b.channelId, msg.toByteArray.data.toList⟩ : Message S).Fits :=
      notice_fits b _ _ (by omega)
    rw [sendable_iff hP _ hfits, notice_bodyBytes_length] at hsend
    omega
  · intro h m hm
    rcases (b.build_eq_ok msg m).mp hm with ⟨hsize, heq⟩
    rw [heq, sendable_iff hP _ (notice_fits b _ _ (by omega)), notice_bodyBytes_length]
    omega

/-- An error of the usual length. -/
theorem notices_sendable_iff_short :
    Sendable Primitives.transparent (Message.error
      ⟨ChannelId.all, "no such channel".toByteArray.data.toList⟩ : Message .transparent) :=
  (notices_sendable_iff Primitives.transparent_opensSealed .errorAllChannels
    "no such channel").mpr (by decide) _ rfl

/-- A character repeated takes its size in bytes each time. -/
theorem utf8ByteSize_replicate (n : Nat) (c : Char) :
    (String.ofList (List.replicate n c)).utf8ByteSize = n * c.utf8Size := by
  induction n with
  | zero => rw [List.replicate_zero, String.ofList_nil, String.utf8ByteSize_empty, Nat.zero_mul]
  | succ n ih =>
      rw [List.replicate_succ, String.ofList_cons, String.utf8ByteSize_append, ih,
        String.utf8ByteSize_singleton, Nat.succ_mul, Nat.add_comm]

/-- A text of 65500 bytes passes the guard, and its message is one byte too
    long. -/
theorem not_sendable_of_size (msg : String) (hsize : msg.utf8ByteSize = 65500) :
    ∃ (m : Message .transparent) (wire : Bytes),
      NoticeBuilder.errorAllChannels.build msg = .ok m ∧ m.encode = .ok wire
        ∧ wire.length = 65536 ∧ ¬ Sendable Primitives.transparent m
        ∧ (∀ w : NoiseWriter, ((NoiseWriter.send .transparent .whole wire).run w).outcome
          ≠ .ok ())
        ∧ ∀ c : NoiseConnection, ((NoiseConnection.sendMessage .transparent .whole wire).run
          c).outcome ≠ .ok () := by
  have hP := Primitives.transparent_opensSealed
  have hdata := text_length msg
  have hbuild := (NoticeBuilder.errorAllChannels.build_eq_ok (S := .transparent) msg _).mpr
    ⟨by omega, rfl⟩
  have hfits := notice_fits (S := .transparent) .errorAllChannels ChannelId.all
    msg.toByteArray.data.toList (by omega)
  have hbody := notice_bodyBytes_length (S := .transparent) .errorAllChannels ChannelId.all
    msg.toByteArray.data.toList
  have hwire := wire_length (NoticeBuilder.errorAllChannels.wrap
    ⟨ChannelId.all, msg.toByteArray.data.toList⟩ : Message .transparent)
  rw [hbody, hdata, hsize] at hwire
  have hlong : ¬ 2 + (34 + 65500) ≤ Noise.maxMessageSize := by decide
  rw [← hwire] at hlong
  refine ⟨_, _, hbuild, Message.encode_eq _, hwire, ?_,
    fun w h => hlong ((send_accepts_iff hP _ w).mp h),
    fun c h => hlong ((sendMessage_accepts_iff hP _ c).mp h)⟩
  intro h
  have hlen := (sendable_iff hP _ hfits).mp h
  omega

/-- A text of 65500 letters, whose message neither kind of connection
    accepts. -/
theorem notice_one_byte_too_long :
    let msg := String.ofList (List.replicate 65500 'a')
    ∃ (m : Message .transparent) (wire : Bytes),
      NoticeBuilder.errorAllChannels.build msg = .ok m ∧ m.encode = .ok wire
        ∧ wire.length = 65536 ∧ ¬ Sendable Primitives.transparent m
        ∧ (∀ w : NoiseWriter, ((NoiseWriter.send .transparent .whole wire).run w).outcome
          ≠ .ok ())
        ∧ ∀ c : NoiseConnection, ((NoiseConnection.sendMessage .transparent .whole wire).run
          c).outcome ≠ .ok () :=
  not_sendable_of_size _ (utf8ByteSize_replicate 65500 'a')

end

end Simd

end LnGossipSim
