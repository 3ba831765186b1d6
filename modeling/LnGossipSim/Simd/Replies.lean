import LnGossipSim.Bolt.ShortChannelIds
import LnGossipSim.Library.Caller
import LnGossipSim.Simd.Sendable

/-!
# Automatic Replies

What the daemon does with a message it receives from a peer. A ping is answered
with a pong and a range query with an empty range reply. Every other message is
only logged, and so is one that does not decode, by the two bytes of its type.

The peer chooses what is answered, so a reply must be sendable whatever it
chose. The padding of a pong is capped for that, and the reply to a query has
one length only. Being sendable is the notion of `Simd.Sendable`, and a reply is
sent when the writer moves as one send of its encoding moves it.

## Main definitions

* `toWire`: The bytes of a message.
* `handlePeerMessage`: What is done with a received message.
* `SentOnly`: One message was sent, and nothing else.

## Theorems

* `pong_sendable`, `emptyReply_sendable`, `echo_sendable`: The replies.
* `handlePeerMessage_ping`, `handlePeerMessage_query`,
  `handlePeerMessage_other`: What is done with each kind of message.
-/

namespace LnGossipSim

namespace Simd

open Bolt Noise

/-- The bytes of a message. Encoding it has no error to report. -/
def toWire {S : Secp256k1} {ε : Type} (m : Message S) : Outcome ε Bytes :=
  match m.encode with
  | .ok wire => .ok wire
  | .err _ => .panicked
  | .panicked => .panicked
  | .diverged => .diverged

section

variable (S : Secp256k1) (P : Primitives)

/-- Sends a reply, and tells whether that worked. -/
def sendReply (result : WriteResult) (m : Message S) : NoiseMethod NoiseWriter Empty Bool := do
  let wire ← Method.lift (toWire m)
  match ← Method.attempt (NoiseWriter.send P result wire) with
  | .ok () => return true
  | .error _ => return false

/-- Handles a single inbound message from a peer, sending any response it
    requires. Returns `false` if the connection should be torn down. Panics if
    the message does not decode and has no type. -/
def handlePeerMessage (result : WriteResult) (raw : Bytes) : NoiseMethod NoiseWriter Empty Bool :=
  match (Message.decode raw : Outcome BoltError (Message S)) with
  | .ok (.ping ping) => sendReply S P result (.pong (Pong.respondTo ping))
  | .ok (.queryChannelRange query) =>
    -- No channels are known, so the whole range is answered with no ids.
    sendReply S P result (.replyChannelRange (ReplyChannelRange.fromScids query.chainHash
      query.firstBlocknum query.numberOfBlocks true []))
  | .ok _ => return true
  | .err _ => do
    let _ ← Method.lift (Outcome.expect raw[0]?)
    let _ ← Method.lift (Outcome.expect raw[1]?)
    return true
  | .panicked => Method.lift .panicked
  | .diverged => Method.lift .diverged

end

/-- The message is sendable, and the writer went from the one state to the other
    by sending it, once. -/
def SentOnly {S : Secp256k1} (P : Primitives) (result : WriteResult) (m : Message S)
    (w w' : NoiseWriter) : Prop :=
  Sendable P m
    ∧ ∃ wire, m.encode = .ok wire ∧ w' = ((NoiseWriter.send P result wire).run w).state

section

variable {S : Secp256k1} {P : Primitives}

theorem toWire_eq {ε : Type} (m : Message S) :
    (toWire m : Outcome ε Bytes) = .ok (WireFormat.write m.msgType ++ m.bodyBytes) := by
  unfold toWire
  rw [Message.encode_eq]

theorem respondTo_eq (ping : Ping) :
    Pong.respondTo ping = ⟨List.replicate (min ping.numPongBytes.toNat 65531) 0⟩ := by
  have hcap : (65531 : UInt16).toNat = 65531 := rfl
  have hmin : (if ping.numPongBytes ≤ 65531 then ping.numPongBytes else 65531).toNat
      = min ping.numPongBytes.toNat 65531 := by
    by_cases h : ping.numPongBytes ≤ 65531
    · rw [if_pos h]
      rw [UInt16.le_iff_toNat_le, hcap] at h
      omega
    · rw [if_neg h, hcap]
      rw [UInt16.le_iff_toNat_le, hcap] at h
      omega
  exact congrArg (fun n => (⟨List.replicate n 0⟩ : Pong)) hmin

/-- However much padding is asked for, the pong can be sent. -/
theorem pong_sendable (hP : P.OpensSealed) (ping : Ping) :
    Sendable P (Message.pong (Pong.respondTo ping) : Message S) := by
  have hlen : (Pong.respondTo ping).ignored.length ≤ 65531 := by
    rw [respondTo_eq, List.length_replicate]
    omega
  have hbody : (Message.pong (Pong.respondTo ping) : Message S).bodyBytes.length
      = 2 + (Pong.respondTo ping).ignored.length := write_vec_length _
  rw [sendable_iff hP _ (Nat.le_trans hlen (by decide)), hbody]
  omega

/-- A reply without ids can be sent: its stream has no records. -/
theorem emptyReply_sendable (hP : P.OpensSealed) (chainHash : ByteArr chainHashSize)
    (firstBlocknum numberOfBlocks : UInt32) :
    Sendable P (Message.replyChannelRange (ReplyChannelRange.fromScids chainHash firstBlocknum
      numberOfBlocks true []) : Message S) := by
  have hids := ReplyChannelRange.encodedShortIds_length chainHash firstBlocknum numberOfBlocks
    true []
  rw [sendable_iff hP _ (Nat.le_trans (Nat.le_of_eq hids) (by decide))]
  change 2 + ((ReplyChannelRange.fixedPart _) ++ []).length ≤ 65535
  unfold ReplyChannelRange.fixedPart
  simp only [List.append_nil, List.length_append, write_byteArr_length, write_uInt32_length,
    write_uInt8_length, write_vec_length, hids]
  decide

/-- The echo of an init that was received can be sent: it is no longer than what
    was received. -/
theorem echo_sendable (hP : P.OpensSealed) (raw : Bytes) (received : Init)
    (hraw : raw.length ≤ 65535)
    (h : (Message.decode raw : Outcome BoltError (Message S)) = .ok (.init received)) :
    Sendable P (Message.init (Init.echo received) : Message S) := by
  rcases (Message.decode_eq_ok raw _).mp h with ⟨body, hbody, haccepts⟩
  rcases Init.decode_eq_ok body received haccepts with ⟨s, data, hdata, hfits, -, -⟩
  rw [sendable_iff hP (Message.init (Init.echo received)) hfits]
  change 2 + (received.fixedPart ++ []).length ≤ 65535
  have hlen : raw.length = 2 + (received.fixedPart.length + data.length) := by
    rw [hbody, hdata, List.length_append, List.length_append]
    rfl
  rw [List.append_nil]
  omega

/-- A reply is attempted by one send, whose error is no error of the caller. -/
theorem run_sendReply (hP : P.OpensSealed) (result : WriteResult) (m : Message S) (wire : Bytes)
    (hencode : m.encode = .ok wire) (w : NoiseWriter) :
    let r := (NoiseWriter.send P result wire).run w
    ∃ ok, (sendReply S P result m).run w = ⟨.ok ok, r.state, r.trace⟩
      ∧ (r.outcome = .ok () → ok = true) := by
  intro r
  have hwire : (toWire m : Outcome Empty Bytes) = .ok wire := by
    unfold toWire
    rw [hencode]
  have hsettles : r.outcome.Settles := send_settles hP result wire w
  have hattempt : (Method.attempt (NoiseWriter.send P result wire)
      : NoiseMethod NoiseWriter Empty (Except NoiseError Unit)).run w
      = ⟨r.outcome.attempt, r.state, r.trace⟩ := rfl
  unfold sendReply
  rw [hwire, Method.run_lift_ok_bind]
  cases ho : r.outcome with
  | ok u =>
      rw [ho] at hattempt
      rw [Method.run_bind_of_ok _ _ _ _ _ _ hattempt]
      exact ⟨true, congrArg (Return.mk _ _) (List.append_nil _), fun _ => rfl⟩
  | err e =>
      rw [ho] at hattempt
      rw [Method.run_bind_of_ok _ _ _ _ _ _ hattempt]
      exact ⟨false, congrArg (Return.mk _ _) (List.append_nil _), fun h => nomatch h⟩
  | panicked => exact absurd ho hsettles.1
  | diverged => exact absurd ho hsettles.2

/-- A reply is sent once, and the connection is kept unless writing to the socket
    fails. -/
theorem sendReply_sentOnly (hP : P.OpensSealed) (result : WriteResult) (m : Message S)
    (hm : Sendable P m) (w : NoiseWriter) :
    SentOnly P result m w ((sendReply S P result m).run w).state
      ∧ ∃ ok, ((sendReply S P result m).run w).outcome = .ok ok ∧ (result = .whole → ok = true) := by
  have hsendable := hm
  rcases hm with ⟨wire, hencode, -, -, hwriter, -⟩
  rcases run_sendReply hP result m wire hencode w with ⟨ok, hrun, hok⟩
  rw [hrun]
  refine ⟨⟨hsendable, wire, hencode, rfl⟩, ok, rfl, fun hwhole => hok ?_⟩
  rw [hwhole]
  exact hwriter w

/-- A message with a type is handled without a reply when it is neither a ping
    nor a query, and also when it does not decode. -/
theorem handlePeerMessage_other (result : WriteResult) (raw : Bytes) (w : NoiseWriter)
    (hlen : 2 ≤ raw.length)
    (hping : ∀ ping, (Message.decode raw : Outcome BoltError (Message S)) ≠ .ok (.ping ping))
    (hquery : ∀ query,
      (Message.decode raw : Outcome BoltError (Message S)) ≠ .ok (.queryChannelRange query)) :
    (handlePeerMessage S P result raw).run w = ⟨.ok true, w, []⟩ := by
  have hsettles : (Message.decode raw : Outcome BoltError (Message S)).Settles :=
    Message.settles_decode raw
  unfold handlePeerMessage
  cases hdecode : (Message.decode raw : Outcome BoltError (Message S)) with
  | ok m =>
      cases m with
      | ping ping => exact absurd hdecode (hping ping)
      | queryChannelRange query => exact absurd hdecode (hquery query)
      | _ => rfl
  | err e =>
      -- The type of a message that does not decode is its first two bytes.
      have hhi : raw[0]? = some raw[0] := List.getElem?_eq_getElem (by omega)
      have hlo : raw[1]? = some raw[1] := List.getElem?_eq_getElem (by omega)
      simp only [hhi, hlo, Outcome.expect_some, Method.run_lift_ok_bind, Method.run_pure]
  | panicked => exact absurd hdecode hsettles.1
  | diverged => exact absurd hdecode hsettles.2

theorem handlePeerMessage_ping (result : WriteResult) (raw : Bytes) (ping : Ping)
    (h : (Message.decode raw : Outcome BoltError (Message S)) = .ok (.ping ping)) :
    handlePeerMessage S P result raw = sendReply S P result (.pong (Pong.respondTo ping)) := by
  unfold handlePeerMessage
  rw [h]

theorem handlePeerMessage_query (result : WriteResult) (raw : Bytes) (query : QueryChannelRange)
    (h : (Message.decode raw : Outcome BoltError (Message S)) = .ok (.queryChannelRange query)) :
    handlePeerMessage S P result raw
      = sendReply S P result (.replyChannelRange (ReplyChannelRange.fromScids query.chainHash
        query.firstBlocknum query.numberOfBlocks true [])) := by
  unfold handlePeerMessage
  rw [h]

end

end Simd

end LnGossipSim
