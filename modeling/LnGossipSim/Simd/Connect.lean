import LnGossipSim.Noise.Lifecycle
import LnGossipSim.Simd.Replies

/-!
# Connecting to a Peer

The daemon connects as the initiator. After the three acts the cipher is split,
the peer's init is received, and its features are echoed. The ephemeral key, the
bytes that arrive and how each write ends are inputs of the model, so a
statement about connecting holds for any peer.

The echo is a reply like the others: the peer chooses what is in it. It has the
features of what was received and no extension, so it is no longer, and what was
received fits a frame.

## Main definitions

* `TcpStream`: The stream before it is split.
* `Dial`: What the network and the random generator contribute.
* `exchangeInit`: The exchange of inits.
* `connect`: The handshake and the exchange.

## Theorems

* `run_exchangeInit`: What is done with an init that was received.
* `triple_handshakeOp`: What a call of the handshake keeps.
* `safe_connect`: Connecting does not panic.
* `replies_fit`: Every automatic reply can be sent and says what it should.
-/

namespace LnGossipSim

namespace Simd

open Bolt Noise

/-- A stream that is not split: the bytes yet to be read and those written. -/
structure TcpStream where
  incoming : Bytes
  outgoing : Bytes
  deriving DecidableEq

/-- What connecting finds: the ephemeral key that was drawn, the bytes the remote
    will send or why it cannot be reached, and how each write ends. -/
structure Dial (S : Secp256k1) where
  ephemeral : S.SecretKey
  connected : Except String Bytes
  writeActOne : WriteResult
  writeActThree : WriteResult
  writeInit : WriteResult

namespace TcpStream

/-- Opens the stream. -/
def connect : Except String Bytes → Outcome NoiseError TcpStream
  | .ok incoming => .ok { incoming, outgoing := [] }
  | .error message => .err (.io message)

/-- Writes bytes to the stream. -/
def writeAll (result : WriteResult) (data : Bytes) : NoiseMethod TcpStream NoiseError Unit :=
  match result with
  | .whole => Method.modify fun s => { s with outgoing := s.outgoing ++ data }
  | .failed written message => do
    Method.modify fun s => { s with outgoing := s.outgoing ++ data.take written }
    Method.lift (.err (.io message))

/-- Reads exactly `n` bytes off the stream. -/
def readExact (n : Nat) : NoiseMethod TcpStream NoiseError (ByteArr n) := do
  let s ← Method.get
  if h : n ≤ s.incoming.length then do
    Method.modify fun s => { s with incoming := s.incoming.drop n }
    return Slice.pack (s.incoming.take n) (List.length_take_of_le h)
  else do
    Method.modify fun s => { s with incoming := [] }
    Method.lift (.err (.io "early eof"))

end TcpStream

section

variable {S : Secp256k1} (P : Primitives) (hexEncode : Bytes → String) {σ : Type}

/-- The init that a received message has to be. -/
def expectInit (initResp : Bytes) : Outcome NoiseError Init :=
  match (Message.decode initResp : Outcome BoltError (Message S)) with
  | .ok (.init init) => .ok init
  | .ok other =>
    let msgType := other.msgType
    .err (.io s!"expected Init (16), got msg type {msgType}")
  | .err e =>
    let text := e.text hexEncode
    .err (.io s!"failed to decode Init: {text}")
  | .panicked => .panicked
  | .diverged => .diverged

/-- Receives the peer's init and echoes its features. -/
def exchangeInit (result : WriteResult) (theirNodeId : S.PublicKey) (writer : NoiseWriter)
    (reader : NoiseReader) :
    NoiseMethod σ NoiseError (NoiseWriter × NoiseReader × S.PublicKey) := do
  let (initResp, reader) ← Method.withLocal reader (NoiseReader.recv P)
  let receivedInit ← Method.lift (expectInit (S := S) hexEncode initResp)
  let wire ← Method.lift (toWire (Message.init (Init.echo receivedInit) : Message S))
  let (_, writer) ← Method.withLocal writer (NoiseWriter.send P result wire)
  return (writer, reader, theirNodeId)

/-- Performs the handshake as initiator and splits the connection. -/
def openConnection (theirNodeId : S.PublicKey) (ourStatic : S.SecretKey) (dial : Dial S) :
    NoiseMethod σ NoiseError (NoiseWriter × NoiseReader) := do
  let handshake := NoiseHandshake.newInitiator P ourStatic dial.ephemeral theirNodeId
  let stream ← Method.lift (TcpStream.connect dial.connected)
  let (actOne, handshake) ← Method.withLocal handshake (NoiseHandshake.getActOne P)
  let (_, stream) ← Method.withLocal stream (TcpStream.writeAll dial.writeActOne actOne.toList)
  let (actTwo, stream) ← Method.withLocal stream (TcpStream.readExact actTwoSize)
  let (actThree, handshake) ← Method.withLocal handshake (NoiseHandshake.processActTwo P actTwo)
  let (_, stream) ← Method.withLocal stream
    (TcpStream.writeAll dial.writeActThree actThree.toList)
  let (cipher, _) ← Method.withLocal handshake (NoiseHandshake.intoCipher P)
  let (sendCipher, recvCipher) := cipher.split
  return (⟨stream.outgoing, sendCipher⟩, ⟨stream.incoming, recvCipher⟩)

/-- Perform BOLT 8 `Noise_XK` handshake as initiator, exchange Init messages, and
    return the independent read and write halves. -/
def connect (theirNodeId : S.PublicKey) (ourStatic : S.SecretKey) (dial : Dial S) :
    NoiseMethod σ NoiseError (NoiseWriter × NoiseReader × S.PublicKey) := do
  let (writer, reader) ← openConnection P theirNodeId ourStatic dial
  exchangeInit P hexEncode dial.writeInit theirNodeId writer reader

end

section

variable {S : Secp256k1} {P : Primitives} (hexEncode : Bytes → String) {σ : Type}

/-- An init that was received is answered with one message, its echo. When that
    is written the connection is established, and with an error of the socket it
    is not. -/
theorem run_exchangeInit (hP : P.OpensSealed) (result : WriteResult) (theirNodeId : S.PublicKey)
    (writer : NoiseWriter) (reader reader' : NoiseReader) (raw wire : Bytes) (received : Init)
    (t : List PrimitiveCall) (hrecv : (NoiseReader.recv P).run reader = ⟨.ok raw, reader', t⟩)
    (hdecode : (Message.decode raw : Outcome BoltError (Message S)) = .ok (.init received))
    (hwire : (Message.init (Init.echo received) : Message S).encode = .ok wire) (s : σ) :
    let sent := (NoiseWriter.send P result wire).run writer
    let o := ((exchangeInit P hexEncode result theirNodeId writer reader).run s).outcome
    (sent.outcome = .ok () ∧ o = .ok (sent.state, reader', theirNodeId))
      ∨ ∃ e, sent.outcome = .err e ∧ o = .err e := by
  intro sent o
  have hexpect : expectInit (S := S) hexEncode raw = .ok received := by
    unfold expectInit
    rw [hdecode]
  have htoWire : (toWire (Message.init (Init.echo received) : Message S)
      : Outcome NoiseError Bytes) = .ok wire := by
    unfold toWire
    rw [hwire]
  have ho : o = ((exchangeInit P hexEncode result theirNodeId writer reader).run s).outcome := rfl
  have hsettles : sent.outcome.Settles := send_settles hP result wire writer
  unfold exchangeInit at ho
  rw [Method.run_withLocal_bind_of_ok _ _ _ _ _ _ _ hrecv] at ho
  simp only [hexpect, htoWire, Method.run_lift_ok_bind, Return.outcome_after] at ho
  cases hsent : sent.outcome with
  | ok u =>
      have hrun := Return.eq_of_outcome sent _ hsent
      rw [Method.run_withLocal_bind_of_ok _ _ _ _ _ _ _ hrun] at ho
      exact Or.inl ⟨rfl, ho⟩
  | err e =>
      have hrun := Return.eq_of_outcome sent _ hsent
      rw [Method.run_withLocal_bind_of_err _ _ _ _ _ _ _ hrun] at ho
      exact Or.inr ⟨e, rfl, ho⟩
  | panicked => exact absurd hsent hsettles.1
  | diverged => exact absurd hsent hsettles.2

section

open Method

/-- No primitive that a run notes counts as bad. -/
def NoneBad (_ : PrimitiveCall) : Prop := False

theorem safe_writeAll (result : WriteResult) (data : Bytes) :
    Safe NoneBad (TcpStream.writeAll result data) := by
  cases result with
  | whole => exact safe_modify _ _
  | failed written message =>
      exact safe_bind _ _ _ (safe_modify _ _) fun _ => safe_lift _ _ (Outcome.settles_err _)

theorem safe_readExact (n : Nat) : Safe NoneBad (TcpStream.readExact n) := by
  refine safe_bind _ _ _ (safe_get _) fun s => ?_
  by_cases h : n ≤ s.incoming.length
  · rw [dif_pos h]
    exact safe_bind _ _ _ (safe_modify _ _) fun _ => safe_pure _ _
  · rw [dif_neg h]
    exact safe_bind _ _ _ (safe_modify _ _) fun _ => safe_lift _ _ (Outcome.settles_err _)

/-- Receiving ends in a message or an error. -/
theorem safe_recv (hP : P.OpensShorter) : Safe NoneBad (NoiseReader.recv P) := by
  have hread : ∀ n, Safe NoneBad (NoiseReader.readExact n) := by
    intro n
    refine safe_bind _ _ _ (safe_get _) fun r => ?_
    by_cases h : n ≤ r.stream.length
    · rw [dif_pos h]
      exact safe_bind _ _ _ (safe_modify _ _) fun _ => safe_pure _ _
    · rw [dif_neg h]
      exact safe_bind _ _ _ (safe_modify _ _) fun _ => safe_lift _ _ (Outcome.settles_err _)
  refine safe_bind _ _ _ (hread _) fun header => ?_
  refine safe_bind _ _ _ (safe_zoom _ _ _ _ (safe_of_settles _ fun c =>
    decryptLength_settles hP c header)) fun msgLen => ?_
  refine safe_bind _ _ _ (hread _) fun body => ?_
  exact safe_zoom _ _ _ _ (safe_of_settles _ fun c => openNext_settles c body.toList)

theorem safe_send (hP : P.OpensSealed) (result : WriteResult) (wire : Bytes) :
    Safe NoneBad (NoiseWriter.send P result wire) :=
  safe_of_settles _ fun w => send_settles hP result wire w

theorem safe_toWire {ε : Type} (m : Message S) :
    Safe NoneBad (Method.lift (toWire m) : NoiseMethod σ ε Bytes) := by
  rw [toWire_eq]
  exact safe_lift _ _ (Outcome.settles_ok _)

/-- The exchange of inits ends in a connection or an error. -/
theorem safe_exchangeInit (hseal : P.OpensSealed) (hopen : P.OpensShorter) (result : WriteResult)
    (theirNodeId : S.PublicKey) (writer : NoiseWriter) (reader : NoiseReader) :
    Safe NoneBad (exchangeInit P hexEncode result theirNodeId writer reader
      : NoiseMethod σ NoiseError _) := by
  refine safe_bind _ _ _ (safe_withLocal _ _ _ (safe_recv hopen)) fun received => ?_
  refine safe_bind _ _ _ (safe_lift _ _ ?_) fun init => ?_
  · have hsettles : (Message.decode received.1 : Outcome BoltError (Message S)).Settles :=
      Message.settles_decode received.1
    unfold expectInit
    cases hdecode : (Message.decode received.1 : Outcome BoltError (Message S)) with
    | ok m =>
        cases m with
        | init init => exact Outcome.settles_ok init
        | _ => exact Outcome.settles_err _
    | err e => exact Outcome.settles_err _
    | panicked => exact absurd hdecode hsettles.1
    | diverged => exact absurd hdecode hsettles.2
  refine safe_bind _ _ _ (safe_toWire _) fun wire => ?_
  exact safe_bind _ _ _ (safe_withLocal _ _ _ (safe_send hseal result wire))
    fun _ => safe_pure _ _

/-- The party is an initiator at some stage of the handshake. -/
def InProgress (s : NoiseHandshake S) : Prop := ∃ done, Stage s .initiator done

/-- A call of the handshake ends in a value or an error, and keeps the keys that the
    next call expects. -/
theorem triple_handshakeOp (hP : P.OpensSealed) (op : HandshakeOp) :
    Triple NoneBad (InProgress (S := S)) (op.act P) fun _ => InProgress := by
  intro s hs
  rcases hs with ⟨done, hstage⟩
  rcases Stage.step hP.sealsLonger s .initiator done hstage op with ⟨hsettles, hnext⟩
  exact ⟨hsettles, fun _ _ hbad => hbad, fun _ _ => ⟨_, hnext⟩⟩

/-- The handshake ends in the two halves of a connection or an error. -/
theorem safe_openConnection (hP : P.OpensSealed) (theirNodeId : S.PublicKey)
    (ourStatic : S.SecretKey) (dial : Dial S) :
    Safe NoneBad (openConnection P theirNodeId ourStatic dial : NoiseMethod σ NoiseError _) := by
  have hstart : InProgress (NoiseHandshake.newInitiator P ourStatic dial.ephemeral theirNodeId) :=
    ⟨[], rfl, rfl, by simp [NoiseHandshake.newInitiator]⟩
  refine safe_bind _ _ _ (safe_lift _ _ ?_) fun stream => ?_
  · cases dial.connected with
    | ok incoming => exact Outcome.settles_ok _
    | error message => exact Outcome.settles_err _
  refine triple_bind _ _ _ (triple_withLocal _ _ _ (Triple.of_drop _ _
    (triple_handshakeOp hP .getActOne)) hstart) fun actOne => triple_of_fact _ _ fun hprogress => ?_
  refine safe_bind _ _ _ (safe_withLocal _ _ _ (safe_writeAll _ _)) fun stream => ?_
  refine safe_bind _ _ _ (safe_withLocal _ _ _ (safe_readExact _)) fun actTwo => ?_
  refine triple_bind _ _ _ (triple_withLocal _ _ _ (Triple.of_drop _ _
    (triple_handshakeOp hP (.processActTwo actTwo.1))) hprogress) fun actThree =>
      triple_of_fact _ _ fun _ => ?_
  refine safe_bind _ _ _ (safe_withLocal _ _ _ (safe_writeAll _ _)) fun stream => ?_
  refine safe_bind _ _ _ (safe_withLocal _ _ _ ?_) fun cipher => safe_pure _ _
  refine safe_bind _ _ _ (safe_of_settles _ fun s => ?_) fun keys =>
    safe_bind _ _ _ (safe_get _) fun s => safe_pure _ _
  rcases getFinalKeys_total (P := P) s with ⟨-, keys, t, hrun⟩ | ⟨-, hrun⟩
  · rw [hrun]
    exact Outcome.settles_ok keys
  · rw [hrun]
    exact Outcome.settles_err _

/-- Connecting ends in the two halves of a connection or an error. -/
theorem safe_connect (hseal : P.OpensSealed) (hopen : P.OpensShorter) (theirNodeId : S.PublicKey)
    (ourStatic : S.SecretKey) (dial : Dial S) :
    Safe NoneBad (connect P hexEncode theirNodeId ourStatic dial : NoiseMethod σ NoiseError _) :=
  safe_bind _ _ _ (safe_openConnection hseal theirNodeId ourStatic dial) fun halves =>
    safe_exchangeInit hexEncode hseal hopen dial.writeInit theirNodeId halves.1 halves.2

end

/-- Every automatic reply can be sent and says what it should. A message of at
    least two bytes is handled without a panic. A ping is answered with one pong
    of the padding it asks for, up to 65531 bytes; a range query with one reply
    that covers the range and has no ids; anything else, decodable or not, with
    nothing. While connecting, an init that was received is answered with one
    init of the same features and no extension. -/
theorem replies_fit (hP : P.OpensSealed) (result : WriteResult) (w : NoiseWriter) (raw : Bytes)
    (hlong : 2 ≤ raw.length) (hshort : raw.length ≤ 65535) :
    let decoded : Outcome BoltError (Message S) := Message.decode raw
    let handled := (handlePeerMessage S P result raw).run w
    (∃ ok, handled.outcome = .ok ok ∧ (result = .whole → ok = true))
    ∧ (∀ ping, decoded = .ok (.ping ping) →
      SentOnly P result (.pong ⟨List.replicate (min ping.numPongBytes.toNat 65531) 0⟩
        : Message S) w handled.state)
    ∧ (∀ query, decoded = .ok (.queryChannelRange query) →
      ∃ m : ReplyChannelRange, m.chainHash = query.chainHash
        ∧ m.firstBlocknum = query.firstBlocknum ∧ m.numberOfBlocks = query.numberOfBlocks
        ∧ m.syncComplete = 1 ∧ m.shortChannelIds = .ok []
        ∧ SentOnly P result (.replyChannelRange m : Message S) w handled.state)
    ∧ ((∀ ping, decoded ≠ .ok (.ping ping)) → (∀ query, decoded ≠ .ok (.queryChannelRange query)) →
      handled = ⟨.ok true, w, []⟩)
    ∧ ∀ (theirNodeId : S.PublicKey) (ourStatic : S.SecretKey) (dial : Dial S) (s s' : σ) writer
        reader reader' t t' received,
      (openConnection P theirNodeId ourStatic dial).run s = ⟨.ok (writer, reader), s', t⟩ →
      (NoiseReader.recv P).run reader = ⟨.ok raw, reader', t'⟩ → decoded = .ok (.init received) →
      ∃ writer', SentOnly P dial.writeInit (.init ⟨received.globalfeatures, received.features,
          ⟨none, none⟩⟩ : Message S) writer writer'
        ∧ (dial.writeInit = .whole → ((connect P hexEncode theirNodeId ourStatic dial).run
            s).outcome = .ok (writer', reader', theirNodeId))
        ∧ ∀ established, ((connect P hexEncode theirNodeId ourStatic dial).run s).outcome
          = .ok established → established = (writer', reader', theirNodeId) := by
  intro decoded handled
  refine ⟨?_, fun ping hping => ?_, fun query hquery => ?_, ?_, ?_⟩
  · by_cases hping : ∃ ping, decoded = .ok (.ping ping)
    · rcases hping with ⟨ping, hping⟩
      have hsend := sendReply_sentOnly (S := S) hP result _ (pong_sendable hP ping) w
      rw [← handlePeerMessage_ping result raw ping hping] at hsend
      exact hsend.2
    · by_cases hquery : ∃ query, decoded = .ok (.queryChannelRange query)
      · rcases hquery with ⟨query, hquery⟩
        have hsend := sendReply_sentOnly (S := S) hP result _ (emptyReply_sendable hP
          query.chainHash query.firstBlocknum query.numberOfBlocks) w
        rw [← handlePeerMessage_query result raw query hquery] at hsend
        exact hsend.2
      · have hother := handlePeerMessage_other (P := P) result raw w hlong
          (not_exists.mp hping) (not_exists.mp hquery)
        exact ⟨true, congrArg Return.outcome hother, fun _ => rfl⟩
  · have hsend := sendReply_sentOnly (S := S) hP result _ (pong_sendable hP ping) w
    rw [← handlePeerMessage_ping result raw ping hping, respondTo_eq] at hsend
    exact hsend.1
  · have hsend := sendReply_sentOnly (S := S) hP result _ (emptyReply_sendable hP query.chainHash
      query.firstBlocknum query.numberOfBlocks) w
    rw [← handlePeerMessage_query result raw query hquery] at hsend
    exact ⟨_, rfl, rfl, rfl, rfl, ReplyChannelRange.shortChannelIds_fromScids _ _ _ _ _, hsend.1⟩
  · exact handlePeerMessage_other result raw w hlong
  · intro theirNodeId ourStatic dial s s' writer reader reader' t t' received hopen hrecv hinit
    have hecho := echo_sendable hP raw received hshort hinit
    have hecho' := hecho
    rcases hecho' with ⟨wire, hwire, -, -, hsent, -⟩
    -- Connecting is opening the connection and then exchanging the inits.
    have hconnect : ((connect P hexEncode theirNodeId ourStatic dial).run s).outcome
        = ((exchangeInit P hexEncode dial.writeInit theirNodeId writer reader).run s').outcome := by
      unfold connect
      rw [Method.run_bind_of_ok _ _ _ _ _ _ hopen]
      rfl
    have hexchange := run_exchangeInit hexEncode hP dial.writeInit theirNodeId writer reader
      reader' raw wire received t' hrecv hinit hwire s'
    refine ⟨_, ⟨hecho, wire, hwire, rfl⟩, fun hwhole => ?_, fun established hok => ?_⟩
    · rw [hconnect]
      rcases hexchange with ⟨-, ho⟩ | ⟨e, he, -⟩
      · exact ho
      · rw [hwhole, hsent writer] at he
        exact nomatch he
    · rw [hconnect] at hok
      rcases hexchange with ⟨-, ho⟩ | ⟨e, -, ho⟩
      · rw [ho] at hok
        exact (Outcome.ok.inj hok).symm
      · rw [ho] at hok
        exact nomatch hok

/-- A ping for three bytes of padding. -/
theorem replies_fit_ping :
    let w : NoiseWriter := ⟨[], ⟨List.Vector.replicate 32 1, 0, List.Vector.replicate 32 2⟩⟩
    SentOnly .transparent .whole (.pong ⟨[0, 0, 0]⟩ : Message .transparent) w
      ((handlePeerMessage .transparent .transparent .whole [0, 18, 0, 3, 0, 0]).run w).state := by
  intro w
  exact (replies_fit (S := .transparent) (σ := Unit) (fun _ => "")
    Primitives.transparent_opensSealed .whole w [0, 18, 0, 3, 0, 0] (by decide)
    (by decide)).2.1 ⟨3, []⟩ rfl

end

end Simd

end LnGossipSim
