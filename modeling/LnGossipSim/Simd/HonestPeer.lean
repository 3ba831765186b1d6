import LnGossipSim.Noise.Agreement
import LnGossipSim.Simd.Session

/-!
# Talking to an Honest Peer

The daemon and an honest peer, from the first act of the handshake on. The peer is
a responder made by the same crate: it answers act one, takes act three, sends an
init and then its messages, all under the ciphers of its side of the handshake.

The acts are followed once, from the two lemmas about a delivered act. Each leaves
the parties with the same chaining key and hash, so the ciphers at the end are
crossed: what one side sends with, the other receives with. From there on the
reader of the connection reads the frames of the peer, and the peer reads what the
writer has written since the acts, which starts with the echo of its init.

## Main definitions

* `Initiates`, `Responds`: What the two parties make of the acts.
* `Dial.honest`: Dialling a peer that sends its answer and then more, where all
  writes go out whole.

## Theorems

* `run_openConnection_honest`: The handshake, from the daemon's side.
* `recv_frame`: The first of a peer's frames is received.
* `connect_honest`: Connecting to an honest peer.
* `honest_conversation`: What both sides read, from the first act on.
-/

namespace LnGossipSim

namespace Simd

open Bolt Noise NoiseHandshake

section

variable {S : Secp256k1} (P : Primitives)

/-- The initiator writes act one, and answers act two with act three. -/
def Initiates (ourStatic ephemeral : S.SecretKey) (theirStatic : S.PublicKey)
    (actOne : ByteArr actOneSize) (actTwo : ByteArr actTwoSize) (actThree : ByteArr actThreeSize) :
    Prop :=
  ∃ i₁ i₂ t₁ t₂,
    (getActOne P).run (newInitiator P ourStatic ephemeral theirStatic) = ⟨.ok actOne, i₁, t₁⟩
    ∧ (processActTwo P actTwo).run i₁ = ⟨.ok actThree, i₂, t₂⟩

/-- The responder answers act one with act two, then accepts act three, learns the
    initiator's static key, and is left with the cipher. -/
def Responds (ourStatic ephemeral : S.SecretKey) (actOne : ByteArr actOneSize)
    (actTwo : ByteArr actTwoSize) (actThree : ByteArr actThreeSize) (theirStatic : S.PublicKey)
    (cipher : NoiseCipher) : Prop :=
  ∃ r₁ r₂ t₁ t₂ t₃,
    (processActOne P actOne).run (newResponder P ourStatic ephemeral) = ⟨.ok actTwo, r₁, t₁⟩
    ∧ (processActThree P actThree).run r₁ = ⟨.ok theirStatic, r₂, t₂⟩
    ∧ (intoCipher P).run r₂ = ⟨.ok cipher, r₂, t₃⟩

/-- Dialling a peer that sends act two and then more, where no write fails. -/
def Dial.honest (ephemeral : S.SecretKey) (actTwo : ByteArr actTwoSize) (more : Bytes) : Dial S :=
  { ephemeral, connected := .ok (actTwo.toList ++ more), writeActOne := .whole,
    writeActThree := .whole, writeInit := .whole }

end

section

variable {S : Secp256k1} {P : Primitives} {σ : Type}

theorem run_writeAll (s : TcpStream) (data : Bytes) :
    (TcpStream.writeAll .whole data).run s
      = ⟨.ok (), { s with outgoing := s.outgoing ++ data }, []⟩ := rfl

/-- The stream is read from the front. -/
theorem run_tcpReadExact (n : Nat) (data : ByteArr n) (rest out : Bytes) :
    (TcpStream.readExact n).run ⟨data.toList ++ rest, out⟩ = ⟨.ok data, ⟨rest, out⟩, []⟩ := by
  have hle : n ≤ (data.toList ++ rest).length := by
    rw [List.length_append, data.toList_length]
    omega
  have hpack : Slice.pack ((data.toList ++ rest).take n) (List.length_take_of_le hle) = data :=
    Slice.pack_of_toList data _ _ (List.take_left' data.toList_length)
  unfold TcpStream.readExact
  rw [Method.run_get_bind, dif_pos hle, Method.run_modify_bind]
  simp only [hpack, List.drop_left' data.toList_length]
  rfl

/-- The handshake with an honest responder goes through. The two acts are written,
    the rest of the stream is left to the reader, and each half has the state of the
    other side's opposite half. -/
theorem run_openConnection_honest (hP : P.OpensSealed) (hkeys : ∀ k : S.PublicKey, S.KeyReparses k)
    (hecdh : S.EcdhCommutes) (is ie rs re : S.SecretKey) :
    ∃ actOne actTwo actThree cipher,
      Initiates P is ie (S.publicKey rs) actOne actTwo actThree
      ∧ Responds P rs re actOne actTwo actThree (S.publicKey is) cipher
      ∧ ∀ (more : Bytes) (s : σ), ∃ t,
        (openConnection P (S.publicKey rs) is (Dial.honest ie actTwo more)).run s
          = ⟨.ok (⟨actOne.toList ++ actThree.toList, cipher.split.2⟩, ⟨more, cipher.split.1⟩),
              s, t⟩ := by
  -- Act one, from the state both derive from the responder's static key.
  rcases write_read hP hkeys NoiseHandshake.remoteStatic (fun old _ => old) (fun old _ => old)
    .initiatorAwaitingActTwo .responderStart NoiseHandshake.localStatic .actOneBadVersion
    .actOneBadPubkey .actOneBadTag (newInitiator P is ie (S.publicKey rs)) (newResponder P rs re)
    (S.publicKey rs) rfl rfl rfl rfl (hecdh ie rs) with
    ⟨actOne, ck₁, h₁, _, ⟨t₁, hwrite₁⟩, t₂, hread₁⟩
  -- Act two, from the states that act one left.
  rcases write_read hP hkeys NoiseHandshake.remoteEphemeral (fun _ k => some k)
    (fun _ k => some k) .responderAwaitingActThree .initiatorAwaitingActTwo
    NoiseHandshake.localEphemeral .actTwoBadVersion .actTwoBadPubkey .actTwoBadTag
    { newResponder P rs re with ck := ck₁, h := h₁, remoteEphemeral := some (S.publicKey ie) }
    { newInitiator P is ie (S.publicKey rs) with
      state := .initiatorAwaitingActTwo, ck := ck₁, h := h₁ }
    (S.publicKey ie) rfl rfl rfl rfl (hecdh re ie) with
    ⟨actTwo, ck₂, h₂, k₂, ⟨t₃, hwrite₂⟩, t₄, hread₂⟩
  -- Act three, from the states that act two left.
  rcases build_process hP hkeys
    { newInitiator P is ie (S.publicKey rs) with
      state := .initiatorAwaitingActTwo, ck := ck₂, h := h₂, tempK2 := some k₂,
      remoteEphemeral := some (S.publicKey re) }
    { newResponder P rs re with
      state := .responderAwaitingActThree, ck := ck₂, h := h₂, tempK2 := some k₂,
      remoteEphemeral := some (S.publicKey ie) }
    (S.publicKey re) k₂ rfl rfl rfl rfl rfl rfl (hecdh is re) with
    ⟨actThree, ck₃, h₃, ⟨t₅, hbuild⟩, t₆, hprocess⟩
  have hone : (processActOne P actOne).run (newResponder P rs re) = _ :=
    (Method.bind_eq_ok _ (fun _ => buildActTwo P) _ _ _ _).mpr
      ⟨_, _, _, _, hread₁, hwrite₂, rfl⟩
  have htwo : (processActTwo P actTwo).run { newInitiator P is ie (S.publicKey rs) with
      state := .initiatorAwaitingActTwo, ck := ck₁, h := h₁ } = _ :=
    (Method.bind_eq_ok _ (fun _ => buildActThree P) _ _ _ _).mpr
      ⟨_, _, _, _, hread₂, hbuild, rfl⟩
  -- The ciphers come from one chaining key, and the roles cross the keys.
  have hcipherI := run_intoCipher _ _ _ (run_getFinalKeys (P := P)
    { newInitiator P is ie (S.publicKey rs) with
      state := .complete, ck := ck₃, h := h₃, tempK2 := some k₂,
      remoteEphemeral := some (S.publicKey re) } rfl)
  have hcipherR := run_intoCipher _ _ _ (run_getFinalKeys (P := P)
    { newResponder P rs re with
      state := .complete, ck := ck₃, h := h₃, tempK2 := some k₂,
      remoteEphemeral := some (S.publicKey ie), remoteStatic := some (S.publicKey is) } rfl)
  have hactOne : (getActOne P).run (newInitiator P is ie (S.publicKey rs)) = _ := hwrite₁
  refine ⟨actOne, actTwo, actThree, _, ⟨_, _, _, _, hactOne, htwo⟩,
    ⟨_, _, _, _, _, hone, hprocess, hcipherR⟩, ?_⟩
  intro more s
  -- The daemon runs the acts over the stream, one statement after the other.
  have hread : (TcpStream.readExact actTwoSize).run ⟨actTwo.toList ++ more, [] ++ actOne.toList⟩
      = _ := run_tcpReadExact actTwoSize actTwo more _
  unfold openConnection Dial.honest
  simp only [TcpStream.connect, Method.run_lift_ok_bind]
  rw [Method.run_withLocal_bind_of_ok _ _ _ _ _ _ _ hactOne,
    Method.run_withLocal_bind_of_ok _ _ _ _ _ _ _ (run_writeAll _ actOne.toList),
    Method.run_withLocal_bind_of_ok _ _ _ _ _ _ _ hread]
  dsimp only
  rw [Method.run_withLocal_bind_of_ok _ _ _ _ _ _ _ htwo,
    Method.run_withLocal_bind_of_ok _ _ _ _ _ _ _ (run_writeAll _ actThree.toList),
    Method.run_withLocal_bind_of_ok _ _ _ _ _ _ _ hcipherI]
  exact ⟨_, rfl⟩

/-- The first of the frames that a peer writes is received, and the others are left
    to be read. -/
theorem recv_frame (hP : P.OpensSealed) (c : HalfCipher) (raw : Bytes) (msgs : List Bytes)
    (hraw : raw.length ≤ Noise.maxMessageSize) :
    ∃ c' t, (NoiseReader.recv P).run ⟨(frames P c (raw :: msgs)).flatten, c⟩
      = ⟨.ok raw, ⟨(frames P c' msgs).flatten, c'⟩, t⟩ := by
  rcases encrypt_frame hP c raw hraw with ⟨frame, hframe, t, hrun⟩
  have hcons : frames P c (raw :: msgs) = frame :: frames P ((c.used P).used P) msgs := by
    unfold frames
    rw [Method.calls_cons, hrun]
    rfl
  rcases poll_eq_recv _ _ c _ _ (hframe.whole (frames P ((c.used P).used P) msgs).flatten) with
    ⟨t', hrecv⟩
  rw [hcons, List.flatten_cons]
  exact ⟨_, t', hrecv⟩

/-- Connecting to an honest peer that sends an init and then its messages. The
    daemon's halves are in lockstep with the peer's: its reader has the frames of
    the messages to read, and its writer has written the acts and then the echo of
    the init. -/
theorem connect_honest (hexEncode : Bytes → String) (hP : P.OpensSealed)
    (hkeys : ∀ k : S.PublicKey, S.KeyReparses k) (hecdh : S.EcdhCommutes)
    (is ie rs re : S.SecretKey) (raw : Bytes) (received : Init) (msgs : List Bytes)
    (hraw : raw.length ≤ Noise.maxMessageSize)
    (hinit : (Message.decode raw : Outcome BoltError (Message S)) = .ok (.init received)) :
    ∃ actOne actTwo actThree cipher,
      Initiates P is ie (S.publicKey rs) actOne actTwo actThree
      ∧ Responds P rs re actOne actTwo actThree (S.publicKey is) cipher
      ∧ ∃ writer reader echo,
        (∀ s : σ, ((connect P hexEncode (S.publicKey rs) is (Dial.honest ie actTwo
          (frames P cipher.split.1 (raw :: msgs)).flatten)).run s).outcome
          = .ok (writer, reader, S.publicKey rs))
        ∧ Message.decode echo = .ok (.init (Init.echo received) : Message S)
        ∧ Written P ⟨actOne.toList ++ actThree.toList, cipher.split.2⟩ [echo] writer
        ∧ reader.stream = (frames P reader.cipher msgs).flatten := by
  rcases run_openConnection_honest (σ := σ) hP hkeys hecdh is ie rs re with
    ⟨actOne, actTwo, actThree, cipher, hinitiates, hresponds, hopen⟩
  rcases recv_frame hP cipher.split.1 raw msgs hraw with ⟨c', t', hrecv⟩
  rcases echo_sendable hP raw received hraw hinit with ⟨echo, hecho, hdecode, hlen, hsend, -⟩
  refine ⟨actOne, actTwo, actThree, cipher, hinitiates, hresponds, _,
    ⟨(frames P c' msgs).flatten, c'⟩, echo, ?_, hdecode,
    Written.one ⟨actOne.toList ++ actThree.toList, cipher.split.2⟩ echo hlen, rfl⟩
  -- The init is received, and its echo is sent.
  intro s
  rcases hopen (frames P cipher.split.1 (raw :: msgs)).flatten s with ⟨t, hopened⟩
  unfold connect
  rw [Method.run_bind_of_ok _ _ _ _ _ _ hopened, Return.outcome_after]
  rcases run_exchangeInit (S := S) hexEncode hP .whole (S.publicKey rs) _ _ _ raw echo received t'
    hrecv hinit hecho s with ⟨-, ho⟩ | ⟨e, he, -⟩
  · exact ho
  · exact absurd ((hsend _).symm.trans he) (by simp)

/-- A conversation with an honest peer, from the first act on. The peer accepts the
    acts that the daemon makes and learns the daemon's key, and the daemon returns a
    connection. Whatever happens on it then, as long as ticks complete between frames and
    no write fails: the peer's messages are handed over in order, all of them once
    everything was read, and what the peer has to read behind the acts is the echo of its
    init and then what the three senders sent, once each: the handler the answers to the
    messages handed over, in order, and the timer and the commands what they had to
    send. -/
theorem honest_conversation (hexEncode : Bytes → String) (hP : P.OpensSealed)
    (hkeys : ∀ k : S.PublicKey, S.KeyReparses k) (hecdh : S.EcdhCommutes)
    (is ie rs re : S.SecretKey) (raw : Bytes) (received : Init) (msgs : List Bytes)
    (hraw : raw.length ≤ Noise.maxMessageSize)
    (hinit : (Message.decode raw : Outcome BoltError (Message S)) = .ok (.init received))
    (hmsgs : ∀ m ∈ msgs, 2 ≤ m.length ∧ m.length ≤ Noise.maxMessageSize) (s : σ) :
    ∃ actOne actTwo actThree cipher,
      Initiates P is ie (S.publicKey rs) actOne actTwo actThree
      ∧ Responds P rs re actOne actTwo actThree (S.publicKey is) cipher
      ∧ ∃ writer reader echo,
        ((connect P hexEncode (S.publicKey rs) is (Dial.honest ie actTwo
          (frames P cipher.split.1 (raw :: msgs)).flatten)).run s).outcome
          = .ok (writer, reader, S.publicKey rs)
        ∧ Message.decode echo = .ok (.init (Init.echo received) : Message S)
        ∧ ∀ events session, (∀ e ∈ events, SessionEvent.Whole e) →
          Transition.Guarded (Session.step S P) Session.TickBetweenFrames
            (Session.start writer reader.cipher reader.stream) events →
          Transition.run (Session.step S P) (Session.start writer reader.cipher reader.stream)
            events = some session →
          session.loop.handled <+: msgs ∧ session.loop.status = .running
          ∧ (session.loop.inFlight = [] → session.loop.socket = [] → session.loop.handled = msgs)
          ∧ actOne.toList ++ actThree.toList <+: session.writer.stream
          ∧ ∃ sent : List Sent,
            ReadsExactly P cipher.split.2
              (session.writer.stream.drop (actOneSize + actThreeSize)) (echo :: sent.map Sent.wire)
            ∧ saidBy .handler sent = session.loop.handled.filterMap (answer S)
            ∧ saidBy .timer sent = events.flatMap (SessionEvent.utters S .timer)
            ∧ saidBy .command sent = events.flatMap (SessionEvent.utters S .command) := by
  rcases connect_honest hexEncode hP hkeys hecdh is ie rs re raw received msgs hraw hinit with
    ⟨actOne, actTwo, actThree, cipher, hinitiates, hresponds, writer, reader, echo, hok, hdecode,
      hwritten, hstream⟩
  refine ⟨actOne, actTwo, actThree, cipher, hinitiates, hresponds, writer, reader, echo, hok s,
    hdecode, ?_⟩
  intro events session hwhole htick hrun
  rw [hstream] at htick hrun
  rcases run_spoken hP writer reader.cipher _ events session hwhole hrun with ⟨sent, hspoken⟩
  have haligned := run_session_aligned hP writer reader.cipher msgs hmsgs events session hwhole
    htick hrun
  rcases aligned_served hP reader.cipher msgs hmsgs session.loop haligned hspoken.handlerKept
    hspoken.timerKept with ⟨horder, hrunning, hall⟩
  -- Behind the acts, the writer has sent the echo and then the rest.
  have hboth := Written.append _ writer session.writer _ _ hwritten hspoken.written
  have hreads := written_reads_exactly hP _ session.writer _ hboth
  have hacts : (actOne.toList ++ actThree.toList).length = actOneSize + actThreeSize := by
    rw [List.length_append, actOne.toList_length, actThree.toList_length]
  rw [hacts] at hreads
  exact ⟨horder, hrunning, hall, written_grows _ _ _ hboth, sent, hreads, hspoken.byHandler,
    hspoken.byOthers .timer (by decide), hspoken.byOthers .command (by decide)⟩

/-- A peer that sends an init without features and then a ping and a pong. The timer and
    a command send something before the pong is handed over. -/
theorem honest_conversation_ping :
    let key : UInt8 → Secp256k1.transparent.SecretKey := List.Vector.replicate 32
    let msgs : List Bytes := [[0, 18, 0, 3, 0, 0], [0, 19, 0, 0]]
    let events : List SessionEvent := [.tick .whole, .arrive 40, .poll .whole,
      .command .whole [0, 1, 9], .arrive 38, .poll .whole]
    ∃ (actTwo : ByteArr actTwoSize) (cipher : NoiseCipher) (writer : NoiseWriter)
      (reader : NoiseReader) (session : Session) (echo : Bytes) (sent : List Sent),
      ((connect .transparent (fun _ => "") (Secp256k1.transparent.publicKey (key 3)) (key 1)
        (Dial.honest (key 2) actTwo (frames .transparent cipher.split.1
          ([0, 16, 0, 0, 0, 0] :: msgs)).flatten)).run ()).outcome
        = .ok (writer, reader, Secp256k1.transparent.publicKey (key 3))
      ∧ Transition.run (Session.step .transparent .transparent)
        (Session.start writer reader.cipher reader.stream) events = some session
      ∧ session.loop.handled = msgs
      ∧ Message.decode echo = .ok (.init ⟨[], [], ⟨none, none⟩⟩ : Message .transparent)
      ∧ ReadsExactly .transparent cipher.split.2
        (session.writer.stream.drop (actOneSize + actThreeSize)) (echo :: sent.map Sent.wire)
      ∧ saidBy .handler sent = [[0, 19, 0, 3, 0, 0, 0]]
      ∧ saidBy .timer sent = [[0, 18, 0, 1, 0, 0]]
      ∧ saidBy .command sent = [[0, 1, 9]] := by
  intro key msgs events
  rcases honest_conversation (S := .transparent) (σ := Unit) (fun _ => "")
    Primitives.transparent_opensSealed Secp256k1.transparent_parsesSerialized.key
    Secp256k1.transparent_ecdhCommutes (key 1) (key 2) (key 3) (key 5) [0, 16, 0, 0, 0, 0]
    ⟨[], [], ⟨none, none⟩⟩ msgs (by decide) rfl (by decide) () with
    ⟨actOne, actTwo, actThree, cipher, ⟨i₁, i₂, t₁, t₂, hone, htwo⟩,
      ⟨r₁, r₂, t₃, t₄, t₅, hanswer, hthree, hcipher⟩, writer, reader, echo, hok, hdecode,
      hsession⟩
  -- Every act is computed from those before it, and so are the connection and the run.
  have hsome : (do
      let written := (getActOne .transparent).run
        (newInitiator .transparent (key 1) (key 2) (Secp256k1.transparent.publicKey (key 3)))
      let actOne ← written.outcome.toOption
      let answered := (processActOne .transparent actOne).run
        (newResponder .transparent (key 3) (key 5))
      let actTwo ← answered.outcome.toOption
      let actThree ← ((processActTwo .transparent actTwo).run written.state).outcome.toOption
      let accepted := (processActThree .transparent actThree).run answered.state
      let cipher ← ((intoCipher .transparent).run accepted.state).outcome.toOption
      let (writer, reader, _) ← ((connect .transparent (fun _ => "")
        (Secp256k1.transparent.publicKey (key 3)) (key 1) (Dial.honest (key 2) actTwo
          (frames .transparent cipher.split.1 ([0, 16, 0, 0, 0, 0] :: msgs)).flatten)).run
        ()).outcome.toOption
      if Transition.Guarded (Session.step .transparent .transparent) Session.TickBetweenFrames
          (Session.start writer reader.cipher reader.stream) events then
        (Transition.run (Session.step .transparent .transparent)
          (Session.start writer reader.cipher reader.stream) events).filter
            fun s => s.loop.inFlight = [] ∧ s.loop.socket = []
      else none : Option Session).isSome := by
    decide +kernel
  simp only [hone, hanswer, htwo, hthree, hcipher, hok, Outcome.toOption, Option.bind_eq_bind,
    Option.bind_some] at hsome
  by_cases htick : Transition.Guarded (Session.step .transparent .transparent)
    Session.TickBetweenFrames (Session.start writer reader.cipher reader.stream) events
  · rw [if_pos htick] at hsome
    rcases Option.isSome_iff_exists.mp hsome with ⟨session, hfilter⟩
    rcases (Option.filter_eq_some_iff).mp hfilter with ⟨hrun, hempty⟩
    rcases decide_eq_true_eq.mp hempty with ⟨hflight, hsocket⟩
    have hwhole : ∀ e ∈ events, e.Whole := by
      intro e he
      simp only [events, List.mem_cons, List.not_mem_nil, or_false] at he
      rcases he with rfl | rfl | rfl | rfl | rfl | rfl <;> first | rfl | trivial
    rcases hsession events session hwhole htick hrun with
      ⟨-, -, hall, -, sent, hreads, hhandler, htimer, hcommand⟩
    rw [hall hflight hsocket] at hhandler
    exact ⟨actTwo, cipher, writer, reader, session, echo, sent, hok, hrun, hall hflight hsocket,
      hdecode, hreads, hhandler, htimer, hcommand⟩
  · rw [if_neg htick] at hsome
    exact absurd hsome (by simp)

end

end Simd

end LnGossipSim
