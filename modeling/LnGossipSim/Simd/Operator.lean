import LnGossipSim.Simd.Forwarding
import LnGossipSim.Simd.HonestPeer
import LnGossipSim.Simd.Server

/-!
# From the Operator to the Peer

All layers at once, from a line on the control socket to the peer at the other end. The
peer is an honest responder. A `connect` line dials it, runs the handshake, exchanges the
inits and registers the connection. After that come any lines of any sessions, and the
replies and pings of the readers. Then a `sendmessage` line gives a message, and the peer
reads it with the cipher that its own side of the handshake made.

Two facts meet here. The connection that is registered has a writer in lockstep with the
peer's cipher, which has sent the echo of the peer's init. And whatever is done for lines
only sends on it, so the peer reads all that was sent in between and then the message.

## Theorems

* `yields_cmdConnect`: What a `connect` command leaves that succeeds.
* `sentOn_connected`: The writer that is registered.
* `operator_reaches_peer`: The peer reads what an operator gave.
-/

namespace LnGossipSim

namespace Simd

open Bolt Method Noise

section

variable {S : Secp256k1} [DecidableEq S.PublicKey] {C : ControlCrates S} {W : Surroundings C}
  {P : Primitives} {L : BitcoinCrate S}

/-- A `connect` command that connects registers the connection under the next number. -/
theorem yields_cmdConnect (command keyWord addrWord : String) (pubkey : S.PublicKey)
    (addr : C.SocketAddr) (our : S.SecretKey) (hkey : parsePubkey C keyWord = some pubkey)
    (haddr : C.parseSocketAddr addrWord = some addr) (hour : C.secretFromSlice seed = some our)
    (writer : NoiseWriter) (reader : NoiseReader) (s : Server S L.Address)
    (hconnect : Yields (connect P C.hexEncode pubkey our (W.dial addr pubkey) :
      NoiseMethod (Server S L.Address) _ _) s (writer, reader, pubkey) s) :
    let key := C.keyText pubkey
    Yields (cmdConnect C W P L [command, keyWord, addrWord]) s s!"Connected to {key}\n"
      { s with shared := (W.others 0 s.shared).connected (W.others 1) pubkey writer } := by
  intro key
  have hwords : ¬ [command, keyWord, addrWord].length ≠ 3 := not_not.mpr rfl
  let met : Server S L.Address := { s with shared := W.others 0 s.shared }
  unfold cmdConnect nodeSecret
  simp only [yields_bind, yields_lift, yields_orReturn, yields_mapErr, yields_noting,
    yields_waiting, yields_get, yields_modify, yields_record, yields_pure,
    List.getElem?_cons_succ, List.getElem?_cons_zero, Outcome.expect_eq_ok, Option.some.injEq,
    Outcome.rejectIf_eq_ok]
  -- Each statement in order, with what it found and the state it left.
  exact ⟨(), s, ⟨hwords, rfl⟩, keyWord, s, ⟨rfl, rfl⟩, pubkey, s, ⟨hkey, rfl⟩, addrWord, s,
    ⟨rfl, rfl⟩, addr, s, ⟨haddr, rfl⟩, our, s, ⟨hour, rfl⟩, (writer, reader, pubkey), s, hconnect,
    (), met, rfl, met, met, ⟨rfl, rfl⟩, (), _, rfl, (), _, rfl, (), _, rfl, (), _, rfl, rfl, rfl⟩

/-- The writer of a new connection is the one that connecting made, and what the other
    tasks sent on it since. -/
theorem sentOn_connected (others : Shared S → Shared S) (pubkey : S.PublicKey)
    (writer : NoiseWriter) (sh : Shared S) (hothers : ∀ sh, SendsOnly P sh (others sh)) :
    let sh' := sh.connected others pubkey writer
    let i := sh.connections.length
    SentOn P writer (sh'.writers i) ∧ i < sh'.connections.length := by
  intro sh' i
  let made := sh.spawn pubkey writer
  have hlater := hothers made
  have hmade : made.writers i = writer := Function.update_self _ _ _
  have hnew : i < made.connections.length := by
    rw [Shared.length_spawn]
    exact Nat.lt_succ_self _
  have hsent := hlater.2 i hnew
  rw [hmade] at hsent
  refine ⟨hsent, ?_⟩
  change i < (Shared.insert _ _ _).connections.length
  rw [Shared.length_insert]
  exact Nat.lt_of_lt_of_le hnew hlater.1

end

section

variable {S : Secp256k1} [DecidableEq S.PublicKey] {C : ControlCrates S} {P : Primitives}
  {E : Signing S} {L : BitcoinCrate S}

/-- A message that is written after others is read after them, when none of them
    failed. -/
theorem sentOn_reads_last (hP : P.OpensSealed) (w : NoiseWriter)
    (between : List (WriteResult × Bytes)) (echo wire : Bytes)
    (hecho : echo.length ≤ Noise.maxMessageSize) (hwire : wire.length ≤ Noise.maxMessageSize)
    (hwhole : ∀ message ∈ between, message.1 = .whole) :
    let w' := (calls (sendOne P) ((.whole, echo) :: between ++ [(.whole, wire)]) w).state
    let wires := echo :: ((between.map Prod.snd).filter fun wire =>
      wire.length ≤ Noise.maxMessageSize) ++ [wire]
    (calls (fun _ : Bytes => NoiseReader.recv P) wires
      ⟨w'.stream.drop w.stream.length, w.cipher⟩).outcomes = wires.map .ok := by
  intro w' wires
  have hall : ∀ message ∈ ((.whole, echo) :: between ++ [(.whole, wire)] :
      List (WriteResult × Bytes)), message.1 = .whole := by
    intro message hmessage
    rcases List.mem_append.mp hmessage with hfront | hlast
    · rcases List.mem_cons.mp hfront with rfl | hmem
      · rfl
      · exact hwhole message hmem
    · rw [List.mem_singleton.mp hlast]
  have hreads := sentOn_reads hP w _ [] hall
  rw [List.append_nil] at hreads
  -- The first and the last of them fit a frame.
  have hwires : ((((.whole, echo) :: between ++ [(.whole, wire)] :
      List (WriteResult × Bytes)).map Prod.snd).filter fun wire =>
        wire.length ≤ Noise.maxMessageSize) = wires := by
    rw [List.cons_append, List.map_cons, List.map_append, List.filter_cons_of_pos (by simpa),
      List.filter_append, List.map_singleton, List.filter_singleton]
    simp only [hwire, decide_true]
    rfl
  rw [hwires] at hreads
  exact hreads

/-- A line leaves what its command leaves. -/
theorem state_act (nodeId : S.PublicKey) (turn : Turn C L.Address) (s : Server S L.Address) :
    ((turn.act P E L nodeId).run s).state
      = ((runCommand C turn.surroundings P E L turn.bitcoind nodeId
        (splitWhitespace turn.line)).run { s with shared := turn.idle s.shared }).state := by
  unfold Turn.act handleCommand
  rw [run_modify_bind, run_bind, run_attempt]
  cases ((runCommand C turn.surroundings P E L turn.bitcoind nodeId
    (splitWhitespace turn.line)).run { s with shared := turn.idle s.shared }).outcome with
  | ok reply => rfl
  | err reply => rfl
  | panicked => rfl
  | diverged => rfl

/-- What an operator gives to the daemon reaches an honest peer that it connected to.
    The peer accepts the acts that the daemon makes and learns its key, and the `connect` command
    registers the connection. Whatever lines come then, of any sessions, and whatever the
    other tasks send: a message that is forwarded on this connection is what the operator
    meant, and if no write on it failed, the peer reads it with the cipher of its own
    handshake, behind the echo of its init and all that was sent in between. -/
theorem operator_reaches_peer (hP : P.OpensSealed) (hS : S.SerializesParsed)
    (hkeys : ∀ k : S.PublicKey, S.KeyReparses k) (hecdh : S.EcdhCommutes) (nodeId : S.PublicKey)
    (our ie rs re : S.SecretKey) (hour : C.secretFromSlice seed = some our)
    (keyWord addrWord : String) (hkey : parsePubkey C keyWord = some (S.publicKey rs))
    (addr : C.SocketAddr) (haddr : C.parseSocketAddr addrWord = some addr) (raw : Bytes)
    (received : Init) (msgs : List Bytes) (hraw : raw.length ≤ Noise.maxMessageSize)
    (hinit : (Message.decode raw : Outcome BoltError (Message S)) = .ok (.init received)) :
    ∃ actOne actTwo actThree cipher echo,
      Initiates P our ie (S.publicKey rs) actOne actTwo actThree
      ∧ Responds P rs re actOne actTwo actThree (S.publicKey our) cipher
      ∧ Message.decode echo = .ok (.init (Init.echo received) : Message S)
      ∧ ∀ (W : Surroundings C) (B : Bitcoind L.Address) (s : Server S L.Address),
        W.dial addr (S.publicKey rs)
          = Dial.honest ie actTwo (frames P cipher.split.1 (raw :: msgs)).flatten →
        (∀ n sh, SendsOnly P sh (W.others n sh)) →
        let key := C.keyText (S.publicKey rs)
        let connected := (runCommand C W P E L B nodeId ["connect", keyWord, addrWord]).run s
        let j := (W.others 0 s.shared).connections.length
        connected.outcome = .ok s!"Connected to {key}\n"
        ∧ connected.state.shared.peers.get (S.publicKey rs) = some j
        ∧ ∀ turns : List (Turn C L.Address), (∀ turn ∈ turns, turn.KeepsWriters P) →
          let s' := (calls (Turn.act P E L nodeId) turns connected.state).state
          ∀ (W' : Surroundings C) (B' : Bitcoind L.Address) parts f,
            (∀ n sh, SendsOnly P sh (W'.others n sh)) → W'.written = .whole →
            parts.head? = some "sendmessage" → Forwards C W' s'.shared parts f →
            f.connection = j →
            let start : NoiseWriter := ⟨actOne.toList ++ actThree.toList, cipher.split.2⟩
            let w' := ((runCommand C W' P E L B' nodeId parts).run s').state.shared.writers j
            let sends between := (calls (sendOne P)
              ((.whole, echo) :: between ++ [(.whole, f.wire)]) start).state
            Message.decode f.wire = .ok f.message ∧ (∃ between, w' = sends between)
            ∧ ∀ between, w' = sends between → (∀ message ∈ between, message.1 = .whole) →
              let wires := echo :: ((between.map Prod.snd).filter fun wire =>
                wire.length ≤ Noise.maxMessageSize) ++ [f.wire]
              (calls (fun _ : Bytes => NoiseReader.recv P) wires
                ⟨w'.stream.drop (actOneSize + actThreeSize), cipher.split.2⟩).outcomes
                = wires.map .ok := by
  rcases connect_honest (σ := Server S L.Address) C.hexEncode hP hkeys hecdh our ie rs re raw
    received msgs hraw hinit with
    ⟨actOne, actTwo, actThree, cipher, hinitiates, hresponds, writer, reader, echo, hok,
      hdecode, hwritten, -⟩
  refine ⟨actOne, actTwo, actThree, cipher, echo, hinitiates, hresponds, hdecode,
    fun W B s hdial hothers => ?_⟩
  intro key connected j
  have hconnect : Yields (connect P C.hexEncode (S.publicKey rs) our
      (W.dial addr (S.publicKey rs)) : NoiseMethod (Server S L.Address) _ _) s
      (writer, reader, S.publicKey rs) s := by
    rw [hdial]
    exact ⟨hok s, (moves_connect Eq P _ _ _ _ s).symm⟩
  have hyields := yields_cmdConnect (L := L) "connect" keyWord addrWord (S.publicKey rs) addr our
    hkey haddr hour writer reader s hconnect
  have hstate : connected.state = _ := hyields.2
  refine ⟨hyields.1, ?_, ?_⟩
  · rw [hstate]
    change (Shared.insert _ _ _).peers.get _ = _
    rw [Shared.get_insert, Function.update_self]
  intro turns hturns s' W' B' parts f hothers' hwhole hparts hf hconnection start w' sends
  rcases sentOn_connected (W.others 1) (S.publicKey rs) writer (W.others 0 s.shared)
    (hothers 1) with ⟨hregistered, hnumber⟩
  -- The lines and the wait of the command only send on the connection.
  have hlines : OnShared (SendsOnly P) connected.state s' := calls_moves (OnShared (SendsOnly P)) _
    turns (fun turn hturn => sendsOnly_act nodeId turn (hturns turn hturn)) connected.state
  have hlater : SendsOnly P connected.state.shared (W'.others 2 (W'.others 0 s'.shared)) :=
    trans_of (SendsOnly P) hlines (trans_of (SendsOnly P) (hothers' 0 _) (hothers' 2 _))
  rw [hstate] at hlater
  rcases trans_of (SentOn P) hregistered (hlater.2 j hnumber) with ⟨between, hbetween⟩
  -- The writer that was registered had sent the echo.
  have hecho : ((sendOne P (.whole, echo)).run start).state = writer := hwritten.2
  have hw' : w' = sends between := by
    have hrun : w' = ((cmdSendMessage C W' P L parts).run s').state.shared.writers j :=
      congrArg (fun m => (Method.run m s').state.shared.writers j)
        (runCommand_sendmessage nodeId parts hparts)
    have hsends : sends between = ((sendOne P (.whole, f.wire)).run
        (calls (sendOne P) between ((sendOne P (.whole, echo)).run start).state).state).state := by
      change (calls (sendOne P) ((.whole, echo) :: between ++ [(.whole, f.wire)]) start).state = _
      rw [List.cons_append, calls_cons, calls_append]
      rfl
    rw [hrun, (run_cmdSendMessage hP parts s' f hf).1, hwhole, hconnection, hsends, hecho,
      ← hbetween]
    exact Function.update_self _ _ _
  have hwire : Message.decode f.wire = .ok f.message := by
    rcases Message.reencode hS f.bytes f.message hf.decodes with ⟨-, -, wire, hwire, -, -, h, -⟩
    rw [hf.encodes, Outcome.ok.injEq] at hwire
    rw [hwire]
    exact h
  refine ⟨hwire, ⟨between, hw'⟩, fun between hsends hall => ?_⟩
  have hacts : start.stream.length = actOneSize + actThreeSize := by
    change (actOne.toList ++ actThree.toList).length = _
    rw [List.length_append, actOne.toList_length, actThree.toList_length]
  rw [hsends, ← hacts]
  exact sentOn_reads_last hP start between echo f.wire
    (hwritten.1 echo List.mem_cons_self) hf.fits hall

end

/-- A pong that is given to a peer without features, which has a pong of its own on its
    way, after a line that sent it a ping. -/
theorem operator_reaches_peer_pong :
    let secret : UInt8 → Secp256k1.transparent.SecretKey := List.Vector.replicate 32
    let key := Secp256k1.transparent.publicKey (secret 3)
    let command (W : Surroundings ControlCrates.transparent) (parts : List String) :=
      runCommand .transparent W .transparent .transparent .transparent .sample key parts
    let ping : Turn ControlCrates.transparent String :=
      .alone ("sendmessage " ++ hexText key.toList ++ " 001200010000")
    ∃ (dial : Dial Secp256k1.transparent) (start : NoiseWriter) (echo : Bytes) (between : _),
      let connected := (command { Surroundings.quiet with dial := fun _ _ => dial }
        ["connect", hexText key.toList, "localhost"]).run Server.idle
      let pinged := (calls (Turn.act .transparent .transparent .transparent key) [ping]
        connected.state).state
      let sent := (command .quiet ["sendmessage", hexText key.toList, "00130000"]).run pinged
      let w' := sent.state.shared.writers 0
      w' = (calls (sendOne .transparent) ((.whole, echo) :: between ++ [(.whole, [0, 19, 0, 0])])
        start).state
      ∧ ((∀ message ∈ between, message.1 = .whole) →
        let wires := echo :: ((between.map Prod.snd).filter fun wire =>
          wire.length ≤ Noise.maxMessageSize) ++ [[0, 19, 0, 0]]
        (calls (fun _ : Bytes => NoiseReader.recv .transparent) wires
          ⟨w'.stream.drop (actOneSize + actThreeSize), start.cipher⟩).outcomes
          = wires.map .ok) := by
  intro secret key command ping
  have hparse : parsePubkey ControlCrates.transparent (hexText key.toList) = some key := by
    decide +kernel
  have hquiet : ∀ sh : Shared Secp256k1.transparent, SendsOnly .transparent sh sh :=
    refl_of (SendsOnly .transparent)
  rcases operator_reaches_peer (C := .transparent) (E := .transparent) (L := .transparent)
    Primitives.transparent_opensSealed Secp256k1.transparent_serializesParsed
    Secp256k1.transparent_parsesSerialized.key Secp256k1.transparent_ecdhCommutes key seed
    (secret 2) (secret 3) (secret 5) (transparent_secretFromSlice seed (by decide +kernel))
    (hexText key.toList) "localhost" hparse "localhost" rfl [0, 16, 0, 0, 0, 0]
    ⟨[], [], ⟨none, none⟩⟩ [[0, 19, 0, 0]] (by decide) rfl with
    ⟨actOne, actTwo, actThree, cipher, echo, -, -, -, hconnects⟩
  let dial : Dial Secp256k1.transparent := Dial.honest (secret 2) actTwo
    (frames .transparent cipher.split.1 [[0, 16, 0, 0, 0, 0], [0, 19, 0, 0]]).flatten
  rcases hconnects { Surroundings.quiet with dial := fun _ _ => dial } .sample Server.idle rfl
    fun _ => hquiet with ⟨-, hentry, hlines⟩
  have hwords : splitWhitespace ping.line
      = ["sendmessage", hexText key.toList, "001200010000"] := by
    decide +kernel
  -- The line between them sends on the connection and leaves the map as it is.
  have hping : ∀ s : Server .transparent String, s.shared.peers.get key = some 0 →
      (calls (Turn.act .transparent .transparent .transparent key) [ping] s).state.shared.peers.get
        key = some 0 := by
    intro s hs
    have hforward : Forwards .transparent .quiet s.shared
        ["sendmessage", hexText key.toList, "001200010000"]
        ⟨key, [0, 18, 0, 1, 0, 0], .ping ⟨1, []⟩, [0, 18, 0, 1, 0, 0], 0⟩ :=
      ⟨⟨_, _, _, rfl, hparse, by decide +kernel⟩, rfl, fun _ _ h => (nomatch h), by decide +kernel,
        hs, by decide⟩
    have hact := state_act (P := .transparent) (E := .transparent) (L := .transparent) key ping s
    rw [hwords, runCommand_sendmessage key _ rfl] at hact
    have hrun := (run_cmdSendMessage (L := .transparent) Primitives.transparent_opensSealed _ s _
      hforward).1
    have hpeers := congrArg (fun sh => sh.peers.get key) hrun
    exact (congrArg (fun s => s.shared.peers.get key) hact).trans (hpeers.trans hs)
  have hf : Forwards .transparent .quiet _ ["sendmessage", hexText key.toList, "00130000"]
      ⟨key, [0, 19, 0, 0], .pong ⟨[]⟩, [0, 19, 0, 0], 0⟩ :=
    ⟨⟨_, _, _, rfl, hparse, by decide +kernel⟩, rfl, fun _ _ h => (nomatch h), by decide +kernel,
      hping _ hentry, by decide⟩
  have hkeeps : ∀ turn ∈ [ping], turn.KeepsWriters .transparent := by
    intro turn hturn
    rw [List.mem_singleton.mp hturn]
    exact ⟨hquiet, fun _ => hquiet⟩
  rcases hlines [ping] hkeeps .quiet .sample _ _ (fun _ => hquiet) rfl rfl hf rfl with
    ⟨-, ⟨between, hbetween⟩, hreads⟩
  exact ⟨dial, ⟨actOne.toList ++ actThree.toList, cipher.split.2⟩, echo, between, hbetween,
    hreads between hbetween⟩

end Simd

end LnGossipSim
