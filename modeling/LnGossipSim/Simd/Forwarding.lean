import LnGossipSim.Simd.Announcing

/-!
# Forwarding a Message

What becomes of a message that an operator gives to the `sendmessage` command. It is
decoded and encoded again, so that the peer gets what the daemon understood of it. A
message that is carried out as far as its write is read by the peer, which decodes it
to what the operator meant. It has the same type, is no longer, and keeps all that the
message has fields for.

The command has many places where it returns early. All of them come before the write,
so a message is written in full or not begun, unless the socket itself fails. When it
cannot be forwarded, the command is followed from one of these places to the next, and
at each of them it either returns or has found what a message needs there.

## Main definitions

* `Forward`: A message on its way from an operator to a peer.
* `Forwards`: The command gets as far as writing it.
* `OnlyWaited`: The command did nothing but wait.

## Theorems

* `run_cmdSendMessage`: What the command does then.
* `returns_cmdSendMessage`: Otherwise it returns early.
* `message_forwarded`: What becomes of a message.
-/

namespace LnGossipSim

namespace Simd

open BigEndian Bolt Method Noise

/-- A message on its way: from the bytes an operator gave to the bytes that are written
    on the connection of a peer. -/
structure Forward (S : Secp256k1) where
  peer : S.PublicKey
  bytes : Bytes
  message : Message S
  wire : Bytes
  connection : Nat

section

variable {S : Secp256k1} [DecidableEq S.PublicKey]

/-- The command gets as far as writing: its words are a key and a message that decodes
    to one of a known type, the peer is connected, and the encoding fits a frame. -/
structure Forwards (C : ControlCrates S) (W : Surroundings C) (sh : Shared S)
    (parts : List String) (f : Forward S) : Prop where
  words : ∃ command keyWord hexWord, parts = [command, keyWord, hexWord]
    ∧ parsePubkey C keyWord = some f.peer ∧ C.hexDecode hexWord = some f.bytes
  decodes : Message.decode f.bytes = .ok f.message
  known : ∀ msgType payload, f.message ≠ .unknown msgType payload
  encodes : f.message.encode = .ok f.wire
  connected : (W.others 0 sh).peers.get f.peer = some f.connection
  fits : f.wire.length ≤ Noise.maxMessageSize

end

section

variable {S : Secp256k1} {C : ControlCrates S} {W : Surroundings C} {P : Primitives}
  {Address : Type}

/-- The messages that are forwarded are those of a known type. -/
theorem sendMessageWire_eq_ok_iff (bytes wire : Bytes) :
    sendMessageWire S bytes = .ok wire ↔ ∃ m : Message S, Message.decode bytes = .ok m
      ∧ (∀ msgType payload, m ≠ .unknown msgType payload) ∧ m.encode = .ok wire := by
  constructor
  · intro h
    rcases Message.sendMessageWire_eq_ok bytes wire h with ⟨m, hdecode, hencode⟩
    refine ⟨m, hdecode, fun msgType payload hm => ?_, hencode⟩
    unfold sendMessageWire at h
    rw [hdecode, hm] at h
    exact nomatch h
  · rintro ⟨m, hdecode, hknown, hencode⟩
    unfold sendMessageWire
    rw [hdecode]
    cases m with
    | unknown msgType payload => exact absurd rfl (hknown msgType payload)
    | _ => exact (Outcome.mapErr_eq_ok _ _ _).mpr hencode

/-- The first two bytes of an encoding are the type. -/
theorem wire_type (m : Message S) (wire : Bytes) (h : m.encode = .ok wire) :
    ∃ hi lo rest, wire = hi :: lo :: rest ∧ UInt16.ofNat (beNat [hi, lo]) = m.msgType := by
  rw [Message.encode_eq, Outcome.ok.injEq] at h
  have hhead : (WireFormat.write m.msgType).length = 2 := write_uInt16_length _
  have hvalue := Message.beNat_write_msgType m.msgType
  rcases hwrite : WireFormat.write m.msgType with _ | ⟨hi, _ | ⟨lo, _ | ⟨more, rest⟩⟩⟩
  · rw [hwrite] at hhead
    exact nomatch hhead
  · rw [hwrite] at hhead
    exact nomatch hhead
  · rw [hwrite] at h hvalue
    refine ⟨hi, lo, m.bodyBytes, h.symm, ?_⟩
    rw [hvalue, UInt16.ofNat_toNat]
  · rw [hwrite] at hhead
    exact nomatch hhead

/-- Sending on a connection ends well when the write is whole, and in an error
    otherwise, if the message fits. -/
theorem outcome_send (hP : P.OpensSealed) (result : WriteResult) (wire : Bytes)
    (hfits : wire.length ≤ Noise.maxMessageSize) (w : NoiseWriter) :
    (result = .whole ∧ ((NoiseWriter.send P result wire).run w).outcome = .ok ())
      ∨ (result ≠ .whole ∧ ∃ e, ((NoiseWriter.send P result wire).run w).outcome = .err e) := by
  by_cases hwhole : result = .whole
  · rw [hwhole]
    exact Or.inl ⟨rfl, (send_accepts_iff hP wire w).mpr hfits⟩
  · refine Or.inr ⟨hwhole, ?_⟩
    have hsettles := send_settles hP result wire w
    cases houtcome : ((NoiseWriter.send P result wire).run w).outcome with
    | ok u => exact absurd (whole_of_sent result wire w houtcome).1 hwhole
    | err e => exact ⟨e, rfl⟩
    | panicked => exact absurd houtcome hsettles.1
    | diverged => exact absurd houtcome hsettles.2

theorem run_sendToPeer (connection : Nat) (wire : Bytes) (s : Server S Address) :
    let sh := W.others 2 s.shared
    let sent := (NoiseWriter.send P W.written wire).run (sh.writers connection)
    (sendToPeer C W P connection wire : CommandMethod S Address Unit).run s
      = ⟨sent.outcome.mapErr fun e =>
            let text := e.text
            s!"Send failed: {text}\n",
          { s with shared := sh.send P W.written connection wire },
          sent.trace.map .primitive⟩ := by
  intro sh sent
  unfold sendToPeer waiting
  rw [run_modify_bind]
  rfl

variable [DecidableEq S.PublicKey] {L : BitcoinCrate S}

/-- What the command does when it gets as far as writing. -/
theorem run_cmdSendMessage (hP : P.OpensSealed) (parts : List String) (s : Server S L.Address)
    (f : Forward S) (h : Forwards C W s.shared parts f) :
    let later := W.others 2 (W.others 0 s.shared)
    let run := (cmdSendMessage C W P L parts).run s
    let key := C.keyText f.peer
    run.state.shared = later.send P W.written f.connection f.wire
      ∧ (W.written = .whole →
        run.outcome = .ok s!"Sent message type {f.message.msgType} to {key}\n")
      ∧ (W.written ≠ .whole → ∃ reply, run.outcome = .err reply) := by
  intro later run key
  rcases h.words with ⟨command, keyWord, hexWord, rfl, hkey, hbytes⟩
  have hwire : sendMessageWire S f.bytes = .ok f.wire :=
    (sendMessageWire_eq_ok_iff _ _).mpr ⟨f.message, h.decodes, h.known, h.encodes⟩
  rcases wire_type f.message f.wire h.encodes with ⟨hi, lo, rest, hbegins, htype⟩
  -- Nothing returns early before the write.
  have hrun : run = (sendToPeer C W P f.connection f.wire >>= fun _ =>
      pure s!"Sent message type {f.message.msgType} to {key}\n" :
        CommandMethod S L.Address String).run { s with shared := W.others 0 s.shared } := by
    have hwords : ¬ [command, keyWord, hexWord].length ≠ 3 := not_not.mpr rfl
    change (cmdSendMessage C W P L [command, keyWord, hexWord]).run s = _
    unfold cmdSendMessage connectedPeer waiting orReturn
    simp only [Outcome.rejectIf_of_not _ _ hwords, List.getElem?_cons_succ,
      List.getElem?_cons_zero, Outcome.expect_some, hkey, hbytes, Outcome.okOr_some, hwire,
      Outcome.mapErr_ok, lift_ok, pure_bind, bind_assoc, run_modify_bind, run_get_bind,
      h.connected, hbegins, htype]
    rfl
  rw [hrun, run_bind, run_sendToPeer]
  rcases outcome_send hP W.written f.wire h.fits (later.writers f.connection) with
    ⟨hwhole, hsent⟩ | ⟨hfailed, e, hsent⟩
  · simp only [show W.others 2 (W.others 0 s.shared) = later from rfl, hsent, Outcome.mapErr_ok]
    exact ⟨rfl, fun _ => rfl, fun hfailed => absurd hwhole hfailed⟩
  · simp only [show W.others 2 (W.others 0 s.shared) = later from rfl, hsent, Outcome.mapErr_err]
    exact ⟨trivial, fun hwhole => absurd hwhole hfailed, fun _ => ⟨_, rfl⟩⟩

end

section

variable {S : Secp256k1} {C : ControlCrates S} {W : Surroundings C} {P : Primitives}
  {Address : Type}

/-- Nothing happened since the state but what the other tasks did while the command
    waited for the peers map, and for the writer after that. -/
def OnlyWaited (W : Surroundings C) (s s' : Server S Address) : Prop :=
  s'.shared = s.shared ∨ s'.shared = W.others 0 s.shared
    ∨ s'.shared = W.others 2 (W.others 0 s.shared)

/-- Sending what does not fit changes nothing. -/
theorem returns_sendToPeer (connection : Nat) (wire : Bytes) (s : Server S Address)
    (hlong : Noise.maxMessageSize < wire.length) :
    Returns (sendToPeer C W P connection wire : CommandMethod S Address Unit) s
      fun s' => s'.shared = W.others 2 s.shared := by
  have hsend := send_oversized (P := P) W.written wire ((W.others 2 s.shared).writers connection)
    hlong
  unfold Returns
  rw [run_sendToPeer, hsend]
  refine ⟨⟨_, rfl⟩, ?_⟩
  unfold Shared.send
  simp only [hsend, Function.update_eq_self]

variable [DecidableEq S.PublicKey] {L : BitcoinCrate S}

/-- A peer that is not connected is noticed after waiting for the map. -/
theorem returns_connectedPeer (peer : S.PublicKey) (s : Server S Address)
    {Left : Server S Address → Prop} (hentry : (W.others 0 s.shared).peers.get peer = none)
    (hleft : Left { s with shared := W.others 0 s.shared }) :
    Returns (connectedPeer C W peer : CommandMethod S Address Nat) s Left := by
  let met : Server S Address := { s with shared := W.others 0 s.shared }
  unfold connectedPeer orReturn
  refine returns_second _ _ s met () ((yields_waiting _ _ _ _).mpr rfl) ?_
  refine returns_second _ _ met met met ⟨rfl, rfl⟩ ?_
  rw [hentry]
  exact ⟨⟨_, rfl⟩, hleft⟩

/-- A message that cannot be forwarded is refused at one of the places before the
    write. -/
theorem returns_cmdSendMessage (parts : List String) (s : Server S L.Address)
    (h : ¬ ∃ f, Forwards C W s.shared parts f) :
    Returns (cmdSendMessage C W P L parts) s (OnlyWaited W s) := by
  have hstay : OnlyWaited W s s := Or.inl rfl
  unfold cmdSendMessage orReturn
  refine returns_lift_bind _ _ s (Outcome.settles_rejectIf _ _) hstay fun _ hwords => ?_
  rw [Outcome.rejectIf_eq_ok, not_not] at hwords
  rcases List.length_eq_three.mp hwords with ⟨command, keyWord, hexWord, rfl⟩
  refine returns_lift_bind _ _ s (Outcome.settles_ok _) hstay fun word hword => ?_
  rw [← Outcome.ok.inj hword]
  refine returns_lift_bind _ _ s (Outcome.settles_okOr _ _) hstay fun peer hkey => ?_
  refine returns_lift_bind _ _ s (Outcome.settles_ok _) hstay fun word hword => ?_
  rw [← Outcome.ok.inj hword]
  refine returns_lift_bind _ _ s (Outcome.settles_okOr _ _) hstay fun bytes hbytes => ?_
  refine returns_lift_bind _ _ s (Outcome.settles_mapErr _ _ (settles_sendMessageWire bytes)) hstay
    fun wire hwire => ?_
  rw [Outcome.okOr_eq_ok] at hkey hbytes
  rw [Outcome.mapErr_eq_ok, sendMessageWire_eq_ok_iff] at hwire
  rcases hwire with ⟨m, hdecode, hknown, hencode⟩
  -- From here on the other tasks have had their turn.
  let met : Server S L.Address := { s with shared := W.others 0 s.shared }
  have hmet : OnlyWaited W s met := Or.inr (Or.inl rfl)
  cases hentry : met.shared.peers.get peer with
  | none =>
      exact returns_first _ _ s (returns_connectedPeer peer s hentry hmet)
  | some connection =>
      refine returns_second _ _ s met connection ((yields_connectedPeer _ _ _ _).mpr
        ⟨hentry, rfl⟩) ?_
      refine returns_first _ _ met ?_
      have hlong : Noise.maxMessageSize < wire.length := by
        by_contra hfits
        exact h ⟨⟨peer, bytes, m, wire, connection⟩, ⟨command, keyWord, hexWord, rfl, hkey, hbytes⟩,
          hdecode, hknown, hencode, hentry, Nat.le_of_not_lt hfits⟩
      rcases returns_sendToPeer (C := C) (W := W) (P := P) connection wire met hlong with
        ⟨herr, hleft⟩
      exact ⟨herr, Or.inr (Or.inr hleft)⟩

end

section

variable {S : Secp256k1} [DecidableEq S.PublicKey] {C : ControlCrates S} {W : Surroundings C}
  {P : Primitives} {E : Signing S} {L : BitcoinCrate S} {B : Bitcoind L.Address}

theorem runCommand_sendmessage (nodeId : S.PublicKey) (parts : List String)
    (hparts : parts.head? = some "sendmessage") :
    runCommand C W P E L B nodeId parts = cmdSendMessage C W P L parts := by
  unfold runCommand
  rw [hparts]
  rfl

/-- What becomes of a message that is given to the `sendmessage` command. If it can be
    forwarded, it is written once, on the connection of its peer, and nowhere else, with
    the reply that it was sent if the write is whole. Then the peer reads it and decodes
    it to what was meant, and it has the type of what was given, is no longer and keeps
    all that has a field. Otherwise the reply is an error and nothing is written. -/
theorem message_forwarded (hP : P.OpensSealed) (hS : S.SerializesParsed) (nodeId : S.PublicKey)
    (parts : List String) (hparts : parts.head? = some "sendmessage") (s : Server S L.Address) :
    let run := (runCommand C W P E L B nodeId parts).run s
    let later := W.others 2 (W.others 0 s.shared)
    (∀ f, Forwards C W s.shared parts f →
      run.state.shared = later.send P W.written f.connection f.wire
      ∧ (W.written = .whole →
        let key := C.keyText f.peer
        run.outcome = .ok s!"Sent message type {f.message.msgType} to {key}\n"
          ∧ ReachesPeer P f.connection f.message later run.state.shared)
      ∧ (W.written ≠ .whole → ∃ reply, run.outcome = .err reply)
      ∧ f.wire.take 2 = f.bytes.take 2 ∧ f.wire.length ≤ f.bytes.length
      ∧ Message.decode f.wire = .ok f.message ∧ f.message.KeptFrom f.bytes f.wire)
    ∧ ((¬ ∃ f, Forwards C W s.shared parts f) → (∃ reply, run.outcome = .err reply)
      ∧ OnlyWaited W s run.state) := by
  intro run later
  have hrun : run = (cmdSendMessage C W P L parts).run s :=
    congrArg (fun m => m.run s) (runCommand_sendmessage nodeId parts hparts)
  rw [hrun]
  refine ⟨fun f hf => ?_, fun h => returns_cmdSendMessage parts s h⟩
  rcases run_cmdSendMessage (L := L) hP parts s f hf with ⟨hstate, hwhole, hfailed⟩
  rcases Message.reencode hS f.bytes f.message hf.decodes with
    ⟨-, -, wire, hwire, htype, hlength, hdecode, hkept⟩
  rw [hf.encodes, Outcome.ok.injEq] at hwire
  rw [← hwire] at htype hlength hdecode hkept
  refine ⟨hstate, fun hw => ⟨hwhole hw, f.wire, ?_, ?_, hdecode⟩, hfailed, htype, hlength, hdecode,
    hkept⟩
  · rw [hstate, hw]
  · rw [hstate, hw]
    exact send_read hP f.connection f.wire hf.fits later

end

/-- A pong with a byte behind it, which the peer does not get. -/
theorem message_forwarded_pong :
    let key : Secp256k1.transparent.PublicKey := List.Vector.replicate 33 2
    let run := (runCommand .transparent .quiet .transparent .transparent .transparent .sample key
      ["sendmessage", hexText key.toList, "00130000ff"]).run (.withPeer key)
    ReachesPeer .transparent 0 (.pong ⟨[]⟩ : Message .transparent) (Server.withPeer key).shared
      run.state.shared := by
  intro key run
  let f : Forward .transparent :=
    ⟨key, [0, 19, 0, 0, 0xff], .pong ⟨[]⟩, [0, 19, 0, 0], 0⟩
  have hf : Forwards .transparent .quiet (Server.withPeer key).shared
      ["sendmessage", hexText key.toList, "00130000ff"] f :=
    ⟨⟨_, _, _, rfl, by decide +kernel, by decide +kernel⟩, rfl, fun _ _ h => (nomatch h),
      by decide +kernel, by decide +kernel, by decide⟩
  exact (((message_forwarded (E := .transparent) (L := .transparent) (B := .sample)
    Primitives.transparent_opensSealed Secp256k1.transparent_serializesParsed key _ rfl
    (.withPeer key)).1 f hf).2.1 rfl).2

end Simd

end LnGossipSim
