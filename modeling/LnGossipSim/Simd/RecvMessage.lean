import LnGossipSim.Library.Part
import LnGossipSim.Simd.Replies

/-!
# Receiving Past Keepalives

The loop that waits for a message and answers pings while it waits. It takes one
frame after the other off the connection. A ping is answered, a pong or a
warning is dropped, and the first frame that is none of these is returned. A
frame that does not decode is none of these either, and is returned as an
unknown message with all of its bytes.

The frames are what the reader decrypts, one after the other, so nothing is
assumed about the peer. The loop does one of two things with a frame, and
`run_skip` repeats the first over any number of keepalives. The run that returns
and the run in which a pong cannot be written start with it.

## Main definitions

* `recvMessage`: The loop.
* `Keepalive`: The frames it passes over.
* `pongs`: The answers to the pings among frames.

## Theorems

* `run_skip`: Passing over keepalives.
* `run_stop`: What is returned for a frame.
* `recv_message_filters`: The loop consumes, answers and returns exactly.
-/

namespace LnGossipSim

namespace Simd

open BigEndian Bolt Noise

section

variable (S : Secp256k1) (P : Primitives)

/-- What is done with a frame: go on with the loop or return. -/
def recvStep (loop : (Nat → WriteResult) → NoiseMethod (NoiseReader × NoiseWriter) NoiseError
    (Message S)) (writes : Nat → WriteResult) (raw : Bytes) :
    NoiseMethod (NoiseReader × NoiseWriter) NoiseError (Message S) := do
  Method.lift (Outcome.rejectIf (raw.length < 2) (.io "message too short"))
  match (Message.decode raw : Outcome BoltError (Message S)) with
  | .ok (.ping ping) => do
    let wire ← Method.lift (toWire (Message.pong (Pong.respondTo ping) : Message S))
    Method.on StatePart.right (NoiseWriter.send P (writes 0) wire)
    loop fun i => writes (i + 1)
  | .ok (.pong _) => loop writes
  | .ok (.warning _) => loop writes
  | .ok msg => return msg
  | .err _ => do
    let hi ← Method.lift (Outcome.expect raw[0]?)
    let lo ← Method.lift (Outcome.expect raw[1]?)
    let payload ← Method.lift (Slice.startingAt raw 2)
    return .unknown (UInt16.ofNat (beNat [hi, lo])) payload
  | .panicked => Method.lift .panicked
  | .diverged => Method.lift .diverged

/-- Receive one message, automatically responding to Pings with Pongs. Skips Pong
    and Warning messages. How the writes of the pongs end is an input, and so is
    the number of frames the loop may take. -/
def recvMessage : Nat → (Nat → WriteResult) →
    NoiseMethod (NoiseReader × NoiseWriter) NoiseError (Message S)
  | 0, _ => Method.lift .diverged
  | fuel + 1, writes => do
    let raw ← Method.on StatePart.left (NoiseReader.recv P)
    recvStep S P (recvMessage fuel) writes raw

/-- The frame decodes to a ping, a pong or a warning. -/
def Keepalive (raw : Bytes) : Prop :=
  (∃ ping, (Message.decode raw : Outcome BoltError (Message S)) = .ok (.ping ping))
    ∨ (∃ pong, (Message.decode raw : Outcome BoltError (Message S)) = .ok (.pong pong))
    ∨ ∃ warning, (Message.decode raw : Outcome BoltError (Message S)) = .ok (.warning warning)

/-- The pong for a frame that is a ping. -/
def pongFor (raw : Bytes) : Option Pong :=
  match (Message.decode raw : Outcome BoltError (Message S)) with
  | .ok (.ping ping) => some ⟨List.replicate (min ping.numPongBytes.toNat 65531) 0⟩
  | _ => none

/-- The pongs for the pings among frames, as the bytes that are sent. -/
def pongs (frames : List Bytes) : List Bytes :=
  (frames.filterMap (pongFor S)).map fun pong =>
    WireFormat.write MsgType.pong ++ pong.encode

end

section

variable {S : Secp256k1} {P : Primitives}

/-- A frame that is received is stepped over to what is done with it. -/
theorem run_recvMessage (fuel : Nat) (writes : Nat → WriteResult) (r r' : NoiseReader)
    (w : NoiseWriter) (raw : Bytes) (t : List PrimitiveCall)
    (h : (NoiseReader.recv P).run r = ⟨.ok raw, r', t⟩) :
    (recvMessage S P (fuel + 1) writes).run (r, w)
      = ((recvStep S P (recvMessage S P fuel) writes raw).run (r', w)).after t := by
  have hleft : (Method.on StatePart.left (NoiseReader.recv P)
      : NoiseMethod (NoiseReader × NoiseWriter) NoiseError Bytes).run (r, w)
      = ⟨.ok raw, (r', w), t⟩ := Method.run_zoom _ _ _ (r, w) _ _ _ h
  exact Method.run_bind_of_ok _ _ _ _ _ _ hleft

section

variable (loop : (Nat → WriteResult) → NoiseMethod (NoiseReader × NoiseWriter) NoiseError
    (Message S)) (writes : Nat → WriteResult) (raw : Bytes) (r : NoiseReader) (w : NoiseWriter)

/-- A frame that is too short to have a type is an error. -/
theorem run_recvStep_short (hlen : raw.length < 2) :
    (recvStep S P loop writes raw).run (r, w)
      = ⟨.err (.io "message too short"), (r, w), []⟩ := by
  unfold recvStep Outcome.rejectIf
  rw [if_pos hlen, Method.run_lift_err_bind]

/-- A ping is answered with one write. -/
theorem run_recvStep_ping (ping : Ping)
    (hdecode : (Message.decode raw : Outcome BoltError (Message S)) = .ok (.ping ping))
    (hlen : 2 ≤ raw.length) :
    (recvStep S P loop writes raw).run (r, w)
      = ((Method.on StatePart.right (NoiseWriter.send P (writes 0)
            (WireFormat.write MsgType.pong ++ (Pong.respondTo ping).encode))
          : NoiseMethod (NoiseReader × NoiseWriter) NoiseError Unit)
        >>= fun _ => loop fun i => writes (i + 1)).run (r, w) := by
  unfold recvStep
  rw [Outcome.rejectIf_of_not _ _ (by omega), Method.run_lift_ok_bind]
  simp only [hdecode, toWire_eq, Method.run_lift_ok_bind]
  rfl

/-- When the pong is written the loop goes on with the next write. -/
theorem run_recvStep_answered (ping : Ping) (w' : NoiseWriter) (t : List PrimitiveCall)
    (hdecode : (Message.decode raw : Outcome BoltError (Message S)) = .ok (.ping ping))
    (hsend : (NoiseWriter.send P (writes 0)
      (WireFormat.write MsgType.pong ++ (Pong.respondTo ping).encode)).run w = ⟨.ok (), w', t⟩)
    (hlen : 2 ≤ raw.length) :
    (recvStep S P loop writes raw).run (r, w)
      = ((loop fun i => writes (i + 1)).run (r, w')).after t := by
  rw [run_recvStep_ping loop writes raw r w ping hdecode hlen]
  exact Method.run_bind_of_ok _ _ _ _ _ _ (Method.run_zoom _ _ _ (r, w) _ _ _ hsend)

/-- A pong or a warning is dropped. -/
theorem run_recvStep_dropped (hlen : 2 ≤ raw.length)
    (hdecode : (∃ pong, (Message.decode raw : Outcome BoltError (Message S)) = .ok (.pong pong))
      ∨ ∃ warning, (Message.decode raw : Outcome BoltError (Message S))
        = .ok (.warning warning)) :
    (recvStep S P loop writes raw).run (r, w) = (loop writes).run (r, w) := by
  unfold recvStep
  rw [Outcome.rejectIf_of_not _ _ (by omega), Method.run_lift_ok_bind]
  rcases hdecode with ⟨pong, hdecode⟩ | ⟨warning, hdecode⟩
  · rw [hdecode]
  · rw [hdecode]

end

/-- A frame that decodes has a type. -/
theorem length_of_decode (raw : Bytes) (m : Message S)
    (h : (Message.decode raw : Outcome BoltError (Message S)) = .ok m) : 2 ≤ raw.length := by
  rcases (Message.decode_eq_ok raw m).mp h with ⟨body, hraw, -⟩
  rw [hraw, List.length_append, write_uInt16_length]
  omega

theorem pongs_cons_ping (raw : Bytes) (frames : List Bytes) (ping : Ping)
    (h : (Message.decode raw : Outcome BoltError (Message S)) = .ok (.ping ping)) :
    pongs S (raw :: frames)
      = (WireFormat.write MsgType.pong ++ (Pong.respondTo ping).encode) :: pongs S frames := by
  have hpong : pongFor S raw = some (Pong.respondTo ping) := by
    unfold pongFor
    rw [h, respondTo_eq]
  unfold pongs
  rw [List.filterMap_cons_some hpong, List.map_cons]

theorem pongs_cons_other (raw : Bytes) (frames : List Bytes)
    (h : ∀ ping, (Message.decode raw : Outcome BoltError (Message S)) ≠ .ok (.ping ping)) :
    pongs S (raw :: frames) = pongs S frames := by
  have hpong : pongFor S raw = none := by
    unfold pongFor
    split
    · exact absurd ‹_› (h _)
    · rfl
  unfold pongs
  rw [List.filterMap_cons_none hpong]

/-- A pong is never too long. -/
theorem length_of_mem_pongs (frames : List Bytes) (wire : Bytes) (h : wire ∈ pongs S frames) :
    wire.length ≤ 65535 := by
  unfold pongs at h
  rcases List.mem_map.mp h with ⟨pong, hpong, hwire⟩
  rcases List.mem_filterMap.mp hpong with ⟨raw, -, hraw⟩
  unfold pongFor at hraw
  split at hraw
  · rw [← hwire, List.length_append, Pong.encode, write_vec_length, write_uInt16_length,
      ← Option.some.inj hraw, List.length_replicate]
    omega
  · exact nomatch hraw

/-- Passing over keepalives. The induction is on the frames. Each takes one round
    of the loop, and a ping takes one write, so what is left are the other rounds
    and the other writes. -/
theorem run_skip (hP : P.OpensSealed) (frames : List Bytes) (fuel : Nat)
    (writes : Nat → WriteResult) (r : NoiseReader) (w : NoiseWriter)
    (hrecv : (Method.calls (fun _ : Bytes => NoiseReader.recv P) frames r).outcomes
      = frames.map .ok)
    (hkeep : ∀ g ∈ frames, Keepalive S g)
    (hwrites : ∀ i < (pongs S frames).length, writes i = .whole) :
    ∃ t, (recvMessage S P (fuel + frames.length) writes).run (r, w)
      = ((recvMessage S P fuel fun i => writes (i + (pongs S frames).length)).run
          ((Method.calls (fun _ : Bytes => NoiseReader.recv P) frames r).state,
            (Method.calls (NoiseWriter.send P .whole) (pongs S frames) w).state)).after t := by
  induction frames generalizing writes r w with
  | nil => exact ⟨[], rfl⟩
  | cons g frames ih =>
      rw [Method.calls_cons, List.map_cons, List.cons.injEq] at hrecv
      rcases List.forall_mem_cons.mp hkeep with ⟨hg, hkeeps⟩
      have hrun := Return.eq_of_outcome _ _ hrecv.1
      have hround := run_recvMessage (S := S) (fuel + frames.length) writes r _ w g _ hrun
      rw [Method.calls_cons, List.length_cons, ← Nat.add_assoc, hround]
      rcases hg with ⟨ping, hping⟩ | hdropped
      · rw [pongs_cons_ping g frames ping hping] at hwrites ⊢
        -- The write of this pong succeeds, and the others are the writes after it.
        have hfits : (WireFormat.write MsgType.pong ++ (Pong.respondTo ping).encode).length
            ≤ Noise.maxMessageSize := by
          refine length_of_mem_pongs (S := S) (g :: frames) _ ?_
          rw [pongs_cons_ping g frames ping hping]
          exact List.mem_cons_self
        have hsend := Return.eq_of_outcome _ _ ((send_accepts_iff hP _ w).mpr hfits)
        rw [← hwrites 0 (Nat.zero_lt_succ _)] at hsend
        rw [run_recvStep_answered _ writes g _ w ping _ _ hping hsend (length_of_decode g _ hping),
          Method.calls_cons, hwrites 0 (Nat.zero_lt_succ _)]
        rcases ih (fun i => writes (i + 1)) _ _ hrecv.2 hkeeps
          (fun i hi => hwrites (i + 1) (Nat.succ_lt_succ hi)) with ⟨t, ht⟩
        rw [ht, Return.after_after, Return.after_after]
        exact ⟨_, rfl⟩
      · have hnoping : ∀ ping, (Message.decode g : Outcome BoltError (Message S))
            ≠ .ok (.ping ping) := by
          intro ping hping
          rcases hdropped with ⟨pong, hpong⟩ | ⟨warning, hwarning⟩
          · rw [hpong] at hping
            exact nomatch hping
          · rw [hwarning] at hping
            exact nomatch hping
        have hlen : 2 ≤ g.length := by
          rcases hdropped with ⟨pong, hpong⟩ | ⟨warning, hwarning⟩
          · exact length_of_decode g _ hpong
          · exact length_of_decode g _ hwarning
        rw [pongs_cons_other g frames hnoping] at hwrites ⊢
        rw [run_recvStep_dropped _ writes g _ w hlen hdropped]
        rcases ih writes _ w hrecv.2 hkeeps hwrites with ⟨t, ht⟩
        rw [ht, Return.after_after]
        exact ⟨_, rfl⟩

/-- What is returned for a frame that is not passed over. -/
structure Returned (f : Bytes) (o : Outcome NoiseError (Message S)) : Prop where
  short : f.length < 2 → ∃ e, o = .err e
  decoded : ∀ m, Message.decode f = .ok m → o = .ok m
  unknown : 2 ≤ f.length →
    (∀ m, (Message.decode f : Outcome BoltError (Message S)) ≠ .ok m) →
    ∃ t payload, o = .ok (.unknown t payload)
      ∧ (Message.unknown t payload : Message S).encode = .ok f

/-- A frame that is no keepalive ends the loop, which takes nothing more and sends
    nothing more. -/
theorem run_stop (loop : (Nat → WriteResult) → NoiseMethod (NoiseReader × NoiseWriter) NoiseError
    (Message S)) (writes : Nat → WriteResult) (f : Bytes) (r : NoiseReader) (w : NoiseWriter)
    (hstop : ¬ Keepalive S f) :
    ∃ o, Returned f o ∧ (recvStep S P loop writes f).run (r, w) = ⟨o, (r, w), []⟩ := by
  by_cases hlen : f.length < 2
  · refine ⟨_, ⟨fun _ => ⟨_, rfl⟩, fun m hm => ?_, fun h => ?_⟩,
      run_recvStep_short loop writes f r w hlen⟩
    · have hlong := length_of_decode f m hm
      omega
    · omega
  · have hsettles : (Message.decode f : Outcome BoltError (Message S)).Settles :=
      Message.settles_decode f
    unfold recvStep
    rw [Outcome.rejectIf_of_not _ _ hlen, Method.run_lift_ok_bind]
    cases hdecode : (Message.decode f : Outcome BoltError (Message S)) with
    | ok m =>
        refine ⟨.ok m, ⟨fun h => absurd h hlen, fun m' hm' => ?_, fun _ h => absurd hdecode (h m)⟩,
          ?_⟩
        · rw [Outcome.ok.inj (hdecode.symm.trans hm')]
        -- Of the messages that decode, only keepalives go on with the loop.
        · cases m with
          | ping ping => exact absurd (Or.inl ⟨ping, hdecode⟩) hstop
          | pong pong => exact absurd (Or.inr (Or.inl ⟨pong, hdecode⟩)) hstop
          | warning warning => exact absurd (Or.inr (Or.inr ⟨warning, hdecode⟩)) hstop
          | _ => rfl
    | err e =>
        rcases f with _ | ⟨hi, _ | ⟨lo, payload⟩⟩
        · exact absurd (Nat.zero_lt_two) hlen
        · exact absurd (Nat.one_lt_two) hlen
        · -- The two bytes of the type and the rest make up the frame.
          have hread : readAs UInt16 (hi :: lo :: payload)
              = .ok (UInt16.ofNat (beNat [hi, lo]), payload) := rfl
          have hencode : (Message.unknown (UInt16.ofNat (beNat [hi, lo])) payload
              : Message S).encode = .ok (hi :: lo :: payload) := by
            rw [Message.encode_eq, eq_write_of_read hread]
            rfl
          refine ⟨_, ⟨fun h => absurd h hlen, fun m hm => ?_, fun _ _ => ⟨_, _, rfl, hencode⟩⟩,
            rfl⟩
          rw [hdecode] at hm
          exact nomatch hm
    | panicked => exact absurd hdecode hsettles.1
    | diverged => exact absurd hdecode hsettles.2

/-- Frames that were received and one more: the frames were, and the last one is
    received from where they left the reader. -/
theorem received_split (frames : List Bytes) (f : Bytes) (r : NoiseReader)
    (h : (Method.calls (fun _ : Bytes => NoiseReader.recv P) (frames ++ [f]) r).outcomes
      = (frames ++ [f]).map .ok) :
    let r' := (Method.calls (fun _ : Bytes => NoiseReader.recv P) frames r).state
    (Method.calls (fun _ : Bytes => NoiseReader.recv P) frames r).outcomes = frames.map .ok
      ∧ ∃ t, (NoiseReader.recv P).run r' = ⟨.ok f,
        (Method.calls (fun _ : Bytes => NoiseReader.recv P) (frames ++ [f]) r).state, t⟩ := by
  intro r'
  rw [Method.calls_append, List.map_append] at h
  rcases List.append_inj h (by simp) with ⟨hframes, hlast⟩
  refine ⟨hframes, ((NoiseReader.recv P).run r').trace, ?_⟩
  rw [Method.calls_append]
  exact Return.eq_of_outcome _ _ (List.cons.inj hlast).1

/-- Every pong is sent, since none is too long. -/
theorem calls_send_pongs (hP : P.OpensSealed) (wires : List Bytes) (w : NoiseWriter)
    (h : ∀ wire ∈ wires, wire.length ≤ 65535) :
    (Method.calls (NoiseWriter.send P .whole) wires w).outcomes = wires.map fun _ => .ok () := by
  induction wires generalizing w with
  | nil => rfl
  | cons wire wires ih =>
      rcases List.forall_mem_cons.mp h with ⟨hwire, hrest⟩
      rw [Method.calls_cons, List.map_cons, ih _ hrest, (send_accepts_iff hP wire w).mpr hwire]

/-- The loop consumes, answers and returns exactly. Of the frames that are
    received, let `f` be the first that is no keepalive. The loop takes the frames
    up to and including `f` off the connection, and sends one pong for each ping
    before `f`, in the same order, and nothing else. None of the pongs is too
    long. It returns an error when `f` is too short to have a type, the message
    when `f` decodes, and otherwise an unknown message that encodes to `f`. -/
theorem recv_message_filters (hP : P.OpensSealed) (frames : List Bytes) (f : Bytes)
    (r : NoiseReader) (w : NoiseWriter) (fuel : Nat) (writes : Nat → WriteResult)
    (hrecv : (Method.calls (fun _ : Bytes => NoiseReader.recv P) (frames ++ [f]) r).outcomes
      = (frames ++ [f]).map .ok)
    (hkeep : ∀ g ∈ frames, Keepalive S g) (hstop : ¬ Keepalive S f)
    (hfuel : frames.length < fuel)
    (hwrites : ∀ i < (pongs S frames).length, writes i = .whole) :
    let received := Method.calls (fun _ : Bytes => NoiseReader.recv P) (frames ++ [f]) r
    let sent := Method.calls (NoiseWriter.send P .whole) (pongs S frames) w
    let run := (recvMessage S P fuel writes).run (r, w)
    run.state = (received.state, sent.state)
      ∧ (pongs S frames).map .ok = (frames.filterMap (pongFor S)).map
        (fun pong => (Message.pong pong : Message S).encode)
      ∧ (∀ wire ∈ pongs S frames, wire.length ≤ 65535)
      ∧ sent.outcomes = (pongs S frames).map (fun _ => .ok ())
      ∧ (f.length < 2 → ∃ e, run.outcome = .err e)
      ∧ (∀ m, Message.decode f = .ok m → run.outcome = .ok m)
      ∧ (2 ≤ f.length → (∀ m, (Message.decode f : Outcome BoltError (Message S)) ≠ .ok m) →
        ∃ t payload, run.outcome = .ok (.unknown t payload)
          ∧ (Message.unknown t payload : Message S).encode = .ok f) := by
  intro received sent run
  rcases received_split frames f r hrecv with ⟨hframes, t, hlast⟩
  -- The loop passes over the keepalives, and one round is enough for the last frame.
  have hrounds : fuel = (fuel - frames.length - 1) + 1 + frames.length := by omega
  rcases run_skip (S := S) hP frames (fuel - frames.length - 1 + 1) writes r w hframes hkeep
    hwrites with ⟨t', hskip⟩
  rw [← hrounds, run_recvMessage _ _ _ _ _ f t hlast] at hskip
  rcases run_stop (S := S) (P := P) (recvMessage S P (fuel - frames.length - 1))
    (fun i => writes (i + (pongs S frames).length)) f received.state sent.state hstop with
    ⟨o, hreturned, hstopped⟩
  rw [hstopped] at hskip
  have hrun : run = ⟨o, (received.state, sent.state), t' ++ (t ++ [])⟩ := hskip
  have hlengths : ∀ wire ∈ pongs S frames, wire.length ≤ 65535 :=
    fun wire hwire => length_of_mem_pongs frames wire hwire
  rw [hrun]
  refine ⟨rfl, ?_, hlengths, calls_send_pongs hP _ w hlengths, hreturned.short,
    hreturned.decoded, hreturned.unknown⟩
  unfold pongs
  rw [List.map_map]
  exact List.map_congr_left fun pong _ => (Message.encode_eq (.pong pong : Message S)).symm

/-- A ping and then a message of an even type that has no codec. -/
theorem recv_message_filters_unknown :
    let c : HalfCipher := ⟨List.Vector.replicate 32 1, 0, List.Vector.replicate 32 2⟩
    let sent := Method.calls (NoiseWriter.send .transparent .whole)
      [[0, 18, 0, 2, 0, 0], [0, 100, 7]] ⟨[], c⟩
    ∃ t payload, ((recvMessage .transparent .transparent 2 fun _ => .whole).run
        (⟨sent.state.stream, c⟩, ⟨[], c⟩)).outcome = .ok (.unknown t payload)
      ∧ (Message.unknown t payload : Message .transparent).encode = .ok [0, 100, 7] := by
  intro c sent
  have hP := Primitives.transparent_opensSealed
  rcases sendAll_recvAll hP [[0, 18, 0, 2, 0, 0], [0, 100, 7]] c with ⟨stream, c', hsend, hrecv⟩
  rcases hsend [] with ⟨t₁, hsent⟩
  rcases hrecv [] with ⟨t₂, hreceived⟩
  have hstream : sent.state.stream = stream ++ [] := by
    rw [List.append_nil]
    exact congrArg (fun r => r.state.stream) hsent
  have herr : (Message.decode [0, 100, 7] : Outcome BoltError (Message .transparent))
      = .err (.unknownEvenType 100) := rfl
  have hnot : ∀ m, (Message.decode [0, 100, 7] : Outcome BoltError (Message .transparent))
      ≠ .ok m := by
    intro m hm
    rw [herr] at hm
    exact nomatch hm
  have hstop : ¬ Keepalive .transparent [0, 100, 7] := by
    intro h
    rcases h with ⟨m, hm⟩ | ⟨m, hm⟩ | ⟨m, hm⟩
    · exact hnot _ hm
    · exact hnot _ hm
    · exact hnot _ hm
  rw [hstream]
  exact (recv_message_filters (S := .transparent) hP [[0, 18, 0, 2, 0, 0]] [0, 100, 7] _ ⟨[], c⟩ 2
    (fun _ => .whole) (congrArg Method.Calls.outcomes hreceived)
    (List.forall_mem_singleton.mpr (Or.inl ⟨⟨2, []⟩, rfl⟩)) hstop (by decide)
    (fun _ _ => rfl)).2.2.2.2.2.2 (by decide) hnot

end

end Simd

end LnGossipSim
