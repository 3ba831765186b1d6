import LnGossipSim.Noise.Split

/-!
# Framed Connections

The two halves of a Noise-encrypted connection. The writer turns a message
into a frame, an encrypted length header followed by the encrypted message, and
the reader takes one frame off its stream.

The writer's stream is what it has written and the reader's what it has yet to
read. Writing can fail after some of the bytes have gone out, which is an input
of the model. Reading past the end of the stream is an error.

What carries a whole session is that writer and reader move in lockstep: a
frame sealed by a half is read back by a half in the same state, and leaves
both in the same state. The run lemma repeats this over all messages, between
which any number of key rotations may fall.

## Main definitions

* `NoiseWriter`, `NoiseReader`: The halves of a connection.
* `WriteResult`: How writing to the socket ends.
* `NoiseWriter.send`: Seal and write one message.
* `NoiseReader.recv`: Read and open one message.
* `NoiseConnection.sendMessage`: Sending on a connection that is not split.

## Theorems

* `send_recv`: One message through a writer and a reader in lockstep.
* `send_oversized`: A message that is too long changes nothing.
* `send_accepts_iff`, `sendMessage_accepts_iff`: What can be sent.
* `send_settles`: Sending does not panic.
* `sendAll_recvAll`: Any number of messages in lockstep.
* `transport_fifo`: The connection is an exact queue.
-/

namespace LnGossipSim

namespace Simd

open BigEndian Noise

/-- How writing to the socket ends: all bytes went out, or some of them and an
    error. -/
inductive WriteResult where
  | whole
  | failed (written : Nat) (message : String)

/-- Write half of a Noise-encrypted connection, with the bytes written so
    far. -/
structure NoiseWriter where
  stream : Bytes
  cipher : SendCipher
  deriving DecidableEq

/-- Read half of a Noise-encrypted connection, with the bytes yet to be
    read. -/
structure NoiseReader where
  stream : Bytes
  cipher : RecvCipher
  deriving DecidableEq

/-- A connection that is not split, with the bytes written so far. -/
structure NoiseConnection where
  stream : Bytes
  cipher : NoiseCipher
  deriving DecidableEq

/-- What a connection that is not split can report. -/
inductive ConnectionError where
  | io (message : String)
  | noise (error : NoiseError)
  | messageTooLarge (length : Nat)
  deriving DecidableEq

section

variable (P : Primitives)

namespace NoiseWriter

/-- Writes bytes to the socket. -/
def writeAll (result : WriteResult) (data : Bytes) : NoiseMethod NoiseWriter NoiseError Unit :=
  match result with
  | .whole => Method.modify fun w => { w with stream := w.stream ++ data }
  | .failed written message => do
    Method.modify fun w => { w with stream := w.stream ++ data.take written }
    Method.lift (.err (.io message))

/-- Send a raw wire-encoded message (2-byte type prefix + payload). -/
def send (result : WriteResult) (msg : Bytes) : NoiseMethod NoiseWriter NoiseError Unit := do
  Method.lift (Outcome.rejectIf (maxMessageSize < msg.length)
    (.io s!"message too large: {msg.length} bytes (max {maxMessageSize})"))
  let encrypted ← Method.zoom NoiseWriter.cipher (fun c w => { w with cipher := c })
    (SendCipher.encrypt P msg)
  writeAll result encrypted

end NoiseWriter

namespace NoiseReader

/-- Reads exactly `n` bytes off the stream. -/
def readExact (n : Nat) : NoiseMethod NoiseReader NoiseError (ByteArr n) := do
  let r ← Method.get
  if h : n ≤ r.stream.length then do
    Method.modify fun r => { r with stream := r.stream.drop n }
    return Slice.pack (r.stream.take n) (List.length_take_of_le h)
  else do
    Method.modify fun r => { r with stream := [] }
    Method.lift (.err (.io "early eof"))

/-- Receive and decrypt one wire message. -/
def recv : NoiseMethod NoiseReader NoiseError Bytes := do
  let lenHeader ← readExact encryptedLengthSize
  let msgLen ← Method.zoom NoiseReader.cipher (fun c r => { r with cipher := c })
    (RecvCipher.decryptLength P lenHeader)
  let body ← readExact (msgLen.toNat + macSize)
  Method.zoom NoiseReader.cipher (fun c r => { r with cipher := c })
    (RecvCipher.decryptMessage P body.toList)

end NoiseReader

namespace NoiseConnection

/-- Writes bytes to the socket. -/
def writeAll (result : WriteResult) (data : Bytes) :
    NoiseMethod NoiseConnection ConnectionError Unit :=
  match result with
  | .whole => Method.modify fun c => { c with stream := c.stream ++ data }
  | .failed written message => do
    Method.modify fun c => { c with stream := c.stream ++ data.take written }
    Method.lift (.err (.io message))

/-- Sends an encrypted message to the peer. -/
def sendMessage (result : WriteResult) (msg : Bytes) :
    NoiseMethod NoiseConnection ConnectionError Unit := do
  Method.lift (Outcome.rejectIf (maxMessageSize < msg.length) (.messageTooLarge msg.length))
  let encrypted ← Method.zoom NoiseConnection.cipher (fun cipher c => { c with cipher })
    (NoiseCipher.encrypt P msg)
  writeAll result encrypted

end NoiseConnection

end

section

variable {P : Primitives}

/-- The reader takes what is at the front of its stream. -/
theorem run_readExact (data rest : Bytes) (c : RecvCipher) (n : Nat) (h : data.length = n) :
    (NoiseReader.readExact n).run ⟨data ++ rest, c⟩
      = ⟨.ok (Slice.pack data h), ⟨rest, c⟩, []⟩ := by
  have hle : n ≤ (data ++ rest).length := by
    rw [List.length_append]
    omega
  unfold NoiseReader.readExact
  rw [Method.run_get_bind, dif_pos hle, Method.run_modify_bind]
  simp only [List.drop_left' h, List.take_left' h]
  rfl

/-- A message that is too long is rejected, and neither the cipher nor the
    stream changes. -/
theorem send_oversized (result : WriteResult) (msg : Bytes) (w : NoiseWriter)
    (h : maxMessageSize < msg.length) :
    (NoiseWriter.send P result msg).run w
      = ⟨.err (.io s!"message too large: {msg.length} bytes (max {maxMessageSize})"), w, []⟩ := by
  unfold NoiseWriter.send Outcome.rejectIf
  rw [if_pos h, Method.run_lift_err_bind]

/-- One message through a writer and a reader in lockstep: the frame the writer
    appends is read back as the message, and both ciphers move on alike. -/
theorem send_recv (hP : P.OpensSealed) (msg : Bytes) (h : msg.length ≤ maxMessageSize)
    (c : HalfCipher) :
    ∃ frame c',
      (∀ written, ∃ t, (NoiseWriter.send P .whole msg).run ⟨written, c⟩
        = ⟨.ok (), ⟨written ++ frame, c'⟩, t⟩)
      ∧ (∀ rest, ∃ t, (NoiseReader.recv P).run ⟨frame ++ rest, c⟩ = ⟨.ok msg, ⟨rest, c'⟩, t⟩) := by
  rcases encrypt_opens NoiseError hP c msg h with
    ⟨header, body, hsize, ⟨_, hsealed⟩, ⟨_, hlen⟩, ⟨_, hopen⟩⟩
  -- One use of the cipher seals the length and a second one the message.
  refine ⟨header.toList ++ body, (c.used P).used P, ?_, ?_⟩
  · intro written
    have hcipher := Method.run_zoom NoiseWriter.cipher (fun c w => { w with cipher := c })
      (SendCipher.encrypt P msg) ⟨written, c⟩ _ _ _ hsealed
    -- The message is not too long, so it is encrypted and the frame is appended whole.
    unfold NoiseWriter.send
    rw [Outcome.rejectIf_of_not _ _ (by omega), Method.run_lift_ok_bind,
      Method.run_bind_of_ok _ _ _ _ _ _ hcipher]
    exact ⟨_, rfl⟩
  · intro rest
    -- The reader takes the header, learns the length, and takes as many bytes again.
    have hheader := run_readExact header.toList (body ++ rest) c encryptedLengthSize
      header.toList_length
    have hbody := run_readExact body rest (c.used P) _ hsize
    have hzoom := Method.run_zoom NoiseReader.cipher (fun c r => { r with cipher := c })
      (RecvCipher.decryptLength P header) ⟨body ++ rest, c⟩ _ _ _ hlen
    have hzoom' := Method.run_zoom NoiseReader.cipher (fun c r => { r with cipher := c })
      (RecvCipher.decryptMessage P body) ⟨rest, c.used P⟩ _ _ _ hopen
    rw [Slice.pack_of_toList header _ _ rfl] at hheader
    unfold NoiseReader.recv
    rw [List.append_assoc, Method.run_bind_of_ok _ _ _ _ _ _ hheader,
      Method.run_bind_of_ok _ _ _ _ _ _ hzoom, Method.run_bind_of_ok _ _ _ _ _ _ hbody,
      Slice.pack_toList, hzoom']
    exact ⟨_, rfl⟩

/-- A message is accepted exactly when it is not too long. -/
theorem send_accepts_iff (hP : P.OpensSealed) (msg : Bytes) (w : NoiseWriter) :
    ((NoiseWriter.send P .whole msg).run w).outcome = .ok () ↔ msg.length ≤ maxMessageSize := by
  by_cases h : msg.length ≤ maxMessageSize
  · rcases send_recv hP msg h w.cipher with ⟨_, _, hsend, -⟩
    rcases hsend w.stream with ⟨_, hrun⟩
    simp only [hrun, h]
  · simp only [send_oversized .whole msg w (Nat.lt_of_not_le h), h, reduceCtorEq]

/-- So it is on a connection that is not split. -/
theorem sendMessage_accepts_iff (hP : P.OpensSealed) (msg : Bytes) (c : NoiseConnection) :
    ((NoiseConnection.sendMessage P .whole msg).run c).outcome = .ok ()
      ↔ msg.length ≤ maxMessageSize := by
  by_cases h : msg.length ≤ maxMessageSize
  · rcases encrypt_opens ConnectionError hP c.cipher.split.1 msg h with
      ⟨_, _, _, ⟨_, hsealed⟩, _, _⟩
    -- The combined cipher encrypts with the fields of its send half.
    have hwhole := Method.run_zoom NoiseCipher.sendHalf.view NoiseCipher.sendHalf.update
      (SendCipher.encrypt P msg) c.cipher _ _ _ hsealed
    have hcipher := Method.run_zoom NoiseConnection.cipher (fun cipher c => { c with cipher })
      (Method.on NoiseCipher.sendHalf (SendCipher.encrypt P msg)) c _ _ _ hwhole
    unfold NoiseConnection.sendMessage
    rw [Outcome.rejectIf_of_not _ _ (by omega), Method.run_lift_ok_bind, NoiseCipher.encrypt_eq,
      Method.run_bind_of_ok _ _ _ _ _ _ hcipher]
    exact iff_of_true rfl h
  · unfold NoiseConnection.sendMessage Outcome.rejectIf
    rw [if_pos (Nat.lt_of_not_le h), Method.run_lift_err_bind]
    simp only [h, reduceCtorEq]

/-- Sending ends in success or an error: the length of a message that is not
    rejected fits its prefix. -/
theorem send_settles (hP : P.OpensSealed) (result : WriteResult) (msg : Bytes) (w : NoiseWriter) :
    ((NoiseWriter.send P result msg).run w).outcome.Settles := by
  by_cases h : msg.length ≤ maxMessageSize
  · rcases encrypt_opens NoiseError hP w.cipher msg h with
      ⟨_, _, _, ⟨_, hsealed⟩, _, _⟩
    have hcipher := Method.run_zoom NoiseWriter.cipher (fun c w => { w with cipher := c })
      (SendCipher.encrypt P msg) w _ _ _ hsealed
    unfold NoiseWriter.send
    rw [Outcome.rejectIf_of_not _ _ (by omega), Method.run_lift_ok_bind,
      Method.run_bind_of_ok _ _ _ _ _ _ hcipher]
    cases result with
    | whole => exact Outcome.settles_ok ()
    | failed written message => exact Outcome.settles_err _
  · rw [send_oversized result msg w (Nat.lt_of_not_le h)]
    exact Outcome.settles_err _

/-- Any number of messages through a writer and a reader in lockstep. The
    induction is on the messages; what it carries is that both ciphers are in
    the same state between them. -/
theorem sendAll_recvAll (hP : P.OpensSealed) (msgs : List Bytes) (c : HalfCipher) :
    ∃ stream c',
      (∀ written, ∃ t, Method.calls (NoiseWriter.send P .whole) msgs ⟨written, c⟩
        = ⟨msgs.map (fun m => if m.length ≤ maxMessageSize then .ok ()
            else .err (.io s!"message too large: {m.length} bytes (max {maxMessageSize})")),
          ⟨written ++ stream, c'⟩, t⟩)
      ∧ (∀ rest, ∃ t, Method.calls (fun _ : Bytes => NoiseReader.recv P)
          (msgs.filter (fun m => m.length ≤ maxMessageSize)) ⟨stream ++ rest, c⟩
        = ⟨(msgs.filter (fun m => m.length ≤ maxMessageSize)).map .ok, ⟨rest, c'⟩, t⟩) := by
  induction msgs generalizing c with
  | nil =>
      refine ⟨[], c, ?_, ?_⟩
      · intro written
        rw [List.append_nil]
        exact ⟨[], rfl⟩
      · exact fun rest => ⟨[], rfl⟩
  | cons m msgs ih =>
      by_cases hm : m.length ≤ maxMessageSize
      -- The message goes through, and the rest follows from where the ciphers are now.
      · rcases send_recv hP m hm c with ⟨frame, c₁, hsend, hrecv⟩
        rcases ih c₁ with ⟨stream, c', hsends, hrecvs⟩
        refine ⟨frame ++ stream, c', ?_, ?_⟩
        · intro written
          rcases hsend written with ⟨t₁, h₁⟩
          rcases hsends (written ++ frame) with ⟨t₂, h₂⟩
          rw [Method.calls_cons, h₁, h₂, List.map_cons, if_pos hm, List.append_assoc]
          exact ⟨_, rfl⟩
        · intro rest
          rcases hrecv (stream ++ rest) with ⟨t₁, h₁⟩
          rcases hrecvs rest with ⟨t₂, h₂⟩
          rw [List.filter_cons_of_pos (by rwa [decide_eq_true_iff]), Method.calls_cons,
            List.append_assoc, h₁, h₂]
          exact ⟨_, rfl⟩
      · -- A rejected message leaves the writer as it was, and the reader is not run for it.
        have hreject := fun w => send_oversized (P := P) .whole m w (Nat.lt_of_not_le hm)
        rcases ih c with ⟨stream, c', hsends, hrecvs⟩
        refine ⟨stream, c', ?_, ?_⟩
        · intro written
          rcases hsends written with ⟨t₂, h₂⟩
          rw [Method.calls_cons, hreject, h₂, List.map_cons, if_neg hm]
          exact ⟨_, rfl⟩
        · rw [List.filter_cons_of_neg (by rwa [decide_eq_true_iff])]
          exact hrecvs

/-- The connection is an exact queue, whatever number of key rotations falls
    into the session. Every message that is not too long is received, in order
    and unchanged; then every byte has been read and the halves are in the same
    state again. A message that is too long is rejected without a trace, and no
    send panics, whatever becomes of the write. -/
theorem transport_fifo (hP : P.OpensSealed) (s : SendCipher) (r : RecvCipher)
    (hkey : s.key = r.key) (hnonce : s.nonce = r.nonce) (hck : s.ck = r.ck) (msgs : List Bytes) :
    let accepted := msgs.filter (fun m => m.length ≤ maxMessageSize)
    let sent := Method.calls (NoiseWriter.send P .whole) msgs ⟨[], s⟩
    let received := Method.calls (fun _ : Bytes => NoiseReader.recv P) accepted
      ⟨sent.state.stream, r⟩
    sent.outcomes = msgs.map (fun m => if m.length ≤ maxMessageSize then .ok ()
        else .err (.io s!"message too large: {m.length} bytes (max {maxMessageSize})"))
    ∧ received.outcomes = accepted.map .ok
    ∧ received.state.stream = []
    ∧ sent.state.cipher.key = received.state.cipher.key
    ∧ sent.state.cipher.nonce = received.state.cipher.nonce
    ∧ sent.state.cipher.ck = received.state.cipher.ck
    ∧ ∀ result m w,
      (maxMessageSize < m.length → ((NoiseWriter.send P result m).run w).state = w)
      ∧ ((NoiseWriter.send P result m).run w).outcome.Settles := by
  intro accepted sent received
  -- The two halves agree in every field, so they are one cipher.
  have hsame : s = r := by
    cases s
    cases r
    rw [HalfCipher.mk.injEq]
    exact ⟨hkey, hnonce, hck⟩
  rcases sendAll_recvAll hP msgs s with ⟨stream, c', hsends, hrecvs⟩
  rcases hsends [] with ⟨t₁, hsent⟩
  rcases hrecvs [] with ⟨t₂, hreceived⟩
  have hsent' : sent = ⟨_, ⟨stream, c'⟩, t₁⟩ := hsent
  -- What the writer wrote is all the reader is given.
  have hreceived' : received = ⟨accepted.map .ok, ⟨[], c'⟩, t₂⟩ := by
    have hstart : (⟨sent.state.stream, r⟩ : NoiseReader) = ⟨stream ++ [], s⟩ := by
      rw [hsent', hsame, List.append_nil]
    exact Eq.trans (congrArg _ hstart) hreceived
  rw [hreceived', hsent']
  refine ⟨rfl, rfl, rfl, rfl, rfl, rfl, ?_⟩
  intro result m w
  refine ⟨?_, send_settles hP result m w⟩
  intro hm
  rw [send_oversized result m w hm]

/-- Three messages, one of them empty, through halves whose key is about to be
    rotated. -/
theorem transport_fifo_rotating :
    let c : HalfCipher := ⟨List.Vector.replicate 32 1, 998, List.Vector.replicate 32 2⟩
    let sent := Method.calls (NoiseWriter.send .transparent .whole) [[0, 19], [], [7, 8, 9]] ⟨[], c⟩
    (Method.calls (fun _ : Bytes => NoiseReader.recv .transparent) [[0, 19], [], [7, 8, 9]]
      ⟨sent.state.stream, c⟩).outcomes = [.ok [0, 19], .ok [], .ok [7, 8, 9]] :=
  (transport_fifo Primitives.transparent_opensSealed _ _ rfl rfl rfl [[0, 19], [], [7, 8, 9]]).2.1

end

end Simd

end LnGossipSim
