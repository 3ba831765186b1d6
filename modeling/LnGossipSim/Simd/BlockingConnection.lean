import LnGossipSim.Library.Equations
import LnGossipSim.Simd.Connect

/-!
# The Blocking Connection

The connection of the Noise crate, which is not split and blocks on its stream. The
daemon does not use it: it has a reader and a writer of its own, with the same acts
and the same frames in other words. The two are compared here.

Both keep the stream and the cipher of the handshake. The writer is a part of the
blocking connection, what it has written with the send half of the cipher, and the
reader is the rest. Sending a message is sending on the writer, receiving one is
receiving on the reader, and connecting makes the connection whose parts the daemon
makes. So the two do the same in any sequence of calls, and any peer that talks to
the one talks to the other.

Only the blocking connection gives up on a peer that is late. Its timeout bounds
connecting, every read and every write. A write that is given up is one that failed,
which both know. When another wait is given up, the call may end in an error of the
socket where the daemon would go on waiting, and otherwise it still does the same. A
timeout of zero is refused.

Their errors have different types, and the texts of the socket's errors come from
different libraries. They are compared up to these texts, by their kind.

## Main definitions

* `BlockingConnection`: The connection, with both directions of its stream.
* `Wait`, `Timing`: How waiting for a peer ends.
* `BlockingConnection.performHandshake`, `BlockingConnection.connect`: Making it.
* `BlockingConnection.sendMessage`, `BlockingConnection.recvMessage`: Using it.
* `BlockingConnection.writer`, `BlockingConnection.reader`: Its halves.
* `NoiseError.kind`, `ConnectionError.kind`: Errors without their texts.

## Theorems

* `sendMessage_eq`, `recvMessage_eq`: Each call is that of a half.
* `connect_eq`: Connecting makes the same halves.
* `connect_sameUnless`, `onBlocking_sameUnless`: What a peer that is late changes.
* `connect_zero_timeout`: A timeout of zero is refused.
* `blocking_refines_split`: The two do the same in any sequence of calls.
-/

namespace LnGossipSim

namespace Simd

open BigEndian Noise

/-- A Noise-encrypted connection to a Lightning Network peer, with both directions
    of its stream. -/
structure BlockingConnection where
  stream : TcpStream
  cipher : NoiseCipher
  deriving DecidableEq

/-- How waiting for bytes of the peer ends: they come, or the stream ends, in time, or
    the wait is given up when some of them were read. -/
inductive Wait where
  | inTime
  | givenUp (taken : Nat) (message : String)
  deriving DecidableEq

/-- What bounds connecting, and how its waits end: the timeout in nanoseconds, whether
    the connection is made in time, whether the socket takes its options, and the wait
    for the second act. -/
structure Timing where
  timeout : Nat
  opening : Except String Unit
  nodelay : Except String Unit
  actTwo : Wait

/-- Any timeout will do when nothing is given up. -/
def Timing.patient : Timing :=
  { timeout := 1, opening := .ok (), nodelay := .ok (), actTwo := .inTime }

/-- Nothing is given up. -/
structure Timing.Kept (timing : Timing) : Prop where
  timeout : timing.timeout ≠ 0
  opening : timing.opening = .ok ()
  nodelay : timing.nodelay = .ok ()
  actTwo : timing.actTwo = .inTime

theorem Timing.patient_kept : Timing.patient.Kept := ⟨Nat.one_ne_zero, rfl, rfl, rfl⟩

/-- An error without the texts that libraries contribute: nothing for an error of
    the socket or of a message's size, and otherwise the error of the protocol. -/
def NoiseError.kind : NoiseError → Option NoiseError
  | .io _ => none
  | e => some e

/-- The same of an error of the blocking connection. -/
def ConnectionError.kind : ConnectionError → Option NoiseError
  | .io _ => none
  | .noise e => NoiseError.kind e
  | .messageTooLarge _ => none

namespace BlockingConnection

/-- Opens the stream, with a bound on the time that this may take. -/
def connectTimeout (timing : Timing) (connected : Except String Bytes) :
    Outcome ConnectionError TcpStream := do
  Outcome.rejectIf (timing.timeout = 0) (.io "cannot set a 0 duration timeout")
  Outcome.ofExcept .io timing.opening
  let incoming ← Outcome.ofExcept .io connected
  return { incoming, outgoing := [] }

/-- Bounds the time that a read may take, or that a write may. -/
def setTimeout (timing : Timing) : Outcome ConnectionError Unit :=
  Outcome.rejectIf (timing.timeout = 0) (.io "cannot set a 0 duration timeout")

/-- Writes bytes to the stream. -/
def writeAll (result : WriteResult) (data : Bytes) : NoiseMethod TcpStream ConnectionError Unit :=
  match result with
  | .whole => Method.modify fun s => { s with outgoing := s.outgoing ++ data }
  | .failed written message => do
    Method.modify fun s => { s with outgoing := s.outgoing ++ data.take written }
    Method.lift (.err (.io message))

/-- Reads exactly `n` bytes off the stream, unless the wait for them is given up. -/
def readExact (wait : Wait) (n : Nat) : NoiseMethod TcpStream ConnectionError (ByteArr n) :=
  match wait with
  | .inTime => do
    let s ← Method.get
    if h : s.incoming.length < n then do
      -- What there is was taken off the stream before its end was noticed.
      Method.modify fun s => { s with incoming := [] }
      Method.lift (.err (.io "failed to fill whole buffer"))
    else do
      Method.modify fun s => { s with incoming := s.incoming.drop n }
      return Slice.pack (s.incoming.take n) (List.length_take_of_le (Nat.le_of_not_lt h))
  | .givenUp taken message => do
    -- The bytes that came in time are lost.
    Method.modify fun s => { s with incoming := s.incoming.drop (min taken (n - 1)) }
    Method.lift (.err (.io message))

/-- The stream of the connection. -/
def streamPart : StatePart BlockingConnection TcpStream where
  view c := c.stream
  update stream c := { c with stream }
  view_update _ _ := rfl
  update_update _ _ _ := rfl
  update_view _ := rfl

/-- The cipher of the connection. -/
def cipherPart : StatePart BlockingConnection NoiseCipher where
  view c := c.cipher
  update cipher c := { c with cipher }
  view_update _ _ := rfl
  update_update _ _ _ := rfl
  update_view _ := rfl

/-- What sending needs of the connection: what was written, and the cipher. -/
def sending : StatePart BlockingConnection NoiseConnection where
  view c := { stream := c.stream.outgoing, cipher := c.cipher }
  update side c := { stream := { c.stream with outgoing := side.stream }, cipher := side.cipher }
  view_update _ _ := rfl
  update_update _ _ _ := rfl
  update_view _ := rfl

/-- The write half: what was written, with the send half of the cipher. -/
def writer : StatePart BlockingConnection NoiseWriter where
  view c := { stream := c.stream.outgoing, cipher := c.cipher.split.1 }
  update half c := { stream := { c.stream with outgoing := half.stream },
                     cipher := NoiseCipher.sendHalf.update half.cipher c.cipher }
  view_update _ _ := rfl
  update_update _ _ _ := rfl
  update_view _ := rfl

/-- The read half: what is to be read, with the receive half of the cipher. -/
def reader : StatePart BlockingConnection NoiseReader where
  view c := { stream := c.stream.incoming, cipher := c.cipher.split.2 }
  update half c := { stream := { c.stream with incoming := half.stream },
                     cipher := NoiseCipher.recvHalf.update half.cipher c.cipher }
  view_update _ _ := rfl
  update_update _ _ _ := rfl
  update_view _ := rfl

/-- The connection as its two halves. -/
def halves (c : BlockingConnection) : NoiseWriter × NoiseReader := (writer.view c, reader.view c)

section

variable {S : Secp256k1} (P : Primitives) {σ : Type}

/-- Performs the Noise handshake as initiator. -/
def performHandshake (localStatic localEphemeral : S.SecretKey) (remotePubkey : S.PublicKey)
    (writeActOne writeActThree : WriteResult) (waitActTwo : Wait) :
    NoiseMethod TcpStream ConnectionError NoiseCipher := do
  let handshake := NoiseHandshake.newInitiator P localStatic localEphemeral remotePubkey
  let (actOne, handshake) ← Method.mapErr .noise
    (Method.withLocal handshake (NoiseHandshake.getActOne P))
  writeAll writeActOne actOne.toList
  let actTwo ← readExact waitActTwo actTwoSize
  let (actThree, handshake) ← Method.mapErr .noise
    (Method.withLocal handshake (NoiseHandshake.processActTwo P actTwo))
  writeAll writeActThree actThree.toList
  let (cipher, _) ← Method.mapErr .noise
    (Method.withLocal handshake (NoiseHandshake.intoCipher P))
  return cipher

/-- Connects to a remote Lightning node and performs the Noise handshake. -/
def connect (remotePubkey : S.PublicKey) (localStatic : S.SecretKey) (timing : Timing)
    (dial : Dial S) : NoiseMethod σ ConnectionError BlockingConnection := do
  let stream ← Method.lift (connectTimeout timing dial.connected)
  Method.lift (Outcome.ofExcept .io timing.nodelay)
  Method.lift (setTimeout timing)
  Method.lift (setTimeout timing)
  let (cipher, stream) ← Method.withLocal stream (performHandshake P localStatic dial.ephemeral
    remotePubkey dial.writeActOne dial.writeActThree timing.actTwo)
  return { stream, cipher }

/-- Sends an encrypted message to the peer. -/
def sendMessage (result : WriteResult) (msg : Bytes) :
    NoiseMethod BlockingConnection ConnectionError Unit :=
  Method.on sending (NoiseConnection.sendMessage P result msg)

/-- Receives and decrypts a message from the peer, with a wait for each of its two
    parts. -/
def recvMessage (header body : Wait) : NoiseMethod BlockingConnection ConnectionError Bytes := do
  let encryptedLen ← Method.on streamPart (readExact header encryptedLengthSize)
  let msgLen ← Method.mapErr .noise
    (Method.on cipherPart (NoiseCipher.decryptLength P encryptedLen))
  let encryptedMsg ← Method.on streamPart (readExact body (msgLen.toNat + macSize))
  Method.mapErr .noise (Method.on cipherPart (NoiseCipher.decryptMessage P encryptedMsg.toList))

end

end BlockingConnection

/-- A call on a connection. Only the blocking one can give up its waits. -/
inductive ConnectionOp where
  | send (result : WriteResult) (msg : Bytes)
  | recv (header body : Wait)

/-- The call with all that it waits for in time. -/
def ConnectionOp.inTime : ConnectionOp → ConnectionOp
  | .send result msg => .send result msg
  | .recv _ _ => .recv .inTime .inTime

section

variable (P : Primitives)

/-- The call on the blocking connection, with the message it receives. -/
def ConnectionOp.onBlocking : ConnectionOp →
    NoiseMethod BlockingConnection ConnectionError (Option Bytes)
  | .send result msg => do
    BlockingConnection.sendMessage P result msg
    return none
  | .recv header body => do
    let msg ← BlockingConnection.recvMessage P header body
    return some msg

/-- The call on the half it is for. -/
def ConnectionOp.onHalves : ConnectionOp →
    NoiseMethod (NoiseWriter × NoiseReader) NoiseError (Option Bytes)
  | .send result msg => do
    Method.on StatePart.left (NoiseWriter.send P result msg)
    return none
  | .recv _ _ => do
    let msg ← Method.on StatePart.right (NoiseReader.recv P)
    return some msg

end

namespace BlockingConnection

open Method

section

variable (P : Primitives)

/-- Encrypting has no error to rename. -/
theorem mapErr_encrypt {ε ε' : Type} (f : ε → ε') (msg : Bytes) :
    mapErr f (SendCipher.encrypt P msg : NoiseMethod SendCipher ε Bytes)
      = SendCipher.encrypt P msg := by
  have hexpect : ∀ {α : Type} (x : Option α),
      (Outcome.expect x : Outcome ε α).mapErr f = Outcome.expect x := by
    intro α x
    cases x with
    | some a => rfl
    | none => rfl
  simp only [SendCipher.encrypt, SendCipher.encryptLength, HalfCipher.sealNext,
    HalfCipher.maybeRotate, hkdfTwoKeys, encryptWithAd, mapErr_bind, mapErr_lift, mapErr_get,
    mapErr_modify, mapErr_record, mapErr_pure, mapErr_ite, hexpect]

theorem mapErr_rejectIf {ε ε' : Type} (f : ε → ε') (c : Prop) [Decidable c] (e : ε) :
    (Outcome.rejectIf c e).mapErr f = Outcome.rejectIf c (f e) := by
  unfold Outcome.rejectIf
  by_cases h : c
  · rw [if_pos h, if_pos h, Outcome.mapErr_err]
  · rw [if_neg h, if_neg h, Outcome.mapErr_ok]

/-- Sending a message is sending it on the write half. -/
theorem sendMessage_eq (result : WriteResult) (msg : Bytes) :
    mapErr ConnectionError.kind (sendMessage P result msg)
      = mapErr NoiseError.kind (on writer (NoiseWriter.send P result msg)) := by
  have hencrypt : mapErr ConnectionError.kind (on sending (zoom NoiseConnection.cipher
        (fun cipher c => { c with cipher }) (NoiseCipher.encrypt P msg)))
      = mapErr NoiseError.kind (on writer (zoom NoiseWriter.cipher
        (fun c w => { w with cipher := c }) (SendCipher.encrypt P msg))) := by
    -- Both zoom down to the send half of the cipher: once the nested views are one view,
    -- the two sides are the same method.
    rw [NoiseCipher.encrypt_eq]
    unfold on
    rw [mapErr_zoom, mapErr_zoom, mapErr_zoom, mapErr_zoom, mapErr_zoom, mapErr_encrypt,
      mapErr_encrypt]
    rfl
  have hwrite : ∀ data, mapErr ConnectionError.kind
        (on sending (NoiseConnection.writeAll result data))
      = mapErr NoiseError.kind (on writer (NoiseWriter.writeAll result data)) := by
    intro data
    cases result with
    | whole => rfl
    | failed written message => rfl
  -- The message's bound is checked first on both sides, with errors of one kind.
  unfold sendMessage NoiseConnection.sendMessage NoiseWriter.send
  simp only [on_bind, mapErr_bind, on_lift, mapErr_lift, mapErr_rejectIf, hencrypt, hwrite]
  rfl

/-- Reading off the stream is reading off the read half, up to the error's text. -/
theorem readExact_eq (n : Nat) :
    mapErr ConnectionError.kind (on streamPart (readExact .inTime n))
      = mapErr NoiseError.kind (on reader (NoiseReader.readExact n)) := by
  unfold readExact NoiseReader.readExact
  rw [on_get_bind, on_get_bind, mapErr_bind, mapErr_bind, mapErr_get, mapErr_get]
  refine congrArg _ (funext fun c => ?_)
  by_cases h : n ≤ c.stream.incoming.length
  · rw [dif_neg (show ¬(streamPart.view c).incoming.length < n from Nat.not_lt.mpr h),
      dif_pos (show n ≤ (reader.view c).stream.length from h)]
    rfl
  · rw [dif_pos (show (streamPart.view c).incoming.length < n from Nat.lt_of_not_le h),
      dif_neg (show ¬n ≤ (reader.view c).stream.length from h)]
    rfl

/-- It is also reading off the stream of the daemon's connection. -/
theorem mapErr_readExact (n : Nat) :
    mapErr ConnectionError.kind (readExact .inTime n)
      = mapErr NoiseError.kind (TcpStream.readExact n) := by
  unfold readExact TcpStream.readExact
  rw [mapErr_bind, mapErr_bind, mapErr_get, mapErr_get]
  refine congrArg _ (funext fun s => ?_)
  by_cases h : n ≤ s.incoming.length
  · rw [dif_neg (Nat.not_lt.mpr h), dif_pos h]
    rfl
  · rw [dif_pos (Nat.lt_of_not_le h), dif_neg h]
    rfl

theorem mapErr_writeAll (result : WriteResult) (data : Bytes) :
    mapErr ConnectionError.kind (writeAll result data)
      = mapErr NoiseError.kind (TcpStream.writeAll result data) := by
  cases result with
  | whole => rfl
  | failed written message => rfl

theorem mapErr_connectTimeout (timing : Timing) (h : timing.Kept)
    (connected : Except String Bytes) :
    (connectTimeout timing connected).mapErr ConnectionError.kind
      = (TcpStream.connect connected).mapErr NoiseError.kind := by
  unfold connectTimeout
  rw [Outcome.rejectIf_of_not _ _ h.timeout, h.opening]
  cases connected with
  | ok incoming => rfl
  | error message => rfl

/-- Receiving a message is receiving it on the read half. -/
theorem recvMessage_eq :
    mapErr ConnectionError.kind (recvMessage P .inTime .inTime)
      = mapErr NoiseError.kind (on reader (NoiseReader.recv P)) := by
  have hlength : ∀ header, mapErr ConnectionError.kind (mapErr .noise
        (on cipherPart (NoiseCipher.decryptLength P header)))
      = mapErr NoiseError.kind (on reader (zoom NoiseReader.cipher
        (fun c r => { r with cipher := c }) (RecvCipher.decryptLength P header))) := by
    intro header
    rw [mapErr_mapErr, NoiseCipher.decryptLength_eq]
    rfl
  have hmessage : ∀ body, mapErr ConnectionError.kind (mapErr .noise
        (on cipherPart (NoiseCipher.decryptMessage P body)))
      = mapErr NoiseError.kind (on reader (zoom NoiseReader.cipher
        (fun c r => { r with cipher := c }) (RecvCipher.decryptMessage P body))) := by
    intro body
    rw [mapErr_mapErr, NoiseCipher.decryptMessage_eq]
    rfl
  -- Header, length, body, message: the same four steps on either side.
  unfold recvMessage NoiseReader.recv
  simp only [on_bind, mapErr_bind, readExact_eq, hlength, hmessage]

/-- Connecting makes the connection whose halves the daemon makes. -/
theorem connect_eq {S : Secp256k1} {σ : Type} (remotePubkey : S.PublicKey)
    (localStatic : S.SecretKey) (timing : Timing) (h : timing.Kept) (dial : Dial S) :
    (mapErr ConnectionError.kind (connect P remotePubkey localStatic timing dial) >>= fun c =>
        pure c.halves : NoiseMethod σ (Option NoiseError) (NoiseWriter × NoiseReader))
      = mapErr NoiseError.kind (openConnection P remotePubkey localStatic dial) := by
  -- The handshake lives in a local variable here and in the daemon's body there, so the
  -- locals are flattened before the two are compared.
  unfold connect performHandshake openConnection setTimeout
  rw [h.nodelay, h.actTwo, Outcome.rejectIf_of_not _ _ h.timeout]
  simp only [mapErr_bind, mapErr_lift, mapErr_connectTimeout timing h, mapErr_withLocal,
    withLocal_bind, withLocal_withLocal, withLocal_pure, mapErr_pure, mapErr_mapErr,
    mapErr_writeAll, mapErr_readExact, bind_assoc, pure_bind]
  rfl

/-- An error of the socket. -/
def OfSocket (e : ConnectionError) : Prop := ∃ message, e = .io message

/-- A read does the same as one in time, unless it is given up. -/
theorem readExact_sameUnless (wait : Wait) (n : Nat) :
    SameUnless OfSocket (readExact wait n) (readExact .inTime n) := by
  cases wait with
  | inTime => exact sameUnless_refl _ _
  | givenUp taken message =>
      exact sameUnless_of_err _ _ _ fun s => ⟨.io message, rfl, message, rfl⟩

/-- The same of receiving a message, one part after the other. -/
theorem recvMessage_sameUnless (header body : Wait) :
    SameUnless OfSocket (recvMessage P header body) (recvMessage P .inTime .inTime) := by
  refine sameUnless_bind _ _ _ _ _
    (sameUnless_on _ _ _ _ (readExact_sameUnless header _)) fun encryptedLen => ?_
  refine sameUnless_bind _ _ _ _ _ (sameUnless_refl _ _) fun msgLen => ?_
  refine sameUnless_bind _ _ _ _ _
    (sameUnless_on _ _ _ _ (readExact_sameUnless body _)) fun encryptedMsg => ?_
  exact sameUnless_refl _ _

/-- The same of any call. A write that is given up is one that failed on either side. -/
theorem onBlocking_sameUnless (op : ConnectionOp) :
    SameUnless OfSocket (op.onBlocking P) (op.inTime.onBlocking P) := by
  cases op with
  | send result msg => exact sameUnless_refl _ _
  | recv header body =>
      exact sameUnless_bind _ _ _ _ _ (recvMessage_sameUnless P header body)
        fun msg => sameUnless_refl _ _

theorem setTimeout_sameUnless {σ : Type} (timing : Timing) :
    SameUnless OfSocket (lift (setTimeout timing) : NoiseMethod σ ConnectionError Unit)
      (lift (setTimeout .patient)) := by
  unfold setTimeout
  by_cases h : timing.timeout = 0
  · rw [Outcome.rejectIf, if_pos h]
    exact sameUnless_of_err _ _ _ fun s => ⟨_, rfl, _, rfl⟩
  · rw [Outcome.rejectIf_of_not _ _ h]
    exact sameUnless_refl _ _

theorem connectTimeout_sameUnless {σ : Type} (timing : Timing) (connected : Except String Bytes) :
    SameUnless OfSocket (lift (connectTimeout timing connected) : NoiseMethod σ ConnectionError _)
      (lift (connectTimeout .patient connected)) := by
  unfold connectTimeout
  by_cases h : timing.timeout = 0
  · rw [Outcome.rejectIf, if_pos h]
    exact sameUnless_of_err _ _ _ fun s => ⟨_, rfl, _, rfl⟩
  · rw [Outcome.rejectIf_of_not _ _ h]
    cases hopening : timing.opening with
    | ok u => exact sameUnless_refl _ _
    | error message => exact sameUnless_of_err _ _ _ fun s => ⟨_, rfl, message, rfl⟩

/-- The same of connecting. -/
theorem connect_sameUnless {S : Secp256k1} {σ : Type} (remotePubkey : S.PublicKey)
    (localStatic : S.SecretKey) (timing : Timing) (dial : Dial S) :
    SameUnless OfSocket
      (connect P remotePubkey localStatic timing dial : NoiseMethod σ ConnectionError _)
      (connect P remotePubkey localStatic .patient dial) := by
  have hnodelay : SameUnless OfSocket
      (lift (Outcome.ofExcept .io timing.nodelay) : NoiseMethod σ ConnectionError Unit)
      (lift (Outcome.ofExcept .io Timing.patient.nodelay)) := by
    cases timing.nodelay with
    | ok u => exact sameUnless_refl _ _
    | error message => exact sameUnless_of_err _ _ _ fun s => ⟨_, rfl, message, rfl⟩
  refine sameUnless_bind _ _ _ _ _ (connectTimeout_sameUnless timing _) fun stream => ?_
  refine sameUnless_bind _ _ _ _ _ hnodelay fun _ => ?_
  refine sameUnless_bind _ _ _ _ _ (setTimeout_sameUnless timing) fun _ => ?_
  refine sameUnless_bind _ _ _ _ _ (setTimeout_sameUnless timing) fun _ => ?_
  refine sameUnless_bind _ _ _ _ _ (sameUnless_withLocal _ _ _ _ ?_) fun made =>
    sameUnless_refl _ _
  -- In the handshake only the wait for the second act can be given up.
  refine sameUnless_bind _ _ _ _ _ (sameUnless_refl _ _) fun actOne => ?_
  refine sameUnless_bind _ _ _ _ _ (sameUnless_refl _ _) fun _ => ?_
  refine sameUnless_bind _ _ _ _ _ (readExact_sameUnless _ _) fun actTwo => ?_
  exact sameUnless_refl _ _

/-- A timeout of zero is refused, whatever the peer does. -/
theorem connect_zero_timeout {S : Secp256k1} {σ : Type} (remotePubkey : S.PublicKey)
    (localStatic : S.SecretKey) (timing : Timing) (h : timing.timeout = 0) (dial : Dial S) (s : σ) :
    (connect P remotePubkey localStatic timing dial).run s
      = ⟨.err (.io "cannot set a 0 duration timeout"), s, []⟩ := by
  unfold connect connectTimeout Outcome.rejectIf
  rw [if_pos h]
  rfl

/-- A call on the write half leaves the halves as on a connection that is split. -/
theorem run_on_left (m : NoiseMethod NoiseWriter (Option NoiseError) (Option Bytes))
    (c : BlockingConnection) :
    (on StatePart.left m : NoiseMethod (NoiseWriter × NoiseReader) _ _).run c.halves
      = ⟨((on writer m).run c).outcome, halves ((on writer m).run c).state,
          ((on writer m).run c).trace⟩ := rfl

/-- So does one on the read half. -/
theorem run_on_right (m : NoiseMethod NoiseReader (Option NoiseError) (Option Bytes))
    (c : BlockingConnection) :
    (on StatePart.right m : NoiseMethod (NoiseWriter × NoiseReader) _ _).run c.halves
      = ⟨((on reader m).run c).outcome, halves ((on reader m).run c).state,
          ((on reader m).run c).trace⟩ := rfl

/-- One call does the same on the connection and on its halves. -/
theorem run_op (op : ConnectionOp) (c : BlockingConnection) :
    let called := (mapErr ConnectionError.kind (op.inTime.onBlocking P)).run c
    (mapErr NoiseError.kind (op.onHalves P)).run c.halves
      = ⟨called.outcome, called.state.halves, called.trace⟩ := by
  intro called
  cases op with
  | send result msg =>
      have hblocking : mapErr ConnectionError.kind ((ConnectionOp.send result msg).onBlocking P)
          = on writer (mapErr NoiseError.kind (NoiseWriter.send P result msg) >>= fun _ =>
              pure none) := by
        unfold ConnectionOp.onBlocking
        rw [mapErr_bind, sendMessage_eq, on_bind, mapErr_on]
        simp only [mapErr_pure, on_pure]
      have hhalves : mapErr NoiseError.kind ((ConnectionOp.send result msg).onHalves P)
          = on StatePart.left (mapErr NoiseError.kind (NoiseWriter.send P result msg) >>= fun _ =>
              pure none) := by
        unfold ConnectionOp.onHalves
        rw [mapErr_bind, on_bind, mapErr_on]
        simp only [mapErr_pure, on_pure]
      -- What is left is that a part of the connection moves as it would alone.
      rw [hhalves, run_on_left, ← hblocking]
      rfl
  | recv header body =>
      have hblocking : mapErr ConnectionError.kind
            ((ConnectionOp.recv .inTime .inTime).onBlocking P)
          = on reader (mapErr NoiseError.kind (NoiseReader.recv P) >>= fun msg =>
              pure (some msg)) := by
        unfold ConnectionOp.onBlocking
        rw [mapErr_bind, recvMessage_eq, on_bind, mapErr_on]
        simp only [mapErr_pure, on_pure]
      have hhalves : mapErr NoiseError.kind ((ConnectionOp.recv header body).onHalves P)
          = on StatePart.right (mapErr NoiseError.kind (NoiseReader.recv P) >>= fun msg =>
              pure (some msg)) := by
        unfold ConnectionOp.onHalves
        rw [mapErr_bind, on_bind, mapErr_on]
        simp only [mapErr_pure, on_pure]
      rw [hhalves, run_on_right, ← hblocking]
      rfl

/-- The blocking connection and the split one are the same up to the texts of the
    socket's errors, as long as the blocking one gives up no wait. With any peer,
    connecting ends alike, and when it ends well the same acts were written and the same
    bytes are left to be read. After that any sequence of sends and receives, failed
    ones included, has the same results, writes the same bytes and leaves the same
    halves. Where a wait is given up, connecting or the call still does the same, or it
    ends in an error of the socket. -/
theorem blocking_refines_split {S : Secp256k1} {σ : Type} (remotePubkey : S.PublicKey)
    (localStatic : S.SecretKey) (dial : Dial S) :
    (∀ timing : Timing, timing.Kept →
      (mapErr ConnectionError.kind (connect P remotePubkey localStatic timing dial) >>= fun c =>
          pure c.halves : NoiseMethod σ (Option NoiseError) (NoiseWriter × NoiseReader))
        = mapErr NoiseError.kind (openConnection P remotePubkey localStatic dial))
    ∧ (∀ (timing : Timing) (s : σ),
      let connected : NoiseMethod σ ConnectionError BlockingConnection :=
        connect P remotePubkey localStatic timing dial
      (mapErr ConnectionError.kind connected >>= fun c => pure c.halves).run s
          = (mapErr NoiseError.kind (openConnection P remotePubkey localStatic dial)).run s
        ∨ ∃ e, (connected.run s).outcome = .err e ∧ OfSocket e)
    ∧ (∀ (ops : List ConnectionOp) (c : BlockingConnection), (∀ op ∈ ops, op.inTime = op) →
      let blocking := calls (fun op => mapErr ConnectionError.kind (op.onBlocking P)) ops c
      calls (fun op => mapErr NoiseError.kind (op.onHalves P)) ops c.halves
        = ⟨blocking.outcomes, blocking.state.halves, blocking.trace⟩)
    ∧ ∀ (op : ConnectionOp) (c : BlockingConnection),
      let called := (op.onBlocking P).run c
      (mapErr NoiseError.kind (op.onHalves P)).run c.halves
          = ⟨called.outcome.mapErr ConnectionError.kind, called.state.halves, called.trace⟩
        ∨ ∃ e, called.outcome = .err e ∧ OfSocket e := by
  refine ⟨fun timing h => connect_eq P remotePubkey localStatic timing h dial,
    fun timing s => ?_, fun ops c hops => ?_, fun op c => ?_⟩
  · intro connected
    refine (connect_sameUnless P remotePubkey localStatic timing dial s).imp_left fun hsame => ?_
    -- What follows depends on the run alone, and that is the run of a patient connection.
    have hpatient := connect_eq (σ := σ) P remotePubkey localStatic .patient Timing.patient_kept
      dial
    rw [← hpatient, run_bind, run_bind]
    have hrun : (mapErr ConnectionError.kind connected).run s = (mapErr ConnectionError.kind
        (connect P remotePubkey localStatic .patient dial)).run s := by
      change (⟨(connected.run s).outcome.mapErr _, (connected.run s).state, (connected.run s).trace⟩
        : Return _ σ _ _) = _
      rw [hsame]
      rfl
    rw [hrun]
  · intro blocking
    have hblocking : blocking
        = calls (fun op => mapErr ConnectionError.kind (op.inTime.onBlocking P)) ops c :=
      calls_congr _ _ ops (fun op hop => by rw [hops op hop]) c
    rw [hblocking]
    exact calls_map _ _ halves (run_op P) ops c
  · intro called
    refine (onBlocking_sameUnless P op c).imp_left fun hsame => ?_
    rw [run_op P op c, show called = (op.inTime.onBlocking P).run c from hsame]
    rfl

end

end BlockingConnection

end Simd

end LnGossipSim
