import LnGossipSim.Library.Transition
import LnGossipSim.Simd.Conn

/-!
# The Read Loop

The task that reads from one peer. It waits for two things at once, the next
message and the next ping tick, and whichever completes first drops the other.
Receiving a message is a future with two awaits, and the bytes it has read are
kept in the future: dropping it loses them, while the cipher remembers that the
length was decrypted.

The remote is honest. What it has sent is in flight until it arrives, arrives
in pieces of any size, and is read by the future when that is polled. The
events are the arrival of bytes, a poll of the future and a completed tick, in
any order.

As long as no tick completes while the future holds bytes, the bytes that were
read, the bytes in the socket and the bytes in flight make up the rest of the
stream, and the cipher is where the remote's was when it sealed them. That is
the invariant. A tick that does complete then breaks it. A write that fails ends
the loop, so a loop that is to go on needs every write to succeed as well.

## Main definitions

* `RecvFuture`: How far receiving a message has got.
* `ReadLoop`: The state of the task and of the stream.
* `RecvFuture.poll`: One poll of the future.
* `ReadLoop.step`: What an event does.
* `Arrived`: The frames of the first messages are no longer in flight.
* `Delivers`: What the loop is for.
* `TickBetweenFrames`, `LoopEvent.Whole`: The conditions under which it does it.

## Theorems

* `poll_append`: Bytes that come in pieces are read as if they had come at once.
* `poll_eq_recv`: With the whole frame there, one poll receives it.
* `step_aligned`: What an event between frames preserves.
* `aligned_at_hand`: A frame that has arrived is read by the next poll.
* `readLoop_ordered`: Writes that fail lose nothing that was handed over.
* `readLoop_delivers`: Runs with ticks between frames only lose nothing.
-/

namespace LnGossipSim

namespace Simd

open Noise

/-- How far receiving a message has got: reading the header, or reading the body
    after its length was decrypted. -/
inductive RecvFuture where
  | header (buffer : Bytes)
  | body (msgLen : UInt16) (buffer : Bytes)
  deriving DecidableEq

/-- What a poll of the future returns. -/
inductive Poll where
  | pending (future : RecvFuture)
  | ready (result : Outcome NoiseError Bytes)
  deriving DecidableEq

/-- Why the loop ended. -/
inductive EndReason where
  | messageTooShort
  | handlerFailed
  | readError (error : NoiseError)
  | pingFailed
  | panicked
  deriving DecidableEq

/-- Whether the loop is still running. -/
inductive LoopStatus where
  | running
  | ended (reason : EndReason)
  deriving DecidableEq

/-- The state of the task and of the stream it reads: the bytes in flight, the
    bytes that have arrived and were not read, the cipher, the future, and the
    messages handed to `handle_peer_message`. -/
structure ReadLoop where
  inFlight : Bytes
  socket : Bytes
  cipher : RecvCipher
  future : RecvFuture
  handled : List Bytes
  status : LoopStatus
  deriving DecidableEq

/-- What can happen. A message may fail to be handled, and a ping may fail to be
    sent. -/
inductive LoopEvent where
  | arrive (n : Nat)
  | poll (handlerOk : Bool)
  | tick (pingOk : Bool)
  deriving DecidableEq

section

variable (P : Primitives)

/-- Reads the body from the bytes at hand: decrypts it when there are enough of
    them, and holds them otherwise. -/
def pollBody (msgLen : UInt16) (data : Bytes) (c : RecvCipher) : Poll × Bytes × RecvCipher :=
  if msgLen.toNat + macSize ≤ data.length then
    let r := (RecvCipher.decryptMessage P (data.take (msgLen.toNat + macSize))).run c
    (.ready r.outcome, data.drop (msgLen.toNat + macSize), r.state)
  else
    (.pending (.body msgLen data), [], c)

/-- Reads the header from the bytes at hand, and goes on to the body when it is
    complete. -/
def pollHeader (data : Bytes) (c : RecvCipher) : Poll × Bytes × RecvCipher :=
  if h : encryptedLengthSize ≤ data.length then
    let header := Slice.pack (data.take encryptedLengthSize) (List.length_take_of_le h)
    let r := (RecvCipher.decryptLength P header).run c
    let rest := data.drop encryptedLengthSize
    match r.outcome with
    | .ok msgLen => pollBody P msgLen rest r.state
    | .err e => (.ready (.err e), rest, r.state)
    | .panicked => (.ready .panicked, rest, r.state)
    | .diverged => (.ready .diverged, rest, r.state)
  else
    (.pending (.header data), [], c)

/-- One poll of the future, which goes on from the bytes it holds with those in
    the socket: the result, the bytes left in the socket, and the cipher. -/
def RecvFuture.poll (f : RecvFuture) (socket : Bytes) (c : RecvCipher) :
    Poll × Bytes × RecvCipher :=
  match f with
  | .header buffer => pollHeader P (buffer ++ socket) c
  | .body msgLen buffer => pollBody P msgLen (buffer ++ socket) c

namespace ReadLoop

/-- What the loop does with a message that was received. -/
def onMessage (handlerOk : Bool) (raw : Bytes) (s : ReadLoop) : ReadLoop :=
  if raw.length < 2 then { s with status := .ended .messageTooShort }
  else if handlerOk then { s with handled := s.handled ++ [raw] }
  else { s with handled := s.handled ++ [raw], status := .ended .handlerFailed }

/-- What an event does. -/
def step (s : ReadLoop) : LoopEvent → Option ReadLoop
  | .arrive n =>
    if n ≤ s.inFlight.length then
      some { s with socket := s.socket ++ s.inFlight.take n, inFlight := s.inFlight.drop n }
    else none
  | .poll handlerOk =>
    match s.status with
    | .ended _ => none
    | .running =>
      match s.future.poll P s.socket s.cipher with
      | (.pending future, socket, cipher) => some { s with future, socket, cipher }
      | (.ready result, socket, cipher) =>
        -- The completed future is gone, and the next iteration makes a new one.
        let s := { s with future := .header [], socket, cipher }
        match result with
        | .ok raw => some (s.onMessage handlerOk raw)
        | .err e => some { s with status := .ended (.readError e) }
        | .panicked => some { s with status := .ended .panicked }
        | .diverged => some { s with status := .ended .panicked }
  | .tick pingOk =>
    match s.status with
    | .ended _ => none
    | .running =>
      -- The receiving future did not complete, and `select!` drops it.
      let s := { s with future := .header [] }
      if pingOk then some s else some { s with status := .ended .pingFailed }

/-- The loop before its first iteration, with a stream on its way. -/
def start (c : RecvCipher) (stream : Bytes) : ReadLoop :=
  { inFlight := stream, socket := [], cipher := c, future := .header [], handled := [],
    status := .running }

end ReadLoop

/-- The frames an honest remote writes for messages. -/
def frames (c : SendCipher) (msgs : List Bytes) : List Bytes :=
  (Method.calls (SendCipher.encrypt P : Bytes → NoiseMethod SendCipher NoiseError Bytes) msgs
    c).outcomes.filterMap Outcome.toOption

/-- The frames of the first `k` messages are no longer in flight. -/
def Arrived (c : HalfCipher) (msgs : List Bytes) (s : ReadLoop) (k : Nat) : Prop :=
  ((frames P c msgs).take k).flatten.length + s.inFlight.length
    ≤ (frames P c msgs).flatten.length

/-- What the loop is for: it goes on, it has handed over the messages in order and
    each of them once, and what has arrived is not held back. When there is nothing
    left to read, all messages whose frames have arrived were handed over, and until
    then every poll hands over one more of them. -/
structure Delivers (c : HalfCipher) (msgs : List Bytes) (s : ReadLoop) : Prop where
  running : s.status = .running
  inOrder : s.handled <+: msgs
  complete : s.socket = [] → ∀ k ≤ msgs.length, Arrived P c msgs s k → k ≤ s.handled.length
  prompt : ∀ k ≤ msgs.length, Arrived P c msgs s k → s.handled.length ≤ k →
    ∃ s', Transition.run (ReadLoop.step P) s
        (List.replicate (k - s.handled.length) (.poll true)) = some s'
      ∧ s'.status = .running ∧ s'.handled = msgs.take k

/-- Read from the state `c`, the whole frame gives the message, and a part of it
    nothing yet. -/
structure Frame (c : HalfCipher) (msg frame : Bytes) (c' : HalfCipher) : Prop where
  whole : ∀ rest, pollHeader P (frame ++ rest) c = (.ready (.ok msg), rest, c')
  part : ∀ data missing, frame = data ++ missing → missing ≠ [] →
    ∃ f c₁, pollHeader P data c = (.pending f, [], c₁)

/-- Read from the state `c`, the frames give the messages one after the
    other. -/
inductive Framed : HalfCipher → List Bytes → List Bytes → Prop where
  | nil (c : HalfCipher) : Framed c [] []
  | cons (c c' : HalfCipher) (msg frame : Bytes) (msgs fs : List Bytes)
      (hframe : Frame P c msg frame c') (hrest : Framed c' msgs fs) :
      Framed c (msg :: msgs) (frame :: fs)

/-- The loop has handed over some of the messages and is still running, unless a
    send has failed. Then the bytes that its future holds, those in the socket
    and those in flight are the other frames, and the future is where reading
    the bytes it holds leaves it. -/
def Aligned (c₀ : HalfCipher) (msgs : List Bytes) (s : ReadLoop) : Prop :=
  ∃ k c held, k ≤ msgs.length ∧ s.handled = msgs.take k
    ∧ Framed P c (msgs.drop k) ((frames P c₀ msgs).drop k)
    ∧ (s.status = .ended .handlerFailed ∨ s.status = .ended .pingFailed
      ∨ s.status = .running ∧ pollHeader P held c = (.pending s.future, [], s.cipher)
        ∧ held ++ s.socket ++ s.inFlight = ((frames P c₀ msgs).drop k).flatten)

/-- A tick completes only while the future has read no byte of the next
    frame. -/
def TickBetweenFrames (s : ReadLoop) : LoopEvent → Prop
  | .tick _ => s.future = .header []
  | _ => True

/-- No write fails: the message is handled, and the ping is sent. -/
def LoopEvent.Whole : LoopEvent → Prop
  | .arrive _ => True
  | .poll handlerOk => handlerOk = true
  | .tick pingOk => pingOk = true

instance : DecidablePred LoopEvent.Whole
  | .arrive _ => isTrue trivial
  | .poll handlerOk => inferInstanceAs (Decidable (handlerOk = true))
  | .tick pingOk => inferInstanceAs (Decidable (pingOk = true))

instance (s : ReadLoop) : ∀ e, Decidable (TickBetweenFrames s e)
  | .tick _ => inferInstanceAs (Decidable (s.future = .header []))
  | .arrive _ => isTrue trivial
  | .poll _ => isTrue trivial

end

section

variable {P : Primitives}

theorem pollBody_of_lt (msgLen : UInt16) (data : Bytes) (c : RecvCipher)
    (h : data.length < msgLen.toNat + macSize) :
    pollBody P msgLen data c = (.pending (.body msgLen data), [], c) := by
  unfold pollBody
  rw [if_neg (by omega)]

theorem pollBody_of_length (msgLen : UInt16) (body rest raw : Bytes) (c c' : RecvCipher)
    (t : List PrimitiveCall) (hlen : body.length = msgLen.toNat + macSize)
    (h : (RecvCipher.decryptMessage P body).run c = ⟨.ok raw, c', t⟩) :
    pollBody P msgLen (body ++ rest) c = (.ready (.ok raw), rest, c') := by
  unfold pollBody
  rw [if_pos (by rw [List.length_append]; omega), List.take_left' hlen, List.drop_left' hlen, h]

theorem pollHeader_of_lt (data : Bytes) (c : RecvCipher) (h : data.length < encryptedLengthSize) :
    pollHeader P data c = (.pending (.header data), [], c) := by
  unfold pollHeader
  rw [dif_neg (by omega)]

/-- A complete header is decrypted, and what follows it is the body. -/
theorem pollHeader_of_header (header : ByteArr encryptedLengthSize) (rest : Bytes)
    (c : RecvCipher) :
    pollHeader P (header.toList ++ rest) c
      = match (RecvCipher.decryptLength P header).run c with
        | ⟨.ok msgLen, c', _⟩ => pollBody P msgLen rest c'
        | ⟨.err e, c', _⟩ => (.ready (.err e), rest, c')
        | ⟨.panicked, c', _⟩ => (.ready .panicked, rest, c')
        | ⟨.diverged, c', _⟩ => (.ready .diverged, rest, c') := by
  have hle : encryptedLengthSize ≤ (header.toList ++ rest).length := by
    rw [List.length_append, header.toList_length]
    omega
  -- The bytes taken off the buffer are the header, and what is left is the rest.
  have hpack : Slice.pack ((header.toList ++ rest).take encryptedLengthSize)
      (List.length_take_of_le hle) = header :=
    Slice.pack_of_toList header _ _ (List.take_left' header.toList_length)
  unfold pollHeader
  rw [dif_pos hle]
  simp only [hpack, List.drop_left' header.toList_length]
  rcases (RecvCipher.decryptLength P header).run c with ⟨o, c', t⟩
  cases o with
  | ok msgLen => rfl
  | err e => rfl
  | panicked => rfl
  | diverged => rfl

theorem pollHeader_of_ok (header : ByteArr encryptedLengthSize) (rest : Bytes) (msgLen : UInt16)
    (c c' : RecvCipher) (t : List PrimitiveCall)
    (h : (RecvCipher.decryptLength P header).run c = ⟨.ok msgLen, c', t⟩) :
    pollHeader P (header.toList ++ rest) c = pollBody P msgLen rest c' := by
  rw [pollHeader_of_header, h]

/-- A body whose bytes come in pieces is read as if they had come at once. -/
theorem pollBody_append (msgLen : UInt16) (a b r : Bytes) (f : RecvFuture) (c c' : RecvCipher)
    (h : pollBody P msgLen a c = (.pending f, r, c')) :
    f.poll P b c' = pollBody P msgLen (a ++ b) c := by
  by_cases hsize : a.length < msgLen.toNat + macSize
  · rw [pollBody_of_lt msgLen a c hsize, Prod.mk.injEq, Prod.mk.injEq, Poll.pending.injEq] at h
    rcases h with ⟨rfl, rfl, rfl⟩
    rfl
  · unfold pollBody at h
    rw [if_pos (by omega), Prod.mk.injEq] at h
    exact absurd h.1 Poll.noConfusion

/-- A header whose bytes come in pieces is read as if they had come at once. -/
theorem pollHeader_append (a b r : Bytes) (f : RecvFuture) (c c' : RecvCipher)
    (h : pollHeader P a c = (.pending f, r, c')) :
    f.poll P b c' = pollHeader P (a ++ b) c := by
  by_cases hsize : a.length < encryptedLengthSize
  · rw [pollHeader_of_lt a c hsize, Prod.mk.injEq, Prod.mk.injEq, Poll.pending.injEq] at h
    rcases h with ⟨rfl, rfl, rfl⟩
    rfl
  · -- The header was complete, so the future is reading the body.
    rcases Slice.exists_toList encryptedLengthSize (a.take encryptedLengthSize)
      (List.length_take_of_le (by omega)) with ⟨header, hheader⟩
    have hsplit : a = header.toList ++ a.drop encryptedLengthSize := by
      rw [← hheader, List.take_append_drop]
    rw [hsplit, pollHeader_of_header] at h
    rw [hsplit, List.append_assoc, pollHeader_of_header]
    rcases hrun : (RecvCipher.decryptLength P header).run c with ⟨o, c₁, t⟩
    rw [hrun] at h
    cases o with
    | ok msgLen => exact pollBody_append msgLen _ b r f c₁ c' h
    | err e => exact absurd (congrArg Prod.fst h) Poll.noConfusion
    | panicked => exact absurd (congrArg Prod.fst h) Poll.noConfusion
    | diverged => exact absurd (congrArg Prod.fst h) Poll.noConfusion

/-- Bytes that come in pieces are read as if they had come at once. -/
theorem poll_append (f f' : RecvFuture) (a b r : Bytes) (c c' : RecvCipher)
    (h : f.poll P a c = (.pending f', r, c')) : f'.poll P b c' = f.poll P (a ++ b) c := by
  cases f with
  | header buffer =>
      have hpoll := pollHeader_append (buffer ++ a) b r f' c c' h
      rw [hpoll, List.append_assoc]
      rfl
  | body msgLen buffer =>
      have hpoll := pollBody_append msgLen (buffer ++ a) b r f' c c' h
      rw [hpoll, List.append_assoc]
      rfl

/-- A poll that completes does what receiving from these bytes does. -/
theorem poll_eq_recv (data rest : Bytes) (c c' : RecvCipher) (result : Outcome NoiseError Bytes)
    (h : (RecvFuture.header []).poll P data c = (.ready result, rest, c')) :
    ∃ t, (NoiseReader.recv P).run ⟨data, c⟩ = ⟨result, ⟨rest, c'⟩, t⟩ := by
  by_cases hsize : data.length < encryptedLengthSize
  · have hpoll := pollHeader_of_lt (P := P) data c hsize
    exact absurd (congrArg Prod.fst (hpoll.symm.trans h)) Poll.noConfusion
  -- A poll that completes had a whole header, which the reader takes too.
  · rcases Slice.exists_toList encryptedLengthSize (data.take encryptedLengthSize)
      (List.length_take_of_le (by omega)) with ⟨header, hheader⟩
    have hsplit : data = header.toList ++ data.drop encryptedLengthSize := by
      rw [← hheader, List.take_append_drop]
    have hread := run_readExact header.toList (data.drop encryptedLengthSize) c
      encryptedLengthSize header.toList_length
    rw [Slice.pack_of_toList header _ _ rfl, ← hsplit] at hread
    have hpoll := pollHeader_of_header (P := P) header (data.drop encryptedLengthSize) c
    rw [← hsplit] at hpoll
    have hpoll' := hpoll.symm.trans h
    unfold NoiseReader.recv
    rw [Method.run_bind_of_ok _ _ _ _ _ _ hread]
    rcases hrun : (RecvCipher.decryptLength P header).run c with ⟨o, c₁, t⟩
    have hzoom := Method.run_zoom NoiseReader.cipher (fun c r => { r with cipher := c })
      (RecvCipher.decryptLength P header) ⟨data.drop encryptedLengthSize, c⟩ o c₁ t hrun
    rw [hrun] at hpoll'
    rw [Method.run_bind, hzoom]
    cases o with
    | ok msgLen =>
        have hbodies : pollBody P msgLen (data.drop encryptedLengthSize) c₁
          = (.ready result, rest, c') := hpoll'
        -- The same holds of the body, whose length both learn from the header.
        by_cases hbody : (data.drop encryptedLengthSize).length < msgLen.toNat + macSize
        · rw [pollBody_of_lt msgLen _ c₁ hbody] at hbodies
          exact absurd (congrArg Prod.fst hbodies) Poll.noConfusion
        · have hread' := run_readExact
            ((data.drop encryptedLengthSize).take (msgLen.toNat + macSize))
            ((data.drop encryptedLengthSize).drop (msgLen.toNat + macSize)) c₁
            (msgLen.toNat + macSize) (List.length_take_of_le (by omega))
          rw [List.take_append_drop] at hread'
          rcases hopen : (RecvCipher.decryptMessage P
            ((data.drop encryptedLengthSize).take (msgLen.toNat + macSize))).run c₁ with ⟨o, c₂, t'⟩
          have hzoom' := Method.run_zoom NoiseReader.cipher (fun c r => { r with cipher := c })
            _ ⟨(data.drop encryptedLengthSize).drop (msgLen.toNat + macSize), c₁⟩ o c₂ t' hopen
          unfold pollBody at hbodies
          rw [if_pos (by omega), hopen, Prod.mk.injEq, Prod.mk.injEq, Poll.ready.injEq] at hbodies
          rcases hbodies with ⟨rfl, hrest, rfl⟩
          rw [hrest] at hread' hzoom'
          simp only [Method.run_bind_of_ok _ _ _ _ _ _ hread', Slice.pack_toList, hzoom']
          exact ⟨_, rfl⟩
    | err e =>
        rw [Prod.mk.injEq, Prod.mk.injEq, Poll.ready.injEq] at hpoll'
        rcases hpoll' with ⟨rfl, rfl, rfl⟩
        exact ⟨_, rfl⟩
    | panicked =>
        rw [Prod.mk.injEq, Prod.mk.injEq, Poll.ready.injEq] at hpoll'
        rcases hpoll' with ⟨rfl, rfl, rfl⟩
        exact ⟨_, rfl⟩
    | diverged =>
        rw [Prod.mk.injEq, Prod.mk.injEq, Poll.ready.injEq] at hpoll'
        rcases hpoll' with ⟨rfl, rfl, rfl⟩
        exact ⟨_, rfl⟩

theorem encrypt_frame (hP : P.OpensSealed) (c : HalfCipher) (msg : Bytes)
    (h : msg.length ≤ maxMessageSize) :
    ∃ frame, Frame P c msg frame ((c.used P).used P)
      ∧ ∃ t, (SendCipher.encrypt P msg : NoiseMethod SendCipher NoiseError Bytes).run c
        = ⟨.ok frame, (c.used P).used P, t⟩ := by
  rcases encrypt_opens NoiseError hP c msg h with
    ⟨header, body, hsize, hsealed, ⟨_, hlen⟩, ⟨_, hopen⟩⟩
  refine ⟨header.toList ++ body, ⟨?_, ?_⟩, hsealed⟩
  · intro rest
    rw [List.append_assoc, pollHeader_of_ok header _ _ _ _ _ hlen,
      pollBody_of_length _ body rest msg _ _ _ hsize hopen]
  · intro data missing hdata hmissing
    have hpos : 0 < missing.length := List.length_pos_iff.mpr hmissing
    rcases List.append_eq_append_iff.mp hdata with ⟨part, rfl, hbody⟩ | ⟨part, hheader, _⟩
    · -- The header is complete, and bytes of the body are missing.
      have hlt : part.length < (UInt16.ofNat msg.length).toNat + macSize := by
        rw [← hsize, hbody, List.length_append]
        omega
      exact ⟨_, _, by rw [pollHeader_of_ok header part _ _ _ _ hlen, pollBody_of_lt _ part _ hlt]⟩
    · by_cases hpart : part = []
      · rw [hpart, List.append_nil] at hheader
        have hlt : ([] : Bytes).length < (UInt16.ofNat msg.length).toNat + macSize :=
          Nat.lt_of_lt_of_le (by decide : 0 < macSize) (Nat.le_add_left _ _)
        have hpoll := pollHeader_of_ok header [] _ _ _ _ hlen
        rw [List.append_nil, hheader, pollBody_of_lt _ _ _ hlt] at hpoll
        exact ⟨_, _, hpoll⟩
      · have hpartpos : 0 < part.length := List.length_pos_iff.mpr hpart
        have hlt : data.length < encryptedLengthSize := by
          have hheaderlen := header.toList_length
          rw [hheader, List.length_append] at hheaderlen
          omega
        exact ⟨_, _, pollHeader_of_lt data c hlt⟩

/-- The frames of an honest remote give its messages. The induction is on the
    messages. -/
theorem frames_framed (hP : P.OpensSealed) (msgs : List Bytes) (c : HalfCipher)
    (h : ∀ m ∈ msgs, m.length ≤ maxMessageSize) : Framed P c msgs (frames P c msgs) := by
  induction msgs generalizing c with
  | nil => exact Framed.nil c
  | cons m msgs ih =>
      rcases List.forall_mem_cons.mp h with ⟨hm, hrest⟩
      rcases encrypt_frame hP c m hm with ⟨frame, hframe, t, hrun⟩
      have hcons : frames P c (m :: msgs) = frame :: frames P ((c.used P).used P) msgs := by
        unfold frames
        rw [Method.calls_cons, hrun]
        rfl
      rw [hcons]
      exact Framed.cons c _ m frame msgs _ hframe (ih _ hrest)

theorem Framed.length_eq (c : HalfCipher) (msgs fs : List Bytes) (h : Framed P c msgs fs) :
    fs.length = msgs.length := by
  induction h with
  | nil c => rfl
  | cons c c' msg frame msgs fs _ _ ih => rw [List.length_cons, List.length_cons, ih]

theorem Framed.cons_inv (c : HalfCipher) (msg : Bytes) (msgs fs : List Bytes)
    (h : Framed P c (msg :: msgs) fs) :
    ∃ frame fs' c', fs = frame :: fs' ∧ Frame P c msg frame c' ∧ Framed P c' msgs fs' := by
  cases h with
  | cons _ c' _ frame _ fs' hframe hrest => exact ⟨frame, fs', c', rfl, hframe, hrest⟩

/-- Before its first iteration the loop is aligned with the stream. -/
theorem start_aligned (hP : P.OpensSealed) (c : HalfCipher) (msgs : List Bytes)
    (h : ∀ m ∈ msgs, m.length ≤ maxMessageSize) :
    Aligned P c msgs (ReadLoop.start c (frames P c msgs).flatten) :=
  ⟨0, c, [], Nat.zero_le _, rfl, frames_framed hP msgs c h,
    Or.inr (Or.inr ⟨rfl, pollHeader_of_lt [] c (by decide), rfl⟩)⟩

/-- What is left after the next message. -/
theorem take_drop_succ (msgs rest : List Bytes) (m : Bytes) (k : Nat)
    (h : msgs.drop k = m :: rest) :
    k + 1 ≤ msgs.length ∧ m ∈ msgs ∧ msgs.take (k + 1) = msgs.take k ++ [m]
      ∧ msgs.drop (k + 1) = rest := by
  have hlt : k < msgs.length := by
    have hlen := congrArg List.length h
    rw [List.length_drop, List.length_cons] at hlen
    omega
  have hsplit := List.drop_eq_getElem_cons hlt
  rw [h, List.cons.injEq] at hsplit
  rcases hsplit with ⟨rfl, rfl⟩
  exact ⟨hlt, List.getElem_mem hlt, (List.take_append_getElem hlt).symm, rfl⟩

/-- A poll of an aligned loop: the message whose frame is complete is handed
    over, and otherwise all bytes are held. -/
theorem poll_aligned (c₀ : HalfCipher) (msgs : List Bytes) (s s' : ReadLoop) (handlerOk : Bool)
    (hmsgs : ∀ m ∈ msgs, 2 ≤ m.length) (h : Aligned P c₀ msgs s)
    (hstep : s.step P (.poll handlerOk) = some s') : Aligned P c₀ msgs s' := by
  rcases h with ⟨k, c, held, hk, hhandled, hframed, hstatus⟩
  rcases hstatus with hended | hended | ⟨hrunning, hheld, hbytes⟩
  · simp only [ReadLoop.step, hended, reduceCtorEq] at hstep
  · simp only [ReadLoop.step, hended, reduceCtorEq] at hstep
  have hpoll := pollHeader_append held s.socket [] s.future c s.cipher hheld
  rcases hrest : msgs.drop k with _ | ⟨m, rest⟩
  · -- No message is left, so there is nothing to read.
    have hnone := hframed.length_eq
    rw [hrest, List.length_nil, List.length_eq_zero_iff] at hnone
    rw [hnone, List.flatten_nil, List.append_eq_nil_iff] at hbytes
    have hdata := pollHeader_of_lt (P := P) (held ++ s.socket) c (by rw [hbytes.1]; decide)
    simp only [ReadLoop.step, hrunning, hpoll, hdata, Option.some.injEq] at hstep
    subst hstep
    refine ⟨k, c, held ++ s.socket, hk, hhandled, hframed, Or.inr (Or.inr ⟨rfl, hdata, ?_⟩)⟩
    rw [List.append_nil, hnone, hbytes.1, hbytes.2]
    rfl
  · rw [hrest] at hframed
    rcases hframed.cons_inv with ⟨frame, fs, c', hfs, hframe, hframed'⟩
    rw [hfs, List.flatten_cons] at hbytes
    rcases take_drop_succ msgs rest m k hrest with ⟨hk', hmem, htake, hdrop⟩
    have hlong : ¬ m.length < 2 := Nat.not_lt.mpr (hmsgs m hmem)
    have hfs' : (frames P c₀ msgs).drop (k + 1) = fs := by
      rw [← List.drop_drop, hfs]
      rfl
    -- With the whole frame there, the message is handed over and the rest is held back.
    have hwhole : ∀ extra, held ++ s.socket = frame ++ extra → extra ++ s.inFlight = fs.flatten →
        Aligned P c₀ msgs s' := by
      intro extra hdata hflight
      simp only [ReadLoop.step, hrunning, hpoll, hdata, hframe.whole, ReadLoop.onMessage,
        if_neg hlong, Option.some.injEq] at hstep
      have hnext : Framed P c' (msgs.drop (k + 1)) ((frames P c₀ msgs).drop (k + 1)) := by
        rw [hdrop, hfs']
        exact hframed'
      have hhandled' : s.handled ++ [m] = msgs.take (k + 1) := by
        rw [htake, hhandled]
      cases handlerOk with
      | true =>
          rw [if_pos rfl] at hstep
          subst hstep
          refine ⟨k + 1, c', [], hk', hhandled', hnext,
            Or.inr (Or.inr ⟨rfl, pollHeader_of_lt [] c' (by decide), ?_⟩)⟩
          rw [List.nil_append, hflight, hfs']
      | false =>
          rw [if_neg Bool.false_ne_true] at hstep
          subst hstep
          exact ⟨k + 1, c', [], hk', hhandled', hnext, Or.inl rfl⟩
    -- The bytes at hand end before the frame does, or go beyond it.
    rcases List.append_eq_append_iff.mp hbytes with
      ⟨missing, hmissing, hflight⟩ | ⟨extra, hdata, hflight⟩
    · by_cases hcomplete : missing = []
      · rw [hcomplete, List.append_nil] at hmissing
        rw [hcomplete, List.nil_append] at hflight
        exact hwhole [] (by rw [List.append_nil, hmissing]) hflight
      · -- A part of the frame has yet to arrive, and the future holds what has.
        rcases hframe.part (held ++ s.socket) missing hmissing hcomplete with ⟨f, c₁, hpending⟩
        simp only [ReadLoop.step, hrunning, hpoll, hpending, Option.some.injEq] at hstep
        subst hstep
        refine ⟨k, c, held ++ s.socket, hk, hhandled, by rw [hrest]; exact hframed,
          Or.inr (Or.inr ⟨rfl, hpending, ?_⟩)⟩
        rw [List.append_nil, hbytes, hfs, List.flatten_cons]
    · exact hwhole extra hdata hflight.symm

/-- What an event preserves when no tick completes inside a frame. -/
theorem step_aligned (c₀ : HalfCipher) (msgs : List Bytes) (hmsgs : ∀ m ∈ msgs, 2 ≤ m.length)
    (s : ReadLoop) (e : LoopEvent) (s' : ReadLoop) (h : Aligned P c₀ msgs s)
    (hguard : TickBetweenFrames s e) (hstep : s.step P e = some s') : Aligned P c₀ msgs s' := by
  cases e with
  | poll handlerOk => exact poll_aligned c₀ msgs s s' handlerOk hmsgs h hstep
  | arrive n =>
      rcases h with ⟨k, c, held, hk, hhandled, hframed, hstatus⟩
      unfold ReadLoop.step at hstep
      -- Bytes that arrive move from the wire to the socket, and their order is kept.
      by_cases hn : n ≤ s.inFlight.length
      · simp only [if_pos hn, Option.some.injEq] at hstep
        subst hstep
        refine ⟨k, c, held, hk, hhandled, hframed, ?_⟩
        rcases hstatus with hended | hended | ⟨hrunning, hheld, hbytes⟩
        · exact Or.inl hended
        · exact Or.inr (Or.inl hended)
        · refine Or.inr (Or.inr ⟨hrunning, hheld, ?_⟩)
          rw [← hbytes, List.append_assoc, List.append_assoc, List.take_append_drop,
            List.append_assoc]
      · simp only [if_neg hn, reduceCtorEq] at hstep
  | tick pingOk =>
      rcases h with ⟨k, c, held, hk, hhandled, hframed, hstatus⟩
      rcases hstatus with hended | hended | ⟨hrunning, hheld, hbytes⟩
      · simp only [ReadLoop.step, hended, reduceCtorEq] at hstep
      · simp only [ReadLoop.step, hended, reduceCtorEq] at hstep
      · -- The future that is dropped holds nothing, so a new one is in the same state.
        have hfresh : s.future = .header [] := hguard
        simp only [ReadLoop.step, hrunning] at hstep
        cases pingOk with
        | true =>
            rw [if_pos rfl, Option.some.injEq] at hstep
            subst hstep
            exact ⟨k, c, held, hk, hhandled, hframed,
              Or.inr (Or.inr ⟨rfl, by rw [← hfresh]; exact hheld, hbytes⟩)⟩
        | false =>
            rw [if_neg Bool.false_ne_true, Option.some.injEq] at hstep
            subst hstep
            exact ⟨k, c, held, hk, hhandled, hframed, Or.inr (Or.inl rfl)⟩

/-- An event whose writes succeed does not end the loop as a failed write does. -/
theorem step_whole (s s' : ReadLoop) (e : LoopEvent) (hrunning : s.status = .running)
    (hwhole : e.Whole) (hstep : s.step P e = some s') :
    s'.status ≠ .ended .handlerFailed ∧ s'.status ≠ .ended .pingFailed := by
  unfold ReadLoop.step at hstep
  cases e with
  | arrive n =>
      by_cases hn : n ≤ s.inFlight.length
      · simp only [if_pos hn, Option.some.injEq] at hstep
        subst hstep
        simp [hrunning]
      · simp only [if_neg hn, reduceCtorEq] at hstep
  | tick pingOk =>
      have hok : pingOk = true := hwhole
      simp only [hrunning, hok, if_pos, Option.some.injEq] at hstep
      subst hstep
      simp
  | poll handlerOk =>
      have hok : handlerOk = true := hwhole
      rcases hpoll : s.future.poll P s.socket s.cipher with ⟨result, socket, c⟩
      simp only [hrunning, hpoll] at hstep
      cases result with
      | pending future =>
          rw [← Option.some.inj hstep]
          simp
      | ready result =>
          cases result with
          | ok raw =>
              simp only [Option.some.injEq, ReadLoop.onMessage, hok, if_pos] at hstep
              by_cases hshort : raw.length < 2
              · rw [if_pos hshort] at hstep
                rw [← hstep]
                simp
              · rw [if_neg hshort] at hstep
                rw [← hstep]
                simp
          | err e =>
              rw [← Option.some.inj hstep]
              simp
          | panicked =>
              rw [← Option.some.inj hstep]
              simp
          | diverged =>
              rw [← Option.some.inj hstep]
              simp

/-- An aligned loop that no failed write has ended is running. -/
theorem aligned_running (c₀ : HalfCipher) (msgs : List Bytes) (s : ReadLoop)
    (h : Aligned P c₀ msgs s) (hhandler : s.status ≠ .ended .handlerFailed)
    (htimer : s.status ≠ .ended .pingFailed) : s.status = .running := by
  rcases h with ⟨-, -, -, -, -, -, hended | hended | ⟨hrunning, -⟩⟩
  · exact absurd hended hhandler
  · exact absurd hended htimer
  · exact hrunning

theorem aligned_inOrder (c₀ : HalfCipher) (msgs : List Bytes) (s : ReadLoop)
    (h : Aligned P c₀ msgs s) : s.handled <+: msgs := by
  rcases h with ⟨k, -, -, -, hhandled, -⟩
  rw [hhandled]
  exact List.take_prefix k msgs

/-- What an event preserves when no tick completes inside a frame and no write
    fails. -/
theorem step_aligned_running (c₀ : HalfCipher) (msgs : List Bytes)
    (hmsgs : ∀ m ∈ msgs, 2 ≤ m.length) (s : ReadLoop) (e : LoopEvent) (s' : ReadLoop)
    (h : Aligned P c₀ msgs s ∧ s.status = .running) (hguard : TickBetweenFrames s e ∧ e.Whole)
    (hstep : s.step P e = some s') : Aligned P c₀ msgs s' ∧ s'.status = .running := by
  have haligned := step_aligned c₀ msgs hmsgs s e s' h.1 hguard.1 hstep
  rcases step_whole s s' e h.2 hguard.2 hstep with ⟨hhandler, htimer⟩
  exact ⟨haligned, aligned_running c₀ msgs s' haligned hhandler htimer⟩

/-- When the frame of a message that was not handed over has arrived, the frame of
    the next message is at hand: it begins the bytes that the future holds and those
    in the socket. -/
theorem aligned_at_hand (c₀ : HalfCipher) (msgs : List Bytes) (s : ReadLoop)
    (h : Aligned P c₀ msgs s) (hrunning : s.status = .running) (j : Nat) (hj : j ≤ msgs.length)
    (harrived : Arrived P c₀ msgs s j) (hlt : s.handled.length < j) :
    ∃ c held m frame extra c', pollHeader P held c = (.pending s.future, [], s.cipher)
      ∧ held ++ s.socket = frame ++ extra ∧ Frame P c m frame c'
      ∧ m ∈ msgs ∧ s.handled ++ [m] = msgs.take (s.handled.length + 1) := by
  rcases h with ⟨k, c, held, hk, hhandled, hframed, hended | hended | ⟨-, hheld, hbytes⟩⟩
  · simp only [hended, reduceCtorEq] at hrunning
  · simp only [hended, reduceCtorEq] at hrunning
  have hcount : s.handled.length = k := by rw [hhandled, List.length_take, Nat.min_eq_left hk]
  rw [hcount] at hlt
  rcases hrest : msgs.drop k with _ | ⟨m, rest⟩
  · have hnone := List.drop_eq_nil_iff.mp hrest
    omega
  rw [hrest] at hframed
  rcases hframed.cons_inv with ⟨frame, fs, c', hfs, hframe, -⟩
  rcases take_drop_succ msgs rest m k hrest with ⟨-, hmem, htake, -⟩
  rw [hfs, List.flatten_cons] at hbytes
  -- What is not in flight is at least as long as the frame.
  have htotal : (frames P c₀ msgs).flatten.length
      = ((frames P c₀ msgs).take k).flatten.length + (held ++ s.socket ++ s.inFlight).length := by
    rw [hbytes, ← List.flatten_cons, ← hfs, ← List.length_append, ← List.flatten_append,
      List.take_append_drop]
  have hfirst : ((frames P c₀ msgs).take k).flatten.length + frame.length
      ≤ ((frames P c₀ msgs).take j).flatten.length := by
    have hsplit : j = k + (j - k - 1 + 1) := by omega
    rw [hsplit, List.take_add, hfs, List.take_succ_cons, List.flatten_append,
      List.flatten_cons, List.length_append, List.length_append]
    omega
  unfold Arrived at harrived
  rw [List.length_append] at htotal
  rcases List.prefix_of_prefix_length_le (List.prefix_append frame fs.flatten)
    (hbytes ▸ List.prefix_append (held ++ s.socket) s.inFlight) (by omega) with ⟨extra, hextra⟩
  exact ⟨c, held, m, frame, extra, c', hheld, hextra.symm, hframe, hmem,
    by rw [hcount, htake, hhandled]⟩

/-- Then the next poll hands the message over. -/
theorem poll_at_hand (c₀ : HalfCipher) (msgs : List Bytes) (hmsgs : ∀ m ∈ msgs, 2 ≤ m.length)
    (s : ReadLoop) (h : Aligned P c₀ msgs s) (hrunning : s.status = .running) (j : Nat)
    (hj : j ≤ msgs.length) (harrived : Arrived P c₀ msgs s j) (hlt : s.handled.length < j) :
    ∃ s', s.step P (.poll true) = some s' ∧ s'.inFlight = s.inFlight
      ∧ s'.handled = msgs.take (s.handled.length + 1) := by
  rcases aligned_at_hand c₀ msgs s h hrunning j hj harrived hlt with
    ⟨c, held, m, frame, extra, c', hheld, hdata, hframe, hmem, hnext⟩
  have hpoll := pollHeader_append held s.socket [] s.future c s.cipher hheld
  have hlong : ¬ m.length < 2 := Nat.not_lt.mpr (hmsgs m hmem)
  refine ⟨⟨s.inFlight, extra, c', .header [], s.handled ++ [m], s.status⟩, ?_, rfl, hnext⟩
  simp only [ReadLoop.step, hrunning, hpoll, hdata, hframe.whole, ReadLoop.onMessage,
    if_neg hlong, if_pos]

/-- Polls hand over what has arrived, one message each. The induction is on the
    number of polls. -/
theorem polls_hand_over (c₀ : HalfCipher) (msgs : List Bytes) (hmsgs : ∀ m ∈ msgs, 2 ≤ m.length)
    (n j : Nat) (hj : j ≤ msgs.length) (s : ReadLoop) (h : Aligned P c₀ msgs s)
    (hrunning : s.status = .running) (harrived : Arrived P c₀ msgs s j)
    (hn : s.handled.length + n = j) :
    ∃ s', Transition.run (ReadLoop.step P) s (List.replicate n (.poll true)) = some s'
      ∧ s'.status = .running ∧ s'.handled = msgs.take j := by
  induction n generalizing s with
  | zero =>
      have hall : s.handled = msgs.take j := by
        rcases h with ⟨k, -, -, hk, hhandled, -⟩
        rw [hhandled, List.length_take, Nat.min_eq_left hk, Nat.add_zero] at hn
        rw [hhandled, hn]
      exact ⟨s, rfl, hrunning, hall⟩
  | succ n ih =>
      rcases poll_at_hand c₀ msgs hmsgs s h hrunning j hj harrived (by omega) with
        ⟨s₁, hstep, hflight, hnext⟩
      rcases step_aligned_running c₀ msgs hmsgs s (.poll true) s₁ ⟨h, hrunning⟩ ⟨trivial, rfl⟩
        hstep with ⟨haligned, hrunning₁⟩
      have hcount : s₁.handled.length = s.handled.length + 1 := by
        rw [hnext, List.length_take, Nat.min_eq_left (by omega)]
      have harrived₁ : Arrived P c₀ msgs s₁ j := by
        unfold Arrived
        rw [hflight]
        exact harrived
      rcases ih s₁ haligned hrunning₁ harrived₁ (by omega) with ⟨s', hrun, hs'⟩
      exact ⟨s', (Transition.run_cons _ _ _ _).mpr ⟨s₁, hstep, hrun⟩, hs'⟩

/-- An aligned loop that runs does what it is for. -/
theorem aligned_delivers (c₀ : HalfCipher) (msgs : List Bytes) (hmsgs : ∀ m ∈ msgs, 2 ≤ m.length)
    (s : ReadLoop) (h : Aligned P c₀ msgs s) (hrunning : s.status = .running) :
    Delivers P c₀ msgs s := by
  refine ⟨hrunning, aligned_inOrder c₀ msgs s h, ?_, ?_⟩
  · intro hsocket j hj harrived
    refine Nat.le_of_not_lt (fun hlt => ?_)
    -- Otherwise the future holds the whole frame of a message that was not handed over.
    rcases aligned_at_hand c₀ msgs s h hrunning j hj harrived hlt with
      ⟨c, held, m, frame, extra, c', hheld, hdata, hframe, -, -⟩
    rw [hsocket, List.append_nil] at hdata
    rw [hdata, hframe.whole] at hheld
    exact absurd (congrArg Prod.fst hheld) Poll.noConfusion
  · intro j hj harrived hle
    exact polls_hand_over c₀ msgs hmsgs _ j hj s h hrunning harrived (by omega)

/-- Writes that fail do not lose a message either, as long as every tick completes
    between frames: the messages were handed over in order and once each, and if the
    loop has ended, a write has ended it. -/
theorem readLoop_ordered (hP : P.OpensSealed) (c : HalfCipher) (msgs : List Bytes)
    (hmsgs : ∀ m ∈ msgs, 2 ≤ m.length ∧ m.length ≤ maxMessageSize) (events : List LoopEvent)
    (s : ReadLoop)
    (hguard : Transition.Guarded (ReadLoop.step P) TickBetweenFrames
      (ReadLoop.start c (frames P c msgs).flatten) events)
    (hrun : Transition.run (ReadLoop.step P) (ReadLoop.start c (frames P c msgs).flatten) events
      = some s) :
    s.handled <+: msgs ∧ (s.status = .running ∨ s.status = .ended .handlerFailed
      ∨ s.status = .ended .pingFailed) := by
  have hstart := start_aligned hP c msgs (fun m hm => (hmsgs m hm).2)
  have haligned := Transition.guarded_invariant TickBetweenFrames (Aligned P c msgs)
    (step_aligned c msgs (fun m hm => (hmsgs m hm).1)) _ s events hstart hguard hrun
  refine ⟨aligned_inOrder c msgs s haligned, ?_⟩
  by_cases hhandler : s.status = .ended .handlerFailed
  · exact Or.inr (Or.inl hhandler)
  by_cases htimer : s.status = .ended .pingFailed
  · exact Or.inr (Or.inr htimer)
  · exact Or.inl (aligned_running c msgs s haligned hhandler htimer)

/-- The read loop loses no message as long as every tick completes between
    frames and no write fails, however the bytes arrive: in every state such a run
    reaches, the loop is running, the messages were handed over in order and once
    each, whatever has arrived and could be read was handed over, and as many polls
    as there are messages left that have arrived hand these over. -/
theorem readLoop_delivers (hP : P.OpensSealed) (c : HalfCipher) (msgs : List Bytes)
    (hmsgs : ∀ m ∈ msgs, 2 ≤ m.length ∧ m.length ≤ maxMessageSize) (events : List LoopEvent)
    (s : ReadLoop)
    (hguard : Transition.Guarded (ReadLoop.step P) (fun s e => TickBetweenFrames s e ∧ e.Whole)
      (ReadLoop.start c (frames P c msgs).flatten) events)
    (hrun : Transition.run (ReadLoop.step P) (ReadLoop.start c (frames P c msgs).flatten) events
      = some s) : Delivers P c msgs s := by
  have hlong : ∀ m ∈ msgs, 2 ≤ m.length := fun m hm => (hmsgs m hm).1
  have hstart := start_aligned hP c msgs (fun m hm => (hmsgs m hm).2)
  rcases Transition.guarded_invariant (fun s e => TickBetweenFrames s e ∧ LoopEvent.Whole e)
    (fun s => Aligned P c msgs s ∧ s.status = .running) (step_aligned_running c msgs hlong) _ s
    events ⟨hstart, rfl⟩ hguard hrun with ⟨haligned, hrunning⟩
  exact aligned_delivers c msgs hlong s haligned hrunning

/-- A message of four bytes that arrives in two pieces, with a tick before it, and
    another one behind it that has arrived and is still to be read. -/
theorem readLoop_delivers_pong :
    let c : HalfCipher := ⟨List.Vector.replicate 32 1, 0, List.Vector.replicate 32 2⟩
    let msgs : List Bytes := [[0, 19, 0, 0], [0, 19, 0, 1, 0]]
    ∃ s, Transition.run (ReadLoop.step .transparent)
        (ReadLoop.start c (frames .transparent c msgs).flatten)
        [.tick true, .arrive 20, .poll true, .arrive 57, .poll true] = some s
      ∧ s.handled = [[0, 19, 0, 0]] ∧ s.socket.length = 39 ∧ Delivers .transparent c msgs s := by
  intro c msgs
  have hsome : ((Transition.run (ReadLoop.step .transparent)
      (ReadLoop.start c (frames .transparent c msgs).flatten)
      [.tick true, .arrive 20, .poll true, .arrive 57, .poll true]).filter
        fun s => s.handled = [[0, 19, 0, 0]] ∧ s.socket.length = 39).isSome := by decide +kernel
  rcases Option.isSome_iff_exists.mp hsome with ⟨s, hfilter⟩
  rcases (Option.filter_eq_some_iff).mp hfilter with ⟨hrun, hs⟩
  rcases decide_eq_true_eq.mp hs with ⟨hhandled, hsocket⟩
  refine ⟨s, hrun, hhandled, hsocket, ?_⟩
  exact readLoop_delivers Primitives.transparent_opensSealed c msgs (by decide)
    [.tick true, .arrive 20, .poll true, .arrive 57, .poll true] s (by decide +kernel) hrun

/-- A tick that completes inside a frame: the header was read and decrypted and
    is lost, and the body is taken for a header. -/
theorem readLoop_loses_header :
    let c : HalfCipher := ⟨List.Vector.replicate 32 1, 0, List.Vector.replicate 32 2⟩
    ∃ s, Transition.run (ReadLoop.step .transparent)
        (ReadLoop.start c (frames .transparent c [[0, 19, 0, 0]]).flatten)
        [.arrive 18, .poll true, .tick true, .arrive 20, .poll true] = some s
      ∧ s.handled = [] ∧ s.status = .ended (.readError .decryptionFailed)
      ∧ ¬ Delivers .transparent c [[0, 19, 0, 0]] s := by
  intro c
  refine ⟨⟨[], [0, 0], ⟨c.key, 1, c.ck⟩, .header [], [],
    .ended (.readError .decryptionFailed)⟩, by decide +kernel, rfl, rfl, ?_⟩
  intro h
  exact absurd h.running (by decide)

end

end Simd

end LnGossipSim
