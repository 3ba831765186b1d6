import LnGossipSim.Simd.Connect
import LnGossipSim.Simd.ReadLoop

/-!
# A Session with a Peer

The read loop together with the writer it shares. Three senders use the writer:
the loop's handler, which replies to what was received, the loop's ping timer,
and the commands of the control socket. The writer is behind a lock, so a message
is sealed and written before the next one is, and the senders may take turns in
any order.

The read loop is the one of `Simd.ReadLoop`, where how a message was handled and
whether a ping was sent are inputs. Here they are what `handlePeerMessage` and the
writer make of it, so every step of a session is a step of its read loop or leaves
it alone.

What the peer is told follows from two facts. The writer has sealed some list of
messages one after the other, so a reader in lockstep reads that list. And every
step appends to the list what its sender utters, which is an answer to what the loop
has handed over since.

## Main definitions

* `Session`, `Session.step`: The loop, the writer, and what changes them.
* `answer`: The reply that a message calls for.
* `SessionEvent.utters`: What a step has the timer or a command send.
* `Spoken`: What was said, and by whom.
* `ReadsExactly`: What there is to read, and no more.

## Theorems

* `written_leaves`: What was written is read in order, and the rest is left.
* `handlePeerMessage_answers`: A message is answered once or not at all.
* `step_spoken`: What a step adds to what was said.
* `session_speaks`: What the peer reads in any session.
* `session_serves`: An honest peer is answered completely.
-/

namespace LnGossipSim

namespace Simd

open Bolt Noise

/-- The read loop and the writer it shares with the commands. -/
structure Session where
  loop : ReadLoop
  writer : NoiseWriter
  deriving DecidableEq

/-- What can happen in a session, and how the writes it causes end. A command sends
    the bytes of its message. -/
inductive SessionEvent where
  | arrive (n : Nat)
  | poll (result : WriteResult)
  | tick (result : WriteResult)
  | command (result : WriteResult) (wire : Bytes)

/-- Who uses the writer. -/
inductive Sender where
  | handler
  | timer
  | command
  deriving DecidableEq

/-- A message that was sent. -/
structure Sent where
  sender : Sender
  wire : Bytes

section

variable (S : Secp256k1) (P : Primitives)

/-- The message that a poll of the loop hands over. -/
def ReadLoop.received (s : ReadLoop) : Option Bytes :=
  match s.future.poll P s.socket s.cipher with
  | (.ready (.ok raw), _, _) => if raw.length < 2 then none else some raw
  | _ => none

namespace Session

/-- The session before the first iteration of its loop. -/
def start (writer : NoiseWriter) (c : RecvCipher) (stream : Bytes) : Session :=
  { loop := ReadLoop.start c stream, writer }

/-- The loop goes on with the outcome of a send, and a panic ends it. -/
def goOn (s : Session) (event : Bool → LoopEvent)
    (r : Return PrimitiveCall NoiseWriter Empty Bool) : Option Session :=
  match r.outcome with
  | .ok ok => (s.loop.step P (event ok)).map fun loop => ⟨loop, r.state⟩
  -- A panic of the handler ends the loop's task, and nothing else.
  | _ => (s.loop.step P (event false)).map fun loop =>
    ⟨{ loop with status := .ended .panicked }, r.state⟩

/-- What an event does. -/
def step (s : Session) : SessionEvent → Option Session
  | .arrive n => (s.loop.step P (.arrive n)).map fun loop => { s with loop }
  | .poll result =>
    match s.loop.received P with
    -- Nothing is handed over, so there is no verdict of the handler.
    | none => (s.loop.step P (.poll true)).map fun loop => { s with loop }
    | some raw => s.goOn P .poll ((handlePeerMessage S P result raw).run s.writer)
  | .tick result =>
    s.goOn P .tick ((sendReply S P result (.ping (Ping.new 1))).run s.writer)
  | .command result wire =>
    -- The error is the command's to report, so the loop does not see it.
    some { s with writer := ((NoiseWriter.send P result wire).run s.writer).state }

end Session

/-- The reply that a message calls for: a pong of the padding that a ping asks for,
    or a range reply without ids. -/
def answer (raw : Bytes) : Option Bytes :=
  match (Message.decode raw : Outcome BoltError (Message S)) with
  | .ok (.ping ping) => (Message.pong (Pong.respondTo ping) : Message S).encode.toOption
  | .ok (.queryChannelRange query) =>
    (Message.replyChannelRange (ReplyChannelRange.fromScids query.chainHash query.firstBlocknum
      query.numberOfBlocks true []) : Message S).encode.toOption
  | _ => none

namespace SessionEvent

/-- What a step has the timer or a command send. A message that is too long for a
    frame is not sent. -/
def utters : Sender → SessionEvent → List Bytes
  | .timer, .tick _ => (Message.ping (Ping.new 1) : Message S).encode.toOption.toList
  | .command, .command _ wire => if wire.length ≤ Noise.maxMessageSize then [wire] else []
  | _, _ => []

/-- No write fails. -/
def Whole : SessionEvent → Prop
  | .arrive _ => True
  | .poll result => result = .whole
  | .tick result => result = .whole
  | .command result _ => result = .whole

/-- The event of the loop, when no write fails. -/
def loopEvent : SessionEvent → Option LoopEvent
  | .arrive n => some (.arrive n)
  | .poll _ => some (.poll true)
  | .tick _ => some (.tick true)
  | .command _ _ => none

end SessionEvent

/-- What a step sends, when no write fails: the answer to the message handed over,
    or what the timer or a command has to send. -/
def Session.sends (s : Session) (e : SessionEvent) : List Sent :=
  match e with
  | .arrive _ => []
  | .poll _ => ((s.loop.received P).bind (answer S)).toList.map (Sent.mk .handler)
  | .tick _ => (e.utters S .timer).map (Sent.mk .timer)
  | .command _ _ => (e.utters S .command).map (Sent.mk .command)

/-- A tick completes only while the loop's future has read no byte of the next
    frame. -/
def Session.TickBetweenFrames (s : Session) (e : SessionEvent) : Prop :=
  ∀ event ∈ e.loopEvent, Simd.TickBetweenFrames s.loop event

instance (s : Session) (e : SessionEvent) : Decidable (s.TickBetweenFrames e) :=
  inferInstanceAs (Decidable (∀ event ∈ e.loopEvent, Simd.TickBetweenFrames s.loop event))

/-- What one of the senders sent. -/
def saidBy (sender : Sender) (sent : List Sent) : List Bytes :=
  (sent.filter fun m => m.sender = sender).map Sent.wire

/-- The writer went from the one state to the other by sending the messages, whole
    and one after the other. -/
def Written (w₀ : NoiseWriter) (wires : List Bytes) (w : NoiseWriter) : Prop :=
  (∀ wire ∈ wires, wire.length ≤ Noise.maxMessageSize)
    ∧ (Method.calls (NoiseWriter.send P .whole) wires w₀).state = w

/-- A reader in the state `c` reads the messages off the stream, one after the other and
    each of them whole, and then nothing is left. -/
def ReadsExactly (c : RecvCipher) (stream : Bytes) (wires : List Bytes) : Prop :=
  let r := Method.calls (fun _ : Bytes => NoiseReader.recv P) wires ⟨stream, c⟩
  r.outcomes = wires.map .ok ∧ r.state.stream = []

/-- Since the start, the writer has sent the answers to what was handed over, and
    what the events had the others send. No write has ended the loop. -/
structure Spoken (w₀ : NoiseWriter) (sent : List Sent) (events : List SessionEvent)
    (s : Session) : Prop where
  written : Written P w₀ (sent.map Sent.wire) s.writer
  byHandler : saidBy .handler sent = s.loop.handled.filterMap (answer S)
  byOthers : ∀ sender, sender ≠ .handler →
    saidBy sender sent = events.flatMap (SessionEvent.utters S sender)
  handlerKept : s.loop.status ≠ .ended .handlerFailed
  timerKept : s.loop.status ≠ .ended .pingFailed

end

section

variable {S : Secp256k1} {P : Primitives}

theorem Written.none (w : NoiseWriter) : Written P w [] w :=
  ⟨fun _ hwire => absurd hwire List.not_mem_nil, rfl⟩

theorem Written.one (w : NoiseWriter) (wire : Bytes) (h : wire.length ≤ Noise.maxMessageSize) :
    Written P w [wire] ((NoiseWriter.send P .whole wire).run w).state :=
  ⟨fun _ hwire => List.mem_singleton.mp hwire ▸ h, rfl⟩

/-- More messages, sent after the others. -/
theorem Written.append (w₀ w w' : NoiseWriter) (wires more : List Bytes)
    (h : Written P w₀ wires w) (h' : Written P w more w') : Written P w₀ (wires ++ more) w' := by
  refine ⟨?_, ?_⟩
  · intro wire hwire
    exact (List.mem_append.mp hwire).elim (h.1 wire) (h'.1 wire)
  · rw [Method.calls_append, h.2, h'.2]

/-- A reader in lockstep with the writer reads what was written, in order, and what
    else follows it is left. -/
theorem written_leaves (hP : P.OpensSealed) (w₀ w : NoiseWriter) (wires : List Bytes)
    (rest : Bytes) (h : Written P w₀ wires w) :
    let r := Method.calls (fun _ : Bytes => NoiseReader.recv P) wires
      ⟨(w.stream ++ rest).drop w₀.stream.length, w₀.cipher⟩
    r.outcomes = wires.map .ok ∧ r.state.stream = rest := by
  intro r
  have hr : r = Method.calls (fun _ : Bytes => NoiseReader.recv P) wires
      ⟨(w.stream ++ rest).drop w₀.stream.length, w₀.cipher⟩ := rfl
  rcases sendAll_recvAll hP wires w₀.cipher with ⟨stream, c', hsends, hrecvs⟩
  have hall : wires.filter (fun m => m.length ≤ Noise.maxMessageSize) = wires :=
    List.filter_eq_self.mpr fun wire hwire => decide_eq_true (h.1 wire hwire)
  rw [hall] at hrecvs
  rcases hsends w₀.stream with ⟨t, hsent⟩
  have hw : w = ⟨w₀.stream ++ stream, c'⟩ := h.2.symm.trans (congrArg Method.Calls.state hsent)
  rcases hrecvs rest with ⟨t', hreceived⟩
  rw [hw, List.append_assoc, List.drop_left, hreceived] at hr
  rw [hr]
  exact ⟨rfl, rfl⟩

/-- It reads what was written also when something else follows it. -/
theorem written_reads (hP : P.OpensSealed) (w₀ w : NoiseWriter) (wires : List Bytes)
    (out : Bytes) (h : Written P w₀ wires w) (hout : w.stream <+: out) :
    (Method.calls (fun _ : Bytes => NoiseReader.recv P) wires
      ⟨out.drop w₀.stream.length, w₀.cipher⟩).outcomes = wires.map .ok := by
  rcases hout with ⟨rest, rfl⟩
  exact (written_leaves hP w₀ w wires rest h).1

/-- What was written is all there is to read. -/
theorem written_reads_exactly (hP : P.OpensSealed) (w₀ w : NoiseWriter) (wires : List Bytes)
    (h : Written P w₀ wires w) :
    ReadsExactly P w₀.cipher (w.stream.drop w₀.stream.length) wires := by
  have hreads := written_leaves hP w₀ w wires [] h
  rw [List.append_nil] at hreads
  exact hreads

/-- A message that can be sent is sent, and the loop goes on. -/
theorem sendReply_whole (hP : P.OpensSealed) (m : Message S) (hm : Sendable P m)
    (w : NoiseWriter) :
    let r := (sendReply S P .whole m).run w
    r.outcome = .ok true ∧ Written P w m.encode.toOption.toList r.state := by
  intro r
  -- The write goes out whole, so only the length could stop the message.
  rcases hm with ⟨wire, hencode, -, hlen, hsend, -⟩
  rcases run_sendReply hP .whole m wire hencode w with ⟨ok, hrun, hok⟩
  have hr : r = _ := hrun
  rw [hr, hencode]
  exact ⟨congrArg Outcome.ok (hok (hsend w)), Written.one w wire hlen⟩

/-- A ping can be sent. -/
theorem ping_sendable (hP : P.OpensSealed) :
    Sendable P (Message.ping (Ping.new 1) : Message S) := by
  rw [sendable_iff hP _ (Nat.zero_le _)]
  change 2 + (Ping.encode (Ping.new 1)).length ≤ 65535
  decide

/-- A message is handled by sending what it calls for, and nothing when it calls for
    nothing. -/
theorem handlePeerMessage_answers (hP : P.OpensSealed) (raw : Bytes) (hlong : 2 ≤ raw.length)
    (w : NoiseWriter) :
    let r := (handlePeerMessage S P .whole raw).run w
    r.outcome = .ok true ∧ Written P w (answer S raw).toList r.state := by
  intro r
  -- Two kinds of messages call for a reply, each with a lemma of its own.
  by_cases hping : ∃ ping, (Message.decode raw : Outcome BoltError (Message S)) = .ok (.ping ping)
  · rcases hping with ⟨ping, hping⟩
    have hanswer : answer S raw
        = (Message.pong (Pong.respondTo ping) : Message S).encode.toOption := by
      unfold answer
      rw [hping]
    have hsend := sendReply_whole (S := S) hP _ (pong_sendable hP ping) w
    rw [← handlePeerMessage_ping .whole raw ping hping, ← hanswer] at hsend
    exact hsend
  by_cases hquery : ∃ query,
      (Message.decode raw : Outcome BoltError (Message S)) = .ok (.queryChannelRange query)
  · rcases hquery with ⟨query, hquery⟩
    have hanswer : answer S raw
        = (Message.replyChannelRange (ReplyChannelRange.fromScids query.chainHash
          query.firstBlocknum query.numberOfBlocks true []) : Message S).encode.toOption := by
      unfold answer
      rw [hquery]
    have hsend := sendReply_whole (S := S) hP _ (emptyReply_sendable hP query.chainHash
      query.firstBlocknum query.numberOfBlocks) w
    rw [← handlePeerMessage_query .whole raw query hquery, ← hanswer] at hsend
    exact hsend
  · -- Every other message calls for nothing, and the writer is not used.
    have hanswer : answer S raw = none := by
      unfold answer
      cases hdecode : (Message.decode raw : Outcome BoltError (Message S)) with
      | ok m =>
          cases m with
          | ping ping => exact absurd ⟨ping, hdecode⟩ hping
          | queryChannelRange query => exact absurd ⟨query, hdecode⟩ hquery
          | _ => rfl
      | err e => rfl
      | panicked => rfl
      | diverged => rfl
    have hother : r = _ := handlePeerMessage_other (P := P) .whole raw w hlong
      (not_exists.mp hping) (not_exists.mp hquery)
    rw [hother, hanswer]
    exact ⟨rfl, Written.none w⟩

/-- Writing only adds to the stream. -/
def Grows (w w' : NoiseWriter) : Prop := w.stream <+: w'.stream

instance : IsPreorder NoiseWriter Grows where
  refl w := List.prefix_refl w.stream
  trans _ _ _ h h' := List.IsPrefix.trans h h'

theorem grows_send (result : WriteResult) (msg : Bytes) :
    Method.Moves Grows (NoiseWriter.send P result msg) := by
  refine Method.moves_bind Grows _ _ (Method.moves_lift Grows _) fun _ => ?_
  refine Method.moves_bind Grows _ _
    (Method.moves_zoom Grows _ _ _ fun _ w => List.prefix_refl w.stream) fun encrypted => ?_
  cases result with
  | whole => exact Method.moves_modify Grows _ fun w => List.prefix_append w.stream encrypted
  | failed written message =>
      exact Method.moves_bind Grows _ _
        (Method.moves_modify Grows _ fun w => List.prefix_append w.stream _)
        fun _ => Method.moves_lift Grows _

theorem written_grows (w₀ w : NoiseWriter) (wires : List Bytes) (h : Written P w₀ wires w) :
    Grows w₀ w := by
  rw [← h.2]
  exact Method.calls_moves Grows _ wires (fun wire _ => grows_send .whole wire) w₀

theorem grows_sendReply (result : WriteResult) (m : Message S) :
    Method.Moves Grows (sendReply S P result m) := by
  refine Method.moves_bind Grows _ _ (Method.moves_lift Grows _) fun wire => ?_
  refine Method.moves_bind Grows _ _
    (Method.moves_attempt Grows _ (grows_send result wire)) fun r => ?_
  cases r with
  | ok u => exact Method.moves_pure Grows true
  | error e => exact Method.moves_pure Grows false

theorem grows_handlePeerMessage (result : WriteResult) (raw : Bytes) :
    Method.Moves Grows (handlePeerMessage S P result raw) := by
  unfold handlePeerMessage
  cases (Message.decode raw : Outcome BoltError (Message S)) with
  | ok m =>
      cases m with
      | ping ping => exact grows_sendReply result _
      | queryChannelRange query => exact grows_sendReply result _
      | _ => exact Method.moves_pure Grows true
  | err e =>
      exact Method.moves_bind Grows _ _ (Method.moves_lift Grows _) fun _ =>
        Method.moves_bind Grows _ _ (Method.moves_lift Grows _) fun _ =>
          Method.moves_pure Grows true
  | panicked => exact Method.moves_lift Grows _
  | diverged => exact Method.moves_lift Grows _

theorem ReadLoop.received_eq_some (s : ReadLoop) (raw : Bytes) (h : s.received P = some raw) :
    2 ≤ raw.length ∧ ∃ socket c,
      s.future.poll P s.socket s.cipher = (.ready (.ok raw), socket, c) := by
  unfold ReadLoop.received at h
  split at h
  · rename_i msg socket c hpoll
    by_cases hshort : msg.length < 2
    · rw [if_pos hshort] at h
      exact absurd h (by simp)
    · rw [if_neg hshort, Option.some.injEq] at h
      subst h
      exact ⟨Nat.le_of_not_lt hshort, socket, c, hpoll⟩
  · exact absurd h (by simp)

/-- A poll hands over what it received, and keeps the loop from ending for any
    reason but the stream. -/
theorem ReadLoop.step_poll (s s' : ReadLoop) (h : s.step P (.poll true) = some s') :
    s'.handled = s.handled ++ (s.received P).toList
      ∧ s'.status ≠ .ended .handlerFailed ∧ s'.status ≠ .ended .pingFailed := by
  unfold ReadLoop.step at h
  unfold ReadLoop.received
  cases hstatus : s.status with
  | ended reason =>
      rw [hstatus] at h
      exact absurd h (by simp)
  | running =>
      rw [hstatus] at h
      rcases hpoll : s.future.poll P s.socket s.cipher with ⟨p, socket, c⟩
      rw [hpoll] at h
      cases p with
      | pending future =>
          -- Part of a frame hands nothing over.
          rw [← Option.some.inj h]
          exact ⟨(List.append_nil _).symm, by simp⟩
      | ready result =>
          cases result with
          | ok raw =>
              rw [← Option.some.inj h]
              -- A message without a type ends the loop, but not for the handler's sake.
              by_cases hshort : raw.length < 2
              · simp [ReadLoop.onMessage, hshort]
              · simp [ReadLoop.onMessage, hshort]
          | err e =>
              rw [← Option.some.inj h]
              simp
          | panicked =>
              rw [← Option.some.inj h]
              simp
          | diverged =>
              rw [← Option.some.inj h]
              simp

theorem ReadLoop.step_tick (s s' : ReadLoop) (h : s.step P (.tick true) = some s') :
    s'.handled = s.handled ∧ s'.status = .running := by
  unfold ReadLoop.step at h
  cases hstatus : s.status with
  | ended reason =>
      rw [hstatus] at h
      exact absurd h (by simp)
  | running =>
      rw [hstatus] at h
      rw [← Option.some.inj h]
      exact ⟨rfl, rfl⟩

theorem ReadLoop.step_arrive (s s' : ReadLoop) (n : Nat) (h : s.step P (.arrive n) = some s') :
    s'.handled = s.handled ∧ s'.status = s.status := by
  unfold ReadLoop.step at h
  by_cases hn : n ≤ s.inFlight.length
  · simp only [if_pos hn, Option.some.injEq] at h
    rw [← h]
    exact ⟨rfl, rfl⟩
  · simp only [if_neg hn, reduceCtorEq] at h

namespace Session

/-- A send that succeeds lets the loop go on. -/
theorem goOn_ok (s s' : Session) (event : Bool → LoopEvent)
    (r : Return PrimitiveCall NoiseWriter Empty Bool) (hr : r.outcome = .ok true) :
    s.goOn P event r = some s'
      ↔ s.loop.step P (event true) = some s'.loop ∧ s'.writer = r.state := by
  unfold goOn
  rw [hr]
  simp only [Option.map_eq_some_iff]
  constructor
  · rintro ⟨loop, hloop, rfl⟩
    exact ⟨hloop, rfl⟩
  · rintro ⟨hloop, hwriter⟩
    exact ⟨s'.loop, hloop, by rw [← hwriter]⟩

/-- When its writes go out whole, a step of a session is a step of its loop or
    leaves that alone, and sends what it has to send. -/
theorem step_whole (hP : P.OpensSealed) (s s' : Session) (e : SessionEvent) (hwhole : e.Whole)
    (h : s.step S P e = some s') :
    Written P s.writer ((s.sends S P e).map Sent.wire) s'.writer
      ∧ e.loopEvent.elim (some s.loop) (s.loop.step P) = some s'.loop := by
  have hwires : ∀ sender (wires : List Bytes), (wires.map (Sent.mk sender)).map Sent.wire = wires :=
    fun sender wires => by rw [List.map_map]; exact List.map_id wires
  unfold Session.sends
  cases e with
  | arrive n =>
      rcases Option.map_eq_some_iff.mp h with ⟨loop, hloop, rfl⟩
      exact ⟨Written.none s.writer, hloop⟩
  | poll result =>
      cases (hwhole : result = .whole)
      simp only [hwires]
      unfold step at h
      cases hreceived : s.loop.received P with
      | none =>
          rw [hreceived] at h
          rcases Option.map_eq_some_iff.mp h with ⟨loop, hloop, rfl⟩
          exact ⟨Written.none s.writer, hloop⟩
      | some raw =>
          rw [hreceived] at h
          -- The handler succeeds, so the loop goes on, and the writer has the answer.
          rcases handlePeerMessage_answers (S := S) hP raw
            (s.loop.received_eq_some raw hreceived).1 s.writer with ⟨hok, hwritten⟩
          rcases (goOn_ok s s' .poll _ hok).mp h with ⟨hloop, hwriter⟩
          rw [hwriter]
          exact ⟨hwritten, hloop⟩
  | tick result =>
      cases (hwhole : result = .whole)
      simp only [hwires]
      rcases sendReply_whole (S := S) hP _ (ping_sendable hP) s.writer with ⟨hok, hwritten⟩
      rcases (goOn_ok s s' .tick _ hok).mp h with ⟨hloop, hwriter⟩
      rw [hwriter]
      exact ⟨hwritten, hloop⟩
  | command result wire =>
      cases (hwhole : result = .whole)
      simp only [hwires, SessionEvent.utters]
      have hs' : ⟨s.loop, ((NoiseWriter.send P .whole wire).run s.writer).state⟩ = s' :=
        Option.some.inj h
      rw [← hs']
      by_cases hfits : wire.length ≤ Noise.maxMessageSize
      · rw [if_pos hfits]
        exact ⟨Written.one s.writer wire hfits, rfl⟩
      · -- A message that is too long is refused, and the writer stays as it is.
        rw [if_neg hfits, send_oversized .whole wire s.writer (Nat.lt_of_not_le hfits)]
        exact ⟨Written.none s.writer, rfl⟩

/-- Whatever becomes of its writes, a step only adds to what was written. -/
theorem step_grows (s s' : Session) (e : SessionEvent) (h : s.step S P e = some s') :
    Grows s.writer s'.writer := by
  -- The handler's messages and the timer's are sent alike.
  have hgoOn : ∀ event (m : NoiseMethod NoiseWriter Empty Bool), Method.Moves Grows m →
      s.goOn P event (m.run s.writer) = some s' → Grows s.writer s'.writer := by
    intro event m hm hgo
    have hgrows := hm s.writer
    unfold goOn at hgo
    cases ho : (m.run s.writer).outcome with
    | ok ok =>
        rw [ho] at hgo
        rcases Option.map_eq_some_iff.mp hgo with ⟨loop, -, rfl⟩
        exact hgrows
    | _ =>
        rw [ho] at hgo
        rcases Option.map_eq_some_iff.mp hgo with ⟨loop, -, rfl⟩
        exact hgrows
  cases e with
  | arrive n =>
      rcases Option.map_eq_some_iff.mp h with ⟨loop, -, rfl⟩
      exact refl_of Grows s.writer
  | poll result =>
      unfold step at h
      cases hreceived : s.loop.received P with
      | none =>
          rw [hreceived] at h
          rcases Option.map_eq_some_iff.mp h with ⟨loop, -, rfl⟩
          exact refl_of Grows s.writer
      | some raw =>
          rw [hreceived] at h
          exact hgoOn .poll _ (grows_handlePeerMessage result raw) h
  | tick result => exact hgoOn .tick _ (grows_sendReply result _) h
  | command result wire =>
      rw [← Option.some.inj h]
      exact grows_send result wire s.writer

end Session

theorem saidBy_append (sender : Sender) (sent more : List Sent) :
    saidBy sender (sent ++ more) = saidBy sender sent ++ saidBy sender more := by
  unfold saidBy
  rw [List.filter_append, List.map_append]

theorem saidBy_self (sender : Sender) (wires : List Bytes) :
    saidBy sender (wires.map (Sent.mk sender)) = wires := by
  unfold saidBy
  rw [List.filter_eq_self.mpr, List.map_map]
  · exact List.map_id wires
  · intro m hm
    rcases List.mem_map.mp hm with ⟨wire, -, rfl⟩
    exact decide_eq_true rfl

theorem saidBy_other (sender other : Sender) (wires : List Bytes) (h : other ≠ sender) :
    saidBy sender (wires.map (Sent.mk other)) = [] := by
  unfold saidBy
  rw [List.filter_eq_nil_iff.mpr, List.map_nil]
  intro m hm
  rcases List.mem_map.mp hm with ⟨wire, -, rfl⟩
  rw [decide_eq_true_eq]
  exact h

/-- What the timer and the commands send in a step is what the event has them
    send. -/
theorem Session.saidBy_sends (s : Session) (e : SessionEvent) (sender : Sender)
    (h : sender ≠ .handler) : saidBy sender (s.sends S P e) = e.utters S sender := by
  cases e with
  | arrive n => cases sender <;> rfl
  | poll result =>
      have hnone := saidBy_other sender .handler
        ((s.loop.received P).bind (answer S)).toList h.symm
      cases sender <;> exact hnone
  | tick result =>
      cases sender with
      | handler => exact absurd rfl h
      | timer => exact saidBy_self .timer _
      | command => exact saidBy_other .command .timer _ (by decide)
  | command result wire =>
      cases sender with
      | handler => exact absurd rfl h
      | timer => exact saidBy_other .timer .command _ (by decide)
      | command => exact saidBy_self .command _

/-- What a step adds to what was said. -/
theorem step_spoken (hP : P.OpensSealed) (w₀ : NoiseWriter) (sent : List Sent)
    (events : List SessionEvent) (s s' : Session) (e : SessionEvent)
    (h : Spoken S P w₀ sent events s) (hwhole : e.Whole) (hstep : s.step S P e = some s') :
    Spoken S P w₀ (sent ++ s.sends S P e) (events ++ [e]) s' := by
  rcases Session.step_whole hP s s' e hwhole hstep with ⟨hwritten, hloop⟩
  -- The handler answers what the step hands over, and nothing else.
  have hhandler : ∃ more, s'.loop.handled = s.loop.handled ++ more
      ∧ saidBy .handler (s.sends S P e) = more.filterMap (answer S)
      ∧ s'.loop.status ≠ .ended .handlerFailed ∧ s'.loop.status ≠ .ended .pingFailed := by
    cases e with
    | arrive n =>
        rcases ReadLoop.step_arrive (P := P) s.loop s'.loop n hloop with ⟨hhandled, hstatus⟩
        rw [hhandled, hstatus]
        exact ⟨[], (List.append_nil _).symm, rfl, h.handlerKept, h.timerKept⟩
    | poll result =>
        rcases ReadLoop.step_poll s.loop s'.loop hloop with ⟨hhandled, hkept⟩
        refine ⟨_, hhandled, (saidBy_self .handler _).trans ?_, hkept⟩
        cases s.loop.received P with
        | none => rfl
        | some raw =>
            change (answer S raw).toList = [raw].filterMap (answer S)
            cases hanswer : answer S raw with
            | none => rw [List.filterMap_cons_none hanswer]; rfl
            | some wire => rw [List.filterMap_cons_some hanswer]; rfl
    | tick result =>
        rcases ReadLoop.step_tick (P := P) s.loop s'.loop hloop with ⟨hhandled, hstatus⟩
        rw [hhandled, hstatus]
        exact ⟨[], (List.append_nil _).symm, saidBy_other .handler .timer _ (by decide), by simp,
          by simp⟩
    | command result wire =>
        have hsame : s.loop = s'.loop := Option.some.inj hloop
        rw [← hsame]
        exact ⟨[], (List.append_nil _).symm, saidBy_other .handler .command _ (by decide),
          h.handlerKept, h.timerKept⟩
  rcases hhandler with ⟨more, hmore, hanswers, hkept⟩
  refine ⟨?_, ?_, ?_, hkept.1, hkept.2⟩
  -- What was written before comes first.
  · rw [List.map_append]
    exact Written.append w₀ s.writer s'.writer _ _ h.written hwritten
  · rw [saidBy_append, hanswers, h.byHandler, hmore, List.filterMap_append]
  · intro sender hsender
    rw [saidBy_append, h.byOthers sender hsender, s.saidBy_sends e sender hsender,
      List.flatMap_append, List.flatMap_singleton]

/-- What was said in a run whose writes go out whole. -/
theorem run_spoken (hP : P.OpensSealed) (w : NoiseWriter) (c : RecvCipher) (stream : Bytes)
    (events : List SessionEvent) (s : Session) (hwhole : ∀ e ∈ events, e.Whole)
    (hrun : Transition.run (Session.step S P) (Session.start w c stream) events = some s) :
    ∃ sent, Spoken S P w sent events s := by
  refine Transition.history_invariant (fun _ => SessionEvent.Whole)
    (fun events s => ∃ sent, Spoken S P w sent events s) _ ?_ ?_ events s
    (Transition.guarded_of_forall _ _ events hwhole) hrun
  · exact ⟨[], Written.none w, rfl, fun _ _ => rfl, by simp [Session.start, ReadLoop.start],
      by simp [Session.start, ReadLoop.start]⟩
  · intro events s e s' hspoken he hstep
    rcases hspoken with ⟨sent, hsent⟩
    exact ⟨_, step_spoken hP w sent events s s' e hsent he hstep⟩

/-- Whatever becomes of its writes, a run only adds to what was written. -/
theorem run_grows (s s' : Session) (events : List SessionEvent)
    (hrun : Transition.run (Session.step S P) s events = some s') : Grows s.writer s'.writer := by
  refine Transition.guarded_invariant (fun _ _ => True) (fun s' => Grows s.writer s'.writer)
    ?_ s s' events (refl_of Grows s.writer)
    (Transition.guarded_of_forall (fun _ => True) _ events fun _ _ => trivial) hrun
  intro s₁ e s₂ hgrows _ hstep
  exact trans_of Grows hgrows (s₁.step_grows s₂ e hstep)

/-- What the peer reads in a session, whatever bytes it sends itself, however they
    arrive, and in whatever order the senders take turns. It reads one message after
    the other, each of them whole: the handler's are the answers to what was handed
    over, once each and in order, and the timer's and the commands' are what these
    had to send. Neither a reply nor a ping ends the loop. What was written stays
    readable, also when writes fail later. -/
theorem session_speaks (hP : P.OpensSealed) (w : NoiseWriter) (c : RecvCipher) (stream : Bytes)
    (before after : List SessionEvent) (s s' : Session) (hwhole : ∀ e ∈ before, e.Whole)
    (hrun : Transition.run (Session.step S P) (Session.start w c stream) before = some s)
    (hrun' : Transition.run (Session.step S P) s after = some s') :
    ∃ sent : List Sent,
      (Method.calls (fun _ : Bytes => NoiseReader.recv P) (sent.map Sent.wire)
        ⟨s'.writer.stream.drop w.stream.length, w.cipher⟩).outcomes
        = (sent.map Sent.wire).map .ok
      ∧ saidBy .handler sent = s.loop.handled.filterMap (answer S)
      ∧ saidBy .timer sent = before.flatMap (SessionEvent.utters S .timer)
      ∧ saidBy .command sent = before.flatMap (SessionEvent.utters S .command)
      ∧ s.loop.status ≠ .ended .handlerFailed ∧ s.loop.status ≠ .ended .pingFailed := by
  -- The later events, failing ones included, only add to the stream.
  rcases run_spoken hP w c stream before s hwhole hrun with ⟨sent, hspoken⟩
  exact ⟨sent, written_reads hP w s.writer _ _ hspoken.written (run_grows s s' after hrun'),
    hspoken.byHandler, hspoken.byOthers .timer (by decide), hspoken.byOthers .command (by decide),
    hspoken.handlerKept, hspoken.timerKept⟩

/-- A ping that arrives in two pieces, with the timer's ping and a command between
    them, and a write that fails afterwards. -/
theorem session_speaks_interleaved :
    let c : HalfCipher := ⟨List.Vector.replicate 32 1, 0, List.Vector.replicate 32 2⟩
    let stream := (frames .transparent c [[0, 18, 0, 3, 0, 0]]).flatten
    let before : List SessionEvent := [.arrive 18, .poll .whole, .command .whole [0, 1, 9],
      .arrive 22, .poll .whole, .tick .whole]
    ∃ s s' sent,
      Transition.run (Session.step .transparent .transparent) (Session.start ⟨[], c⟩ c stream)
        before = some s
      ∧ Transition.run (Session.step .transparent .transparent) s
        [.tick (.failed 5 "broken pipe")] = some s'
      ∧ (Method.calls (fun _ : Bytes => NoiseReader.recv .transparent) (sent.map Sent.wire)
        ⟨s'.writer.stream.drop 0, c⟩).outcomes = (sent.map Sent.wire).map .ok
      ∧ saidBy .handler sent = s.loop.handled.filterMap (answer .transparent) := by
  intro c stream before
  have hsome : ((Transition.run (Session.step .transparent .transparent)
      (Session.start ⟨[], c⟩ c stream) before).bind fun s => Transition.run
        (Session.step .transparent .transparent) s [.tick (.failed 5 "broken pipe")]).isSome := by
    decide +kernel
  rcases Option.isSome_iff_exists.mp hsome with ⟨s', hboth⟩
  rcases Option.bind_eq_some_iff.mp hboth with ⟨s, hrun, hrun'⟩
  have hwhole : ∀ e ∈ before, e.Whole := by
    intro e he
    simp only [before, List.mem_cons, List.not_mem_nil, or_false] at he
    rcases he with rfl | rfl | rfl | rfl | rfl | rfl <;> first | rfl | trivial
  rcases session_speaks Primitives.transparent_opensSealed ⟨[], c⟩ c stream before
    [.tick (.failed 5 "broken pipe")] s s' hwhole hrun hrun' with ⟨sent, hreads, hhandler, -⟩
  exact ⟨s, s', sent, hrun, hrun', hreads, hhandler⟩

/-- A session keeps its loop aligned with the stream, as the loop on its own
    does. -/
theorem step_session_aligned (hP : P.OpensSealed) (c₀ : HalfCipher) (msgs : List Bytes)
    (hmsgs : ∀ m ∈ msgs, 2 ≤ m.length) (s s' : Session) (e : SessionEvent)
    (h : Aligned P c₀ msgs s.loop) (hwhole : e.Whole) (htick : s.TickBetweenFrames e)
    (hstep : s.step S P e = some s') : Aligned P c₀ msgs s'.loop := by
  have hloop := (Session.step_whole hP s s' e hwhole hstep).2
  cases hevent : e.loopEvent with
  | none =>
      rw [hevent] at hloop
      have hsame : s.loop = s'.loop := Option.some.inj hloop
      rw [← hsame]
      exact h
  | some event =>
      rw [hevent] at hloop
      exact step_aligned c₀ msgs hmsgs s.loop event s'.loop h (htick event hevent) hloop

/-- The loop of a session with an honest peer stays aligned, as long as ticks complete
    between frames and no write fails. -/
theorem run_session_aligned (hP : P.OpensSealed) (w : NoiseWriter) (c : HalfCipher)
    (msgs : List Bytes) (hmsgs : ∀ m ∈ msgs, 2 ≤ m.length ∧ m.length ≤ Noise.maxMessageSize)
    (events : List SessionEvent) (s : Session) (hwhole : ∀ e ∈ events, e.Whole)
    (htick : Transition.Guarded (Session.step S P) Session.TickBetweenFrames
      (Session.start w c (frames P c msgs).flatten) events)
    (hrun : Transition.run (Session.step S P) (Session.start w c (frames P c msgs).flatten) events
      = some s) : Aligned P c msgs s.loop := by
  refine Transition.guarded_invariant
    (fun s e => SessionEvent.Whole e ∧ Session.TickBetweenFrames s e)
    (fun s => Aligned P c msgs s.loop) ?_ _ s events
    (start_aligned hP c msgs fun m hm => (hmsgs m hm).2)
    (Transition.guarded_and _ _ _ events (Transition.guarded_of_forall _ _ events hwhole) htick)
    hrun
  intro s₁ e s₂ hs₁ hguard hstep
  exact step_session_aligned hP c msgs (fun m hm => (hmsgs m hm).1) s₁ s₂ e hs₁ hguard.1
    hguard.2 hstep

/-- An aligned loop that no write has ended is running, and with all that was sent
    read, it has handed over every message. -/
theorem aligned_served (hP : P.OpensSealed) (c : HalfCipher) (msgs : List Bytes)
    (hmsgs : ∀ m ∈ msgs, 2 ≤ m.length ∧ m.length ≤ Noise.maxMessageSize) (s : ReadLoop)
    (h : Aligned P c msgs s) (hhandler : s.status ≠ .ended .handlerFailed)
    (htimer : s.status ≠ .ended .pingFailed) :
    s.handled <+: msgs ∧ s.status = .running
      ∧ (s.inFlight = [] → s.socket = [] → s.handled = msgs) := by
  have hrunning := aligned_running c msgs s h hhandler htimer
  have hdelivers := aligned_delivers c msgs (fun m hm => (hmsgs m hm).1) s h hrunning
  refine ⟨hdelivers.inOrder, hrunning, fun hflight hsocket => ?_⟩
  -- There are as many frames as messages, and all of them have arrived.
  have hframes := (frames_framed hP msgs c fun m hm => (hmsgs m hm).2).length_eq
  have harrived : Arrived P c msgs s msgs.length := by
    unfold Arrived
    rw [hflight, ← hframes, List.take_length]
    exact Nat.le_refl _
  exact hdelivers.inOrder.eq_of_length_le
    (hdelivers.complete hsocket msgs.length (Nat.le_refl _) harrived)

/-- An honest peer is served: as long as ticks complete between frames and no write
    fails, the loop keeps running, and once all that the peer sent has arrived and
    been read, every message was handed over. All that the peer has to read is what the
    three senders sent, once each: the handler the answers to the messages handed over,
    in order, and the timer and the commands what they had to send. -/
theorem session_serves (hP : P.OpensSealed) (w : NoiseWriter) (c : HalfCipher)
    (msgs : List Bytes) (hmsgs : ∀ m ∈ msgs, 2 ≤ m.length ∧ m.length ≤ Noise.maxMessageSize)
    (events : List SessionEvent) (s : Session) (hwhole : ∀ e ∈ events, e.Whole)
    (htick : Transition.Guarded (Session.step S P) Session.TickBetweenFrames
      (Session.start w c (frames P c msgs).flatten) events)
    (hrun : Transition.run (Session.step S P) (Session.start w c (frames P c msgs).flatten) events
      = some s) :
    s.loop.handled <+: msgs ∧ s.loop.status = .running
      ∧ (s.loop.inFlight = [] → s.loop.socket = [] → s.loop.handled = msgs)
      ∧ ∃ sent : List Sent,
        ReadsExactly P w.cipher (s.writer.stream.drop w.stream.length) (sent.map Sent.wire)
        ∧ saidBy .handler sent = s.loop.handled.filterMap (answer S)
        ∧ saidBy .timer sent = events.flatMap (SessionEvent.utters S .timer)
        ∧ saidBy .command sent = events.flatMap (SessionEvent.utters S .command) := by
  -- What was said and what was handed over are two invariants of the same run.
  rcases run_spoken hP w c _ events s hwhole hrun with ⟨sent, hspoken⟩
  have haligned := run_session_aligned hP w c msgs hmsgs events s hwhole htick hrun
  rcases aligned_served hP c msgs hmsgs s.loop haligned hspoken.handlerKept hspoken.timerKept
    with ⟨horder, hrunning, hall⟩
  exact ⟨horder, hrunning, hall, sent, written_reads_exactly hP w s.writer _ hspoken.written,
    hspoken.byHandler, hspoken.byOthers .timer (by decide), hspoken.byOthers .command (by decide)⟩

/-- A ping and a pong, served with the timer's ping before them and a command between
    them. -/
theorem session_serves_ping :
    let c : HalfCipher := ⟨List.Vector.replicate 32 1, 0, List.Vector.replicate 32 2⟩
    let msgs : List Bytes := [[0, 18, 0, 3, 0, 0], [0, 19, 0, 0]]
    let events : List SessionEvent := [.tick .whole, .arrive 78, .poll .whole,
      .command .whole [0, 1, 9], .poll .whole]
    ∃ s sent,
      Transition.run (Session.step .transparent .transparent)
        (Session.start ⟨[], c⟩ c (frames .transparent c msgs).flatten) events = some s
      ∧ s.loop.handled = msgs
      ∧ ReadsExactly .transparent c s.writer.stream (sent.map Sent.wire)
      ∧ saidBy .handler sent = [[0, 19, 0, 3, 0, 0, 0]]
      ∧ saidBy .timer sent = [[0, 18, 0, 1, 0, 0]]
      ∧ saidBy .command sent = [[0, 1, 9]] := by
  intro c msgs events
  have hsome : ((Transition.run (Session.step .transparent .transparent)
      (Session.start ⟨[], c⟩ c (frames .transparent c msgs).flatten) events).filter
        fun s => s.loop.inFlight = [] ∧ s.loop.socket = []).isSome := by decide +kernel
  rcases Option.isSome_iff_exists.mp hsome with ⟨s, hfilter⟩
  rcases (Option.filter_eq_some_iff).mp hfilter with ⟨hrun, hempty⟩
  rcases decide_eq_true_eq.mp hempty with ⟨hflight, hsocket⟩
  have hwhole : ∀ e ∈ events, e.Whole := by
    intro e he
    simp only [events, List.mem_cons, List.not_mem_nil, or_false] at he
    rcases he with rfl | rfl | rfl | rfl | rfl <;> first | rfl | trivial
  rcases session_serves (S := .transparent) Primitives.transparent_opensSealed ⟨[], c⟩ c
    msgs (by decide) events s hwhole (by decide +kernel) hrun with
    ⟨-, -, hall, sent, hreads, hhandler, htimer, hcommand⟩
  rw [hall hflight hsocket] at hhandler
  exact ⟨s, sent, hrun, hall hflight hsocket, hreads, hhandler, htimer, hcommand⟩

end

end Simd

end LnGossipSim
