import LnGossipSim.Noise.Integrity
import LnGossipSim.Simd.ReadLoop

/-!
# The Read Loop under Tampering

What the read loop hands over when the stream is not the remote's. The network
may drop, repeat, reorder and change what the remote sent, or send something else.
The remote only contributes the frames it has sealed, and no one else can seal.

`Noise.Integrity` says that a receiver accepts the next plaintext or none. The
plaintexts of a remote that encrypts messages are each message's length and the
message, so they alternate, and the loop opens them alternately as well. The
invariant is that the future is where the cipher is: reading a header when the
next plaintext is a length, and reading a body of that length after it. A tick
inside a frame breaks this, and is excluded as in `Simd.ReadLoop`.

That ciphertexts are not forged is assumed of the segments of the stream that the
loop may open in some use, under the key and the nonce of that use.

## Main definitions

* `framePlaintexts`: What a remote seals for its messages.
* `Unforged`: No segment of the stream is a forgery.
* `InStep`: The future is where the cipher is.
* `Untampered`: The invariant of the loop.

## Theorems

* `encryptAll_seals`: The plaintexts of a remote alternate.
* `pollBody_inStep`, `pollHeader_inStep`: A poll hands over the next message or
  none.
* `step_untampered`: What an event between frames preserves.
* `readLoop_untampered`: What is handed over was sent, in order and once each.
-/

namespace LnGossipSim

namespace Simd

open BigEndian Noise Noise.HalfCipher

/-- What a remote seals for its messages: the length of each, and the message. -/
def framePlaintexts (msgs : List Bytes) : List Bytes :=
  msgs.flatMap fun m => [beBytes 2 (UInt16.ofNat m.length).toNat, m]

section

variable (P : Primitives)

/-- What a remote has sealed to send its messages. -/
def sealedFor (c : SendCipher) (msgs : List Bytes) : List PrimitiveCall :=
  (Method.calls (SendCipher.encrypt P : Bytes → NoiseMethod SendCipher NoiseError Bytes) msgs
    c).trace

/-- The ciphertext opens in use number `j` only when the remote has sealed it in that
    use. -/
def Genuine (c : HalfCipher) (msgs : List Bytes) (j : Nat) (ct : Bytes) : Prop :=
  ∀ p, P.decrypt (c.useKey P j) (encodeNonce (c.useNonce P j)) [] ct = some p →
    ∃ p', .sealing (c.useKey P j) (encodeNonce (c.useNonce P j)) [] p' ct ∈ sealedFor P c msgs

/-- No segment of the stream is a forged length, or a forged message of the length
    that goes with its use. -/
def Unforged (c : HalfCipher) (msgs : List Bytes) (stream : Bytes) : Prop :=
  ∀ ct, ct <:+: stream →
    (∀ k ≤ msgs.length, ct.length = encryptedLengthSize → Genuine P c msgs (2 * k) ct)
    ∧ ∀ k m, msgs[k]? = some m → ct.length = m.length + macSize →
      Genuine P c msgs (2 * k + 1) ct

/-- With `k` messages handed over, the future reads a header and the cipher is about
    to open the next length, or the future reads a body of the next message's length
    and the cipher is about to open that message. -/
inductive InStep (c₀ : HalfCipher) (msgs : List Bytes) (k : Nat) : RecvFuture → RecvCipher →
    Prop where
  | header (buffer : Bytes) (c : RecvCipher) (huse : AtUse P c₀ (2 * k) c) :
      InStep c₀ msgs k (.header buffer) c
  | body (msgLen : UInt16) (buffer m : Bytes) (c : RecvCipher) (hm : msgs[k]? = some m)
      (hlen : msgLen.toNat = m.length) (huse : AtUse P c₀ (2 * k + 1) c) :
      InStep c₀ msgs k (.body msgLen buffer) c

/-- The bytes a future holds. -/
def RecvFuture.buffer : RecvFuture → Bytes
  | .header buffer => buffer
  | .body _ buffer => buffer

/-- What becomes of the bytes at hand when `k` messages have been handed over: the
    future goes on waiting with a part of them, hands over the next message and
    leaves a part of them, or fails. -/
inductive Polled (c₀ : HalfCipher) (msgs : List Bytes) (k : Nat) (data : Bytes) :
    Poll × Bytes × RecvCipher → Prop where
  | waits (f : RecvFuture) (c : RecvCipher) (hf : InStep P c₀ msgs k f c)
      (hbuffer : f.buffer <:+ data) : Polled c₀ msgs k data (.pending f, [], c)
  | delivers (m rest : Bytes) (c : RecvCipher) (hm : msgs[k]? = some m) (hrest : rest <:+ data)
      (huse : AtUse P c₀ (2 * (k + 1)) c) : Polled c₀ msgs k data (.ready (.ok m), rest, c)
  | fails (e : NoiseError) (rest : Bytes) (c : RecvCipher) :
      Polled c₀ msgs k data (.ready (.err e), rest, c)

/-- The loop has handed over some of the remote's messages, and while it runs its
    future is in step, and the bytes it has yet to read are the end of the stream. -/
def Untampered (c₀ : HalfCipher) (msgs : List Bytes) (stream : Bytes) (s : ReadLoop) : Prop :=
  ∃ k ≤ msgs.length, s.handled = msgs.take k ∧ s.status ≠ .ended .panicked
    ∧ (s.status = .running → InStep P c₀ msgs k s.future s.cipher
      ∧ s.future.buffer ++ s.socket ++ s.inFlight <:+ stream)

end

section

variable {P : Primitives}

/-- Rotations are no openings. -/
theorem opening_mem_rotationCalls (c : HalfCipher) (key : Key) (nonce : ByteArr 12)
    (ad ct : Bytes) (p : Option Bytes) :
    PrimitiveCall.opening key nonce ad ct p ∉ c.rotationCalls := by
  unfold rotationCalls
  by_cases h : keyRotationThreshold ≤ c.nonce
  · rw [if_pos h, List.mem_singleton]
    exact PrimitiveCall.noConfusion
  · rw [if_neg h]
    exact List.not_mem_nil

/-- A message is sealed as its length and the message. -/
theorem encrypt_seals (hP : P.OpensSealed) (c : SendCipher) (m : Bytes)
    (hm : m.length ≤ maxMessageSize) :
    ∃ ct t, (SendCipher.encrypt P m : NoiseMethod SendCipher NoiseError Bytes).run c
        = ⟨.ok ct, (c.used P).used P, t⟩
      ∧ Seals P c t [beBytes 2 (UInt16.ofNat m.length).toNat, m] ((c.used P).used P) := by
  have hshort : (beBytes 2 (UInt16.ofNat m.length).toNat).length ≤ maxMessageSize := by
    rw [beBytes_length]
    decide
  rcases sealNext_seals hP c _ hshort with ⟨ct, t, hrun, hseals⟩
  rcases sealNext_seals hP (c.used P) m hm with ⟨ct', t', hrun', hseals'⟩
  refine ⟨ct ++ ct', t ++ t', ?_, seals_append c _ _ t t' _ _ hseals hseals'⟩
  have hlt : m.length < 2 ^ 16 := Nat.lt_succ_of_le hm
  unfold SendCipher.encrypt SendCipher.encryptLength
  rw [if_pos hlt, Outcome.expect_some, Method.run_lift_ok_bind,
    Method.run_bind_of_ok _ _ _ _ _ _ hrun, Method.run_bind_of_ok _ _ _ _ _ _ hrun']
  simp only [Method.run_pure, Return.after, List.append_nil]

/-- Messages are sealed one after the other. The induction is on the messages. -/
theorem encryptAll_seals (hP : P.OpensSealed) (msgs : List Bytes) (c : SendCipher)
    (hmsgs : ∀ m ∈ msgs, m.length ≤ maxMessageSize) :
    ∃ c', Seals P c (sealedFor P c msgs) (framePlaintexts msgs) c' := by
  induction msgs generalizing c with
  | nil => exact ⟨c, Seals.nil c⟩
  | cons m msgs ih =>
      rcases List.forall_mem_cons.mp hmsgs with ⟨hm, hrest⟩
      rcases encrypt_seals hP c m hm with ⟨ct, t, hrun, hseals⟩
      rcases ih ((c.used P).used P) hrest with ⟨c', hseals'⟩
      refine ⟨c', ?_⟩
      have htrace : sealedFor P c (m :: msgs) = t ++ sealedFor P ((c.used P).used P) msgs := by
        unfold sealedFor
        rw [Method.calls_cons, hrun]
      rw [htrace]
      exact seals_append c _ c' _ _ _ _ hseals hseals'

theorem length_framePlaintexts (msgs : List Bytes) :
    (framePlaintexts msgs).length = 2 * msgs.length := by
  induction msgs with
  | nil => rfl
  | cons m msgs ih =>
      change (framePlaintexts msgs).length + 1 + 1 = 2 * (msgs.length + 1)
      omega

/-- The plaintext in an even place is a length, and the one after it the
    message. -/
theorem framePlaintexts_getElem? (msgs : List Bytes) (k : Nat) :
    (framePlaintexts msgs)[2 * k]? = msgs[k]?.map (fun m => beBytes 2 (UInt16.ofNat m.length).toNat)
      ∧ (framePlaintexts msgs)[2 * k + 1]? = msgs[k]? := by
  induction msgs generalizing k with
  | nil => exact ⟨rfl, rfl⟩
  | cons m msgs ih =>
      cases k with
      | zero => exact ⟨rfl, rfl⟩
      | succ k => exact ih k

/-- An opening by a receiver that has accepted `j` plaintexts: the next plaintext, or
    none. -/
theorem openNext_next (hP : P.OpensSealed) (c₀ : HalfCipher) (msgs : List Bytes)
    (hmsgs : ∀ m ∈ msgs, m.length ≤ maxMessageSize)
    (hkeys : (c₀.keysThrough P (2 * msgs.length)).Nodup) (c : RecvCipher) (j : Nat)
    (hj : j ≤ 2 * msgs.length) (huse : AtUse P c₀ j c) (ct : Bytes)
    (hgenuine : Genuine P c₀ msgs j ct) :
    (∃ p t, (framePlaintexts msgs)[j]? = some p ∧ ct.length = p.length + macSize
        ∧ (openNext P ct).run c = ⟨.ok p, c.used P, t⟩)
      ∨ ∃ t, (openNext P ct).run c = ⟨.err .decryptionFailed, c.settled P, t⟩ := by
  rcases encryptAll_seals hP msgs c₀ hmsgs with ⟨c', hseals⟩
  rcases settled_eq_use c₀ c j huse with ⟨hkey, hnonce⟩
  rw [← length_framePlaintexts] at hkeys hj
  refine openNext_step hP c₀ c' _ _ hseals hkeys c j hj huse ct ?_
  -- The only opening is under the key and the nonce of this use.
  intro key nonce ad ct' p hmem
  cases hopen : P.decrypt (c.settled P).key (encodeNonce (c.settled P).nonce) [] ct with
  | none =>
      rw [run_openNext_of_none c ct hopen, List.mem_append, List.mem_singleton] at hmem
      rcases hmem with hrot | hthis
      · exact absurd hrot (opening_mem_rotationCalls c key nonce ad ct' (some p))
      · exact absurd hthis (by simp)
  | some q =>
      rw [run_openNext_of_some c ct q hopen, List.mem_append, List.mem_singleton] at hmem
      rcases hmem with hrot | hthis
      · exact absurd hrot (opening_mem_rotationCalls c key nonce ad ct' (some p))
      · rw [PrimitiveCall.opening.injEq] at hthis
        rcases hthis with ⟨rfl, rfl, rfl, rfl, -⟩
        rw [hkey, hnonce] at hopen ⊢
        exact hgenuine q hopen

theorem Polled.of_suffix (c₀ : HalfCipher) (msgs : List Bytes) (k : Nat) (data data' : Bytes)
    (r : Poll × Bytes × RecvCipher) (h : Polled P c₀ msgs k data r) (hdata : data <:+ data') :
    Polled P c₀ msgs k data' r := by
  cases h with
  | waits f c hf hbuffer => exact Polled.waits f c hf (hbuffer.trans hdata)
  | delivers m rest c hm hrest huse => exact Polled.delivers m rest c hm (hrest.trans hdata) huse
  | fails e rest c => exact Polled.fails e rest c

section

variable (hP : P.OpensSealed) (c₀ : HalfCipher) (msgs : List Bytes) (stream : Bytes)
  (hmsgs : ∀ m ∈ msgs, m.length ≤ maxMessageSize) (hunforged : Unforged P c₀ msgs stream)
  (hkeys : (c₀.keysThrough P (2 * msgs.length)).Nodup)

include hP hmsgs hunforged hkeys

/-- A future that reads the body of the next message hands over that message, or
    fails, or waits for the rest. -/
theorem pollBody_inStep (k : Nat) (m : Bytes) (msgLen : UInt16) (data : Bytes) (c : RecvCipher)
    (hm : msgs[k]? = some m) (hlen : msgLen.toNat = m.length) (huse : AtUse P c₀ (2 * k + 1) c)
    (hdata : data <:+: stream) : Polled P c₀ msgs k data (pollBody P msgLen data c) := by
  have hk : k < msgs.length := (List.getElem?_eq_some_iff.mp hm).1
  by_cases hsize : data.length < msgLen.toNat + macSize
  -- Without the whole body the future waits, and its cipher is as it was.
  · rw [pollBody_of_lt msgLen data c hsize]
    exact Polled.waits _ c (InStep.body msgLen data m c hm hlen huse) (List.suffix_refl data)
  · have hbody := List.length_take_of_le (Nat.le_of_not_lt hsize)
    have hrun : pollBody P msgLen data c
        = (.ready ((RecvCipher.decryptMessage P (data.take (msgLen.toNat + macSize))).run
            c).outcome, data.drop (msgLen.toNat + macSize),
          ((RecvCipher.decryptMessage P (data.take (msgLen.toNat + macSize))).run c).state) := by
      unfold pollBody
      rw [if_pos (Nat.le_of_not_lt hsize)]
    -- The segment has the next message's length, so only its own ciphertext opens.
    have hgenuine := (hunforged _ ((List.take_prefix _ data).isInfix.trans hdata)).2 k m hm
      (hbody.trans (congrArg (· + macSize) hlen))
    rcases openNext_next hP c₀ msgs hmsgs hkeys c (2 * k + 1) (by omega) huse _ hgenuine with
      ⟨p, t, hp, -, hopen⟩ | ⟨t, hopen⟩
    · have hopen' : (RecvCipher.decryptMessage P (data.take (msgLen.toNat + macSize))).run c
          = ⟨.ok p, c.used P, t⟩ := hopen
      rw [hrun, hopen']
      rw [(framePlaintexts_getElem? msgs k).2] at hp
      exact Polled.delivers p _ _ hp (List.drop_suffix _ data) (atUse_used c₀ c _ huse)
    · have hopen' : (RecvCipher.decryptMessage P (data.take (msgLen.toNat + macSize))).run c
          = ⟨.err .decryptionFailed, c.settled P, t⟩ := hopen
      rw [hrun, hopen']
      exact Polled.fails _ _ _

/-- A future that reads a header goes on to the body of the next message, or fails,
    or waits for the rest. -/
theorem pollHeader_inStep (k : Nat) (data : Bytes) (c : RecvCipher) (hk : k ≤ msgs.length)
    (huse : AtUse P c₀ (2 * k) c) (hdata : data <:+: stream) :
    Polled P c₀ msgs k data (pollHeader P data c) := by
  by_cases hsize : data.length < encryptedLengthSize
  · rw [pollHeader_of_lt data c hsize]
    exact Polled.waits _ c (InStep.header data c huse) (List.suffix_refl data)
  · rcases Slice.exists_toList encryptedLengthSize (data.take encryptedLengthSize)
      (List.length_take_of_le (by omega)) with ⟨header, hheader⟩
    have hsplit : data = header.toList ++ data.drop encryptedLengthSize := by
      rw [← hheader, List.take_append_drop]
    have hpoll := pollHeader_of_header (P := P) header (data.drop encryptedLengthSize) c
    rw [← hsplit] at hpoll
    have hinfix : header.toList <:+: stream := by
      rw [← hheader]
      exact (List.take_prefix _ data).isInfix.trans hdata
    have hrest : data.drop encryptedLengthSize <:+ data := List.drop_suffix _ data
    -- Any segment of a header's size may be tried, so no forged one may open.
    have hgenuine := (hunforged _ hinfix).1 k hk header.toList_length
    rcases openNext_next hP c₀ msgs hmsgs hkeys c (2 * k) (by omega) huse _ hgenuine with
      ⟨p, t, hp, -, hopen⟩ | ⟨t, hopen⟩
    · -- The plaintext is the next message's length, and its body comes next.
      rw [(framePlaintexts_getElem? msgs k).1] at hp
      rcases Option.map_eq_some_iff.mp hp with ⟨m, hm, rfl⟩
      have hshort := hmsgs m (List.mem_of_getElem? hm)
      have hlen : (UInt16.ofNat m.length).toNat = m.length := by
        rw [UInt16.toNat_ofNat']
        exact Nat.mod_eq_of_lt (Nat.lt_succ_of_le hshort)
      rw [hpoll, run_decryptLength c _ header _ t hopen]
      have hbody := pollBody_inStep hP c₀ msgs stream hmsgs hunforged hkeys k m _
        (data.drop encryptedLengthSize) (c.used P) hm hlen (atUse_used c₀ c _ huse)
        (hrest.isInfix.trans hdata)
      exact hbody.of_suffix c₀ msgs k _ data _ hrest
    · have hfail : (RecvCipher.decryptLength P header).run c
          = ⟨.err .decryptionFailed, c.settled P, t⟩ := by
        unfold RecvCipher.decryptLength
        exact Method.run_bind_of_err _ _ _ _ _ _ hopen
      rw [hpoll, hfail]
      exact Polled.fails _ _ _

/-- A poll of a future that is in step goes on from the bytes the future holds. -/
theorem poll_inStep (k : Nat) (f : RecvFuture) (socket : Bytes) (c : RecvCipher)
    (hk : k ≤ msgs.length) (h : InStep P c₀ msgs k f c) (hdata : f.buffer ++ socket <:+: stream) :
    Polled P c₀ msgs k (f.buffer ++ socket) (f.poll P socket c) := by
  cases h with
  | header buffer _ huse =>
      exact pollHeader_inStep hP c₀ msgs stream hmsgs hunforged hkeys k _ c hk huse hdata
  | body msgLen buffer m _ hm hlen huse =>
      exact pollBody_inStep hP c₀ msgs stream hmsgs hunforged hkeys k m msgLen _ c hm hlen huse
        hdata

omit hP hmsgs hunforged hkeys in
/-- With the next message received and the future in step behind it, the message is
    handed over unless it has no type. -/
theorem onMessage_untampered (k : Nat) (s : ReadLoop) (m : Bytes) (handlerOk : Bool)
    (hm : msgs[k]? = some m) (hhandled : s.handled = msgs.take k)
    (hpanic : s.status ≠ .ended .panicked) (hinStep : InStep P c₀ msgs (k + 1) s.future s.cipher)
    (hrest : s.future.buffer ++ s.socket ++ s.inFlight <:+ stream) :
    Untampered P c₀ msgs stream (s.onMessage handlerOk m) := by
  have hk : k < msgs.length := (List.getElem?_eq_some_iff.mp hm).1
  have htake : s.handled ++ [m] = msgs.take (k + 1) := by
    rw [hhandled, List.take_add_one, hm]
    rfl
  unfold ReadLoop.onMessage
  by_cases hshort : m.length < 2
  · rw [if_pos hshort]
    -- A message without a type ends the loop before it is handed over.
    exact ⟨k, Nat.le_of_lt hk, hhandled, by simp, fun hrun => nomatch hrun⟩
  · rw [if_neg hshort]
    cases handlerOk with
    | true => exact ⟨k + 1, hk, htake, hpanic, fun _ => ⟨hinStep, hrest⟩⟩
    | false => exact ⟨k + 1, hk, htake, by simp, fun hrun => nomatch hrun⟩

/-- What a poll preserves. -/
theorem step_poll_untampered (s s' : ReadLoop) (handlerOk : Bool)
    (h : Untampered P c₀ msgs stream s) (hstep : s.step P (.poll handlerOk) = some s') :
    Untampered P c₀ msgs stream s' := by
  rcases h with ⟨k, hk, hhandled, -, hrunning⟩
  unfold ReadLoop.step at hstep
  cases hstatus : s.status with
  | ended reason => simp only [hstatus, reduceCtorEq] at hstep
  | running =>
      rcases hrunning hstatus with ⟨hinStep, hrest⟩
      have hdata : s.future.buffer ++ s.socket <:+: stream :=
        (List.prefix_append _ s.inFlight).isInfix.trans hrest.isInfix
      have hpolled := poll_inStep hP c₀ msgs stream hmsgs hunforged hkeys k s.future s.socket
        s.cipher hk hinStep hdata
      rcases hpoll : s.future.poll P s.socket s.cipher with ⟨p, socket, c⟩
      rw [hpoll] at hpolled
      simp only [hstatus, hpoll] at hstep
      cases hpolled with
      | waits f _ hf hbuffer =>
          simp only [Option.some.injEq] at hstep
          subst hstep
          refine ⟨k, hk, hhandled, by simp, fun _ => ⟨hf, ?_⟩⟩
          rw [List.append_nil]
          exact (List.suffix_append_self_iff.mpr hbuffer).trans hrest
      | fails e _ _ =>
          simp only [Option.some.injEq] at hstep
          subst hstep
          exact ⟨k, hk, hhandled, by simp, fun hrun => nomatch hrun⟩
      | delivers m _ _ hm hsocket huse =>
          -- The next future starts behind the message.
          rw [Option.some.injEq] at hstep
          rw [← hstep]
          refine onMessage_untampered c₀ msgs stream k _ m handlerOk hm hhandled (by simp)
            (InStep.header [] c huse) ?_
          exact (List.suffix_append_self_iff.mpr hsocket).trans hrest

/-- What an event preserves when no tick completes inside a frame. -/
theorem step_untampered (s s' : ReadLoop) (e : LoopEvent) (h : Untampered P c₀ msgs stream s)
    (hguard : TickBetweenFrames s e) (hstep : s.step P e = some s') :
    Untampered P c₀ msgs stream s' := by
  cases e with
  | arrive n =>
      rcases h with ⟨k, hk, hhandled, hpanic, hrunning⟩
      unfold ReadLoop.step at hstep
      -- Bytes that arrive move from the wire to the socket, and their order is kept.
      by_cases hn : n ≤ s.inFlight.length
      · simp only [if_pos hn, Option.some.injEq] at hstep
        subst hstep
        refine ⟨k, hk, hhandled, hpanic, fun hrun => ?_⟩
        rcases hrunning hrun with ⟨hinStep, hrest⟩
        refine ⟨hinStep, ?_⟩
        rw [List.append_assoc, List.append_assoc, List.take_append_drop, ← List.append_assoc]
        exact hrest
      · simp only [if_neg hn, reduceCtorEq] at hstep
  | tick pingOk =>
      rcases h with ⟨k, hk, hhandled, -, hrunning⟩
      unfold ReadLoop.step at hstep
      cases hstatus : s.status with
      | ended reason => simp only [hstatus, reduceCtorEq] at hstep
      | running =>
          rcases hrunning hstatus with ⟨hinStep, hrest⟩
          -- The future that is dropped holds nothing, so nothing is lost.
          have hfresh : s.future = .header [] := hguard
          simp only [hstatus] at hstep
          cases pingOk with
          | true =>
              rw [if_pos rfl, Option.some.injEq] at hstep
              subst hstep
              rw [hfresh] at hinStep hrest
              exact ⟨k, hk, hhandled, by simp, fun _ => ⟨hinStep, hrest⟩⟩
          | false =>
              rw [if_neg Bool.false_ne_true, Option.some.injEq] at hstep
              subst hstep
              exact ⟨k, hk, hhandled, by simp, fun hrun => nomatch hrun⟩
  | poll handlerOk =>
      exact step_poll_untampered hP c₀ msgs stream hmsgs hunforged hkeys s s' handlerOk h hstep

/-- Whatever the network delivers in place of the remote's frames, and however the
    bytes arrive, the read loop hands over a prefix of what the remote sent: nothing
    is changed, repeated, skipped or taken from elsewhere. It does not panic either.
    As for an honest network, ticks have to complete between frames. -/
theorem readLoop_untampered (events : List LoopEvent) (s : ReadLoop)
    (hguard : Transition.Guarded (ReadLoop.step P) TickBetweenFrames (ReadLoop.start c₀ stream)
      events)
    (hrun : Transition.run (ReadLoop.step P) (ReadLoop.start c₀ stream) events = some s) :
    s.handled <+: msgs ∧ s.status ≠ .ended .panicked := by
  -- At the start nothing is handed over, and all of the stream is ahead.
  have hstart : Untampered P c₀ msgs stream (ReadLoop.start c₀ stream) :=
    ⟨0, Nat.zero_le _, rfl, by simp [ReadLoop.start], fun _ =>
      ⟨InStep.header [] c₀ (Ratchet.atSlot_zero _), List.suffix_refl stream⟩⟩
  rcases Transition.guarded_invariant TickBetweenFrames (Untampered P c₀ msgs stream)
    (fun s e s' hs he hstep => step_untampered hP c₀ msgs stream hmsgs hunforged hkeys s s' e hs
      he hstep) _ s events hstart hguard hrun with ⟨k, -, hhandled, hpanic, -⟩
  rw [hhandled]
  exact ⟨List.take_prefix k msgs, hpanic⟩

end

/-- A segment of a stream is some of the bytes after some others. -/
theorem eq_take_drop_of_infix (ct stream : Bytes) (h : ct <:+: stream) :
    ∃ i ≤ stream.length - ct.length, ct = (stream.drop i).take ct.length := by
  rcases h with ⟨front, rest, rfl⟩
  refine ⟨front.length, by rw [List.length_append, List.length_append]; omega, ?_⟩
  rw [List.append_assoc, List.drop_left, List.take_left]

/-- A pong whose frame is replayed. -/
theorem readLoop_untampered_replayed :
    let c : HalfCipher := ⟨List.Vector.replicate 32 1, 5, List.Vector.replicate 32 2⟩
    let stream := (frames .transparent c [[0, 19, 0, 0], [0, 19, 0, 0]]).flatten
    let replayed := stream.take 38 ++ stream.take 38
    ∃ s, Transition.run (ReadLoop.step .transparent) (ReadLoop.start c replayed)
        [.arrive 76, .poll true, .poll true] = some s
      ∧ s.handled <+: [[0, 19, 0, 0]] ∧ s.status ≠ .ended .panicked := by
  intro c stream replayed
  refine ⟨⟨[], replayed.drop 56, ⟨c.key, 7, c.ck⟩, .header [], [[0, 19, 0, 0]],
    .ended (.readError .decryptionFailed)⟩, by decide +kernel, ?_⟩
  refine readLoop_untampered Primitives.transparent_opensSealed c [[0, 19, 0, 0]] replayed
    (fun m hm => by rw [List.mem_singleton.mp hm]; decide) ?_ (by decide)
    [.arrive 76, .poll true, .poll true] _ (by decide +kernel) (by decide +kernel)
  have hheader : ∀ k ≤ 1, ∀ i ≤ replayed.length - 18,
      Primitives.transparent.decrypt (c.useKey .transparent (2 * k))
        (encodeNonce (c.useNonce .transparent (2 * k))) [] ((replayed.drop i).take 18) = none
      ∨ k = 0 ∧ (replayed.drop i).take 18 = replayed.take 18 := by decide +kernel
  have hbody : ∀ i ≤ replayed.length - 20,
      Primitives.transparent.decrypt (c.useKey .transparent 1)
        (encodeNonce (c.useNonce .transparent 1)) [] ((replayed.drop i).take 20) = none
      ∨ (replayed.drop i).take 20 = (replayed.drop 18).take 20 := by decide +kernel
  intro ct hct
  rcases eq_take_drop_of_infix ct replayed hct with ⟨i, hi, heq⟩
  refine ⟨fun k hk hlen p hopen => ?_, fun k m hm hlen p hopen => ?_⟩
  · rw [hlen] at hi heq
    rcases hheader k hk i hi with hnone | ⟨rfl, hgenuine⟩
    · rw [heq] at hopen
      exact absurd (hnone.symm.trans hopen) (by simp)
    · rw [heq, show encryptedLengthSize = 18 from rfl, hgenuine]
      exact ⟨[0, 4], by decide +kernel⟩
  · rcases List.getElem?_eq_some_iff.mp hm with ⟨hk, hget⟩
    rcases Nat.lt_one_iff.mp hk with rfl
    have hsize : ct.length = 20 := by
      rw [hlen, ← hget]
      rfl
    rw [hsize] at hi heq
    rcases hbody i hi with hnone | hgenuine
    · rw [heq] at hopen
      exact absurd (hnone.symm.trans hopen) (by simp)
    · rw [heq, hgenuine]
      exact ⟨[0, 19, 0, 0], by decide +kernel⟩

end

end Simd

end LnGossipSim
