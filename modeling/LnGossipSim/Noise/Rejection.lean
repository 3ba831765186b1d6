import LnGossipSim.Library.Insertion
import LnGossipSim.Noise.Integrity
import LnGossipSim.Noise.Split

/-!
# Rejected Ciphertexts

A ciphertext that is rejected is not noticed by the calls around it. A failing
call is not without effect: when the counter stands at the threshold it rotates
the key before it fails. But the next call would have rotated it anyway, so two
halves that settle to the same half are not told apart by any call, and a
failing call leaves such a half. That a half settles to the same half is the
equivalence everything here is about.

The result is for any run with any number of failing calls inserted anywhere.
On the combined cipher the other calls may be of either direction.

## Main definitions

* `SettlesAlike`: Halves that settle to the same half.

## Theorems

* `openNext_respects`, `openNext_harmless`: What one opening sees and leaves.
* `calls_inserted_recv`: A receive half does not notice inserted failures.
* `calls_inserted_cipher`: Neither does a combined cipher.
* `rejected_unnoticed`: Rejected ciphertexts are invisible.
-/

namespace LnGossipSim

namespace Noise

open Bolt HalfCipher

/-- Two halves that a rotation would leave the same. -/
def SettlesAlike (P : Primitives) (c c' : HalfCipher) : Prop := c.settled P = c'.settled P

variable {P : Primitives}

theorem settled_of_lt (c : HalfCipher) (h : c.nonce.toNat < 1000) : c.settled P = c := by
  unfold settled
  rw [if_neg]
  intro hle
  exact Nat.not_le_of_lt h (UInt64.le_iff_toNat_le.mp hle)

/-- A rotation that was done early is not done again. -/
theorem settled_settled (c : HalfCipher) : (c.settled P).settled P = c.settled P :=
  settled_of_lt _ (settled_nonce_lt c)

/-- An opening sees a half only as it is once settled. -/
theorem openNext_respects (ct : Bytes) : (openNext P ct).Respects (SettlesAlike P) := by
  intro c c' h
  have hsettled : c.settled P = c'.settled P := h
  -- What is opened, and what is left, is that of the settled half.
  have hused : c.used P = c'.used P := by
    unfold used
    rw [hsettled]
  cases hopen : P.decrypt (c.settled P).key (encodeNonce (c.settled P).nonce) [] ct with
  | some plaintext =>
      rw [run_openNext_of_some c ct plaintext hopen]
      rw [hsettled] at hopen
      rw [run_openNext_of_some c' ct plaintext hopen]
      exact ⟨rfl, congrArg (settled P) hused⟩
  | none =>
      rw [run_openNext_of_none c ct hopen]
      rw [hsettled] at hopen
      rw [run_openNext_of_none c' ct hopen]
      exact ⟨rfl, congrArg (settled P) hsettled⟩

/-- An opening that fails leaves the half settled and nothing else. -/
theorem openNext_harmless (ct : Bytes) : (openNext P ct).Harmless (SettlesAlike P) := by
  intro c e h
  cases hopen : P.decrypt (c.settled P).key (encodeNonce (c.settled P).nonce) [] ct with
  | some plaintext =>
      rw [run_openNext_of_some c ct plaintext hopen] at h
      exact nomatch h
  | none =>
      rw [run_openNext_of_none c ct hopen]
      exact (settled_settled c).symm

theorem decryptLength_respects (encryptedLen : ByteArr encryptedLengthSize) :
    (RecvCipher.decryptLength P encryptedLen).Respects (SettlesAlike P) := by
  refine Method.respects_bind _ _ (openNext_respects _) (fun lenBytes => ?_)
  refine Method.respects_bind _ _ (Method.respects_lift _) (fun hi => ?_)
  exact Method.respects_bind _ _ (Method.respects_lift _) (fun lo => Method.respects_pure _)

/-- Reading the length off the opened bytes may panic, but it does not fail. -/
theorem decryptLength_harmless (encryptedLen : ByteArr encryptedLengthSize) :
    (RecvCipher.decryptLength P encryptedLen).Harmless (SettlesAlike P) := by
  have hread : ∀ x : Option UInt8,
      (Method.lift (Outcome.expect x) : NoiseMethod HalfCipher NoiseError UInt8).NeverErr := by
    intro x c e h
    cases x with
    | some b => exact nomatch h
    | none => exact nomatch h
  refine Method.harmless_bind _ _ (openNext_harmless _) (fun lenBytes => ?_)
  refine Method.neverErr_bind _ _ (hread _) (fun hi => ?_)
  exact Method.neverErr_bind _ _ (hread _) (fun lo => Method.neverErr_pure _)

theorem RecvOp.act_respects (op : RecvOp) : (op.act P).Respects (SettlesAlike P) := by
  cases op with
  | decryptLength encryptedLen =>
      exact Method.respects_bind _ _ (decryptLength_respects _) (fun _ => Method.respects_pure _)
  | decryptMessage encryptedMsg => exact openNext_respects _

theorem RecvOp.act_harmless (op : RecvOp) : (op.act P).Harmless (SettlesAlike P) := by
  cases op with
  | decryptLength encryptedLen =>
      exact Method.harmless_bind _ _ (decryptLength_harmless _) (fun _ => Method.neverErr_pure _)
  | decryptMessage encryptedMsg => exact openNext_harmless _

/-- The receive half of a pair settles alike, and the send half is the same. -/
def HalvesAlike (P : Primitives) (s s' : SendCipher × RecvCipher) : Prop :=
  s.1 = s'.1 ∧ SettlesAlike P s.2 s'.2

theorem CipherOp.onHalves_respects (op : CipherOp) :
    (op.onHalves P).Respects (HalvesAlike P) := by
  cases op with
  | encrypt plaintext => exact Method.respects_left _ _
  | encryptLength length => exact Method.respects_left _ _
  | decryptLength encryptedLen =>
      exact Method.respects_right _ _ (Method.respects_map _ _ (decryptLength_respects _))
  | decryptMessage encryptedMsg =>
      exact Method.respects_right _ _ (Method.respects_map _ _ (openNext_respects _))

theorem CipherOp.onHalves_harmless (op : CipherOp) (hop : op.sends = false) :
    (op.onHalves P).Harmless (HalvesAlike P) := by
  cases op with
  | encrypt plaintext => exact nomatch hop
  | encryptLength length => exact nomatch hop
  | decryptLength encryptedLen =>
      exact Method.harmless_right _ _ (Method.harmless_map _ _ (decryptLength_harmless _))
  | decryptMessage encryptedMsg =>
      exact Method.harmless_right _ _ (Method.harmless_map _ _ (openNext_harmless _))

/-- A receive half does not notice inserted failures. -/
theorem calls_inserted_recv (c : RecvCipher) (marked : List (MarkedCall RecvOp))
    (hfail : ∀ x ∈ marked.zip
        (Method.calls (RecvOp.act P) (marked.map MarkedCall.op) c).outcomes,
      x.1.inserted = true → ∃ e, x.2 = .err e) :
    originalOutcomes marked (Method.calls (RecvOp.act P) (marked.map MarkedCall.op) c).outcomes
      = (Method.calls (RecvOp.act P) (originals marked) c).outcomes :=
  Method.calls_inserted (R := SettlesAlike P) _ RecvOp.act_respects
    (fun _ _ _ => Eq.trans) marked (fun call _ _ => call.op.act_harmless) c c rfl hfail

/-- Neither does a combined cipher, whose calls are those of its halves. -/
theorem calls_inserted_cipher (c : NoiseCipher) (marked : List (MarkedCall CipherOp))
    (hdecrypt : ∀ call ∈ marked, call.inserted = true → call.op.sends = false)
    (hfail : ∀ x ∈ marked.zip
        (Method.calls (CipherOp.onWhole P) (marked.map MarkedCall.op) c).outcomes,
      x.1.inserted = true → ∃ e, x.2 = .err e) :
    originalOutcomes marked
        (Method.calls (CipherOp.onWhole P) (marked.map MarkedCall.op) c).outcomes
      = (Method.calls (CipherOp.onWhole P) (originals marked) c).outcomes := by
  have hall := CipherOp.calls_onHalves P (marked.map MarkedCall.op) c
  have horiginal := CipherOp.calls_onHalves P (originals marked) c
  have houtcomes := congrArg Method.Calls.outcomes hall
  have hkept := congrArg Method.Calls.outcomes horiginal
  simp only at houtcomes hkept
  -- Both runs are runs of the two halves, where the relation is known.
  rw [← houtcomes] at hfail ⊢
  rw [← hkept]
  refine Method.calls_inserted (R := HalvesAlike P) _ CipherOp.onHalves_respects ?_ marked
    (fun call hmem hinserted => call.op.onHalves_harmless (hdecrypt call hmem hinserted)) _ _
    ⟨rfl, rfl⟩ hfail
  exact fun _ _ _ h h' => ⟨h.1.trans h'.1, Eq.trans h.2 h'.2⟩

/-- Calls that all fail leave a half that settles as before. -/
theorem calls_failed_alike (fails : List RecvOp) (c : RecvCipher)
    (hfail : ∀ o ∈ (Method.calls (RecvOp.act P) fails c).outcomes, ∃ e, o = .err e) :
    SettlesAlike P c (Method.calls (RecvOp.act P) fails c).state := by
  induction fails generalizing c with
  | nil => rfl
  | cons op fails ih =>
      rw [Method.calls_cons] at hfail ⊢
      rcases hfail _ List.mem_cons_self with ⟨e, he⟩
      have hrest := ih _ (fun o ho => hfail o (List.mem_cons_of_mem _ ho))
      exact Eq.trans (op.act_harmless c e he) hrest

/-- Rejected ciphertexts are invisible. Decrypt calls that fail, inserted
    anywhere into a run, change the outcome of none of the other calls, on a
    receive half and on a combined cipher. So what would decrypt next still does
    after any failures. -/
theorem rejected_unnoticed (P : Primitives) :
    (∀ (c : RecvCipher) (marked : List (MarkedCall RecvOp)),
      let all := Method.calls (RecvOp.act P) (marked.map MarkedCall.op) c
      (∀ x ∈ marked.zip all.outcomes, x.1.inserted = true → ∃ e, x.2 = .err e) →
        originalOutcomes marked all.outcomes
          = (Method.calls (RecvOp.act P) (originals marked) c).outcomes)
    ∧ (∀ (c : NoiseCipher) (marked : List (MarkedCall CipherOp)),
      let all := Method.calls (CipherOp.onWhole P) (marked.map MarkedCall.op) c
      (∀ call ∈ marked, call.inserted = true → call.op.sends = false) →
      (∀ x ∈ marked.zip all.outcomes, x.1.inserted = true → ∃ e, x.2 = .err e) →
        originalOutcomes marked all.outcomes
          = (Method.calls (CipherOp.onWhole P) (originals marked) c).outcomes)
    ∧ ∀ (c : RecvCipher) (fails : List RecvOp),
      let failed := Method.calls (RecvOp.act P) fails c
      (∀ o ∈ failed.outcomes, ∃ e, o = .err e) →
        ∀ op : RecvOp, ((op.act P).run failed.state).outcome = ((op.act P).run c).outcome := by
  refine ⟨?_, ?_, ?_⟩
  · intro c marked all hfail
    exact calls_inserted_recv c marked hfail
  · intro c marked all hdecrypt hfail
    exact calls_inserted_cipher c marked hdecrypt hfail
  · intro c fails failed hfail op
    exact (op.act_respects _ _ (calls_failed_alike fails c hfail)).1.symm

/-- A forged body before the length prefix, where the key is due to rotate. -/
theorem rejected_unnoticed_rotation :
    let c : RecvCipher := ⟨List.Vector.replicate 32 1, 1000, List.Vector.replicate 32 2⟩
    let header : ByteArr encryptedLengthSize :=
      ⟨[0, 5, 4, 4, 4, 4, 0, 0, 0, 0, 0, 0, 0, 0, 0, 0, 0, 0], rfl⟩
    let marked : List (MarkedCall RecvOp) :=
      [⟨.decryptMessage [1, 2, 3], true⟩, ⟨.decryptLength header, false⟩]
    originalOutcomes marked
        (Method.calls (RecvOp.act .transparent) (marked.map MarkedCall.op) c).outcomes
      = (Method.calls (RecvOp.act .transparent) (originals marked) c).outcomes := by
  intro c header marked
  refine (rejected_unnoticed .transparent).1 c marked ?_
  have houtcomes : (Method.calls (RecvOp.act .transparent) (marked.map MarkedCall.op) c).outcomes
      = [.err .decryptionFailed, .ok [0, 5]] := by decide +kernel
  simp only [houtcomes]
  intro x hx hinserted
  simp only [marked, List.zip_cons_cons, List.zip_nil_right, List.mem_cons, List.not_mem_nil,
    or_false] at hx
  rcases hx with rfl | rfl
  · exact ⟨_, rfl⟩
  · exact nomatch hinserted

end Noise

end LnGossipSim
