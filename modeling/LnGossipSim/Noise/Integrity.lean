import LnGossipSim.Noise.Cipher

/-!
# Transport Integrity

What a receiving half accepts when the network is free to drop, repeat, reorder
and forge. The only order a ciphertext carries is the key and nonce it was
sealed under, so the argument is about uses. Both halves number their uses
from the state they share: the sender's plaintext number `i` is sealed in use
`i`, and the receiver, having accepted `j` plaintexts, opens in use `j`.
Different uses differ in key or nonce while the rotated keys do, so the only
plaintext that can be accepted next is the next one.

The network is the list of calls on the receiver, with arbitrary ciphertexts.
That ciphertexts are not forged is assumed for the openings of that run: each
one that succeeds is of a ciphertext the sender sealed under the same key and
nonce.

## Main definitions

* `SendOp`, `RecvOp`: The calls on the two halves.
* `sealedPlaintexts`, `acceptedPlaintexts`: What a run sealed or accepted.
* `HalfCipher.AtUse`: The next use of a half, counted from another.
* `HalfCipher.keysThrough`: The keys that serve a number of uses.
* `Seals`: A trace that seals plaintexts one after the other.

## Theorems

* `use_inj`: Different uses differ in key or nonce.
* `calls_seals`: Every run of a sender seals in consecutive uses.
* `Seals.sealing_mem`: The use each plaintext was sealed in.
* `openNext_step`, `act_step`: A receiver accepts the next plaintext or none.
* `accepted_prefix_sealed`: What is accepted is a prefix of what was sealed.
-/

namespace LnGossipSim

namespace Noise

open BigEndian Bolt

/-- A call on a sending half. -/
inductive SendOp where
  | encrypt (plaintext : Bytes)
  | encryptLength (length : UInt16)

/-- A call on a receiving half. -/
inductive RecvOp where
  | decryptLength (encryptedLen : ByteArr encryptedLengthSize)
  | decryptMessage (encryptedMsg : Bytes)

/-- The plaintext of a sealing. -/
def PrimitiveCall.plaintext? : PrimitiveCall → Option Bytes
  | .sealing _ _ _ plaintext _ => some plaintext
  | _ => none

/-- The plaintexts a run sealed, in order. -/
def sealedPlaintexts (trace : List PrimitiveCall) : List Bytes :=
  trace.filterMap PrimitiveCall.plaintext?

/-- The plaintexts that calls accepted, in order. -/
def acceptedPlaintexts (outcomes : List (Outcome NoiseError Bytes)) : List Bytes :=
  outcomes.filterMap Outcome.toOption

@[simp] theorem acceptedPlaintexts_cons_ok (p : Bytes) (os : List (Outcome NoiseError Bytes)) :
    acceptedPlaintexts (.ok p :: os) = p :: acceptedPlaintexts os := rfl

@[simp] theorem acceptedPlaintexts_cons_err (e : NoiseError)
    (os : List (Outcome NoiseError Bytes)) :
    acceptedPlaintexts (.err e :: os) = acceptedPlaintexts os := rfl

section

variable (P : Primitives)

/-- The method called on the sending half. -/
def SendOp.act : SendOp → NoiseMethod SendCipher NoiseError Bytes
  | .encrypt plaintext => SendCipher.encrypt P plaintext
  | .encryptLength length => SendCipher.encryptLength P length

/-- The method called on the receiving half, with the plaintext it accepts. A
    length is the two bytes that encode it. -/
def RecvOp.act : RecvOp → NoiseMethod RecvCipher NoiseError Bytes
  | .decryptLength encryptedLen => do
    let length ← RecvCipher.decryptLength P encryptedLen
    return beBytes 2 length.toNat
  | .decryptMessage encryptedMsg => RecvCipher.decryptMessage P encryptedMsg

namespace HalfCipher

/-- The next use of `c` is number `i`, counted from `c₀`. -/
def AtUse (c₀ : HalfCipher) (i : Nat) (c : HalfCipher) : Prop :=
  Ratchet.AtSlot (nextKeys P) 1000 c₀.toRatchet i c.toRatchet

/-- The key of use number `i`. -/
def useKey (c₀ : HalfCipher) (i : Nat) : Key :=
  (Ratchet.slot (nextKeys P) 1000 c₀.toRatchet i).key.2

/-- The counter value of use number `i`. -/
def useNonce (c₀ : HalfCipher) (i : Nat) : UInt64 :=
  UInt64.ofNat (Ratchet.slot (nextKeys P) 1000 c₀.toRatchet i).count

/-- The keys that rotation produces over `n` uses and for the one after
    them. -/
def keysThrough (c : HalfCipher) (n : Nat) : List Key :=
  (List.range ((min c.nonce.toNat 1000 + n) / 1000 + 1)).map
    (fun k => ((nextKeys P)^[k] (c.ck, c.key)).2)

end HalfCipher

/-- The trace seals the plaintexts one after the other, and takes the half `c`
    to `c'`. -/
inductive Seals : HalfCipher → List PrimitiveCall → List Bytes → HalfCipher → Prop where
  | nil (c : HalfCipher) : Seals c [] [] c
  | cons (c c' : HalfCipher) (p ct : Bytes) (t : List PrimitiveCall) (ps : List Bytes)
      (hlen : p.length ≤ maxMessageSize)
      (hseal : P.encrypt (c.settled P).key (encodeNonce (c.settled P).nonce) [] p = some ct)
      (hrest : Seals (c.used P) t ps c') :
      Seals c (c.rotationCalls
        ++ .sealing (c.settled P).key (encodeNonce (c.settled P).nonce) [] p ct :: t) (p :: ps) c'

end

variable {P : Primitives}

namespace HalfCipher

theorem atUse_settled (c₀ c : HalfCipher) (i : Nat) (h : AtUse P c₀ i c) :
    AtUse P c₀ i (c.settled P) := by
  unfold AtUse
  rw [toRatchet_settled]
  exact Ratchet.atSlot_settle (by decide) _ _ i h

theorem atUse_used (c₀ c : HalfCipher) (i : Nat) (h : AtUse P c₀ i c) :
    AtUse P c₀ (i + 1) (c.used P) := by
  unfold AtUse
  rw [toRatchet_used]
  exact Ratchet.atSlot_advance _ _ i h

/-- A half that is about to take use `i` takes it under the key and the counter
    value of use `i`. -/
theorem settled_eq_use (c₀ c : HalfCipher) (i : Nat) (h : AtUse P c₀ i c) :
    (c.settled P).key = useKey P c₀ i ∧ (c.settled P).nonce = useNonce P c₀ i := by
  have hslot : (c.settled P).toRatchet = Ratchet.slot (nextKeys P) 1000 c₀.toRatchet i := by
    rw [toRatchet_settled]
    exact h
  unfold useKey useNonce
  rw [← hslot]
  exact ⟨rfl, (UInt64.ofNat_toNat).symm⟩

/-- Different uses differ in key or in counter value, while no rotated key is
    repeated. -/
theorem use_inj (c₀ : HalfCipher) (n i j : Nat) (hkeys : (c₀.keysThrough P n).Nodup)
    (hi : i ≤ n) (hj : j ≤ n) (hkey : useKey P c₀ i = useKey P c₀ j)
    (hnonce : useNonce P c₀ i = useNonce P c₀ j) : i = j := by
  -- A slot is settled, so its counter is below the rotation threshold.
  have hcount : ∀ k, (Ratchet.slot (nextKeys P) 1000 c₀.toRatchet k).count < 1000 := by
    intro k
    rw [Ratchet.slot_eq (by decide)]
    exact Nat.mod_lt _ (by decide)
  -- Counters below the threshold are told apart by the nonces they are encoded in.
  have hcounts : (Ratchet.slot (nextKeys P) 1000 c₀.toRatchet i).count
      = (Ratchet.slot (nextKeys P) 1000 c₀.toRatchet j).count := by
    have hi' := hcount i
    have hj' := hcount j
    have heq := congrArg UInt64.toNat hnonce
    unfold useNonce at heq
    rw [UInt64.toNat_ofNat', UInt64.toNat_ofNat'] at heq
    omega
  -- The keys of different rotations differ, as far as the uses reach.
  have hdistinct : ∀ a b, a ≤ (min c₀.toRatchet.count 1000 + n) / 1000 →
      b ≤ (min c₀.toRatchet.count 1000 + n) / 1000 →
      ((nextKeys P)^[a] c₀.toRatchet.key).2 = ((nextKeys P)^[b] c₀.toRatchet.key).2 → a = b := by
    intro a b ha hb hab
    exact List.inj_on_of_nodup_map hkeys (List.mem_range.mpr (Nat.lt_succ_of_le ha))
      (List.mem_range.mpr (Nat.lt_succ_of_le hb)) hab
  exact Ratchet.slot_inj (by decide) Prod.snd c₀.toRatchet _ hdistinct i j
    (Nat.div_le_div_right (by omega)) (Nat.div_le_div_right (by omega)) hkey hcounts

end HalfCipher

open HalfCipher

theorem seals_append (c c' c'' : HalfCipher) (t t' : List PrimitiveCall) (ps ps' : List Bytes)
    (h : Seals P c t ps c') (h' : Seals P c' t' ps' c'') :
    Seals P c (t ++ t') (ps ++ ps') c'' := by
  induction h with
  | nil c => exact h'
  | cons c c' p ct t ps hlen hseal _ ih =>
      rw [List.append_assoc, List.cons_append, List.cons_append]
      exact Seals.cons c c'' p ct _ _ hlen hseal (ih h')

/-- Sealing one plaintext takes one use. -/
theorem sealNext_seals (hP : P.OpensSealed) (c : HalfCipher) (p : Bytes)
    (h : p.length ≤ maxMessageSize) :
    ∃ ct t, (sealNext P p : NoiseMethod HalfCipher NoiseError Bytes).run c
        = ⟨.ok ct, c.used P, t⟩ ∧ Seals P c t [p] (c.used P) := by
  rcases hP (c.settled P).key (encodeNonce (c.settled P).nonce) [] p h with ⟨ct, hseal, _, _⟩
  exact ⟨ct, _, run_sealNext c p ct hseal, Seals.cons c _ p ct [] [] h hseal (Seals.nil _)⟩

/-- A call on a sending half seals what it seals in consecutive uses: a length
    prefix, or a length prefix and a message, or nothing. -/
theorem act_seals (hP : P.OpensSealed) (op : SendOp) (c : SendCipher) :
    ∃ ps, Seals P c ((op.act P).run c).trace ps ((op.act P).run c).state := by
  have hshort : ∀ l : UInt16, (beBytes 2 l.toNat).length ≤ maxMessageSize := by
    intro l
    rw [beBytes_length]
    decide
  cases op with
  | encryptLength length =>
      rcases sealNext_seals hP c _ (hshort length) with ⟨ct, t, hrun, hseals⟩
      have hact : (SendOp.act P (.encryptLength length)).run c = ⟨.ok ct, c.used P, t⟩ := hrun
      rw [hact]
      exact ⟨_, hseals⟩
  | encrypt plaintext =>
      simp only [SendOp.act, SendCipher.encrypt, SendCipher.encryptLength]
      by_cases h : plaintext.length < 2 ^ 16
      -- The length is sealed in one use and the message in the next.
      · rcases sealNext_seals hP c _ (hshort (UInt16.ofNat plaintext.length)) with
          ⟨ct, t, hrun, hseals⟩
        rcases sealNext_seals hP (c.used P) plaintext (Nat.le_of_lt_succ h) with
          ⟨ct', t', hrun', hseals'⟩
        rw [if_pos h, Outcome.expect_some, Method.run_lift_ok_bind,
          Method.run_bind_of_ok _ _ _ _ _ _ hrun, Method.run_bind_of_ok _ _ _ _ _ _ hrun']
        have hboth := seals_append c _ _ t t' _ _ hseals hseals'
        simp only [Method.run_pure, Return.after, List.append_nil]
        exact ⟨_, hboth⟩
      · -- The length does not fit its prefix, and nothing is sealed.
        rw [if_neg h]
        exact ⟨[], Seals.nil c⟩

/-- Every run of a sender seals its plaintexts in consecutive uses. The
    induction is on the calls. -/
theorem calls_seals (hP : P.OpensSealed) (ops : List SendOp) (c : SendCipher) :
    ∃ ps, Seals P c (Method.calls (SendOp.act P) ops c).trace ps
      (Method.calls (SendOp.act P) ops c).state := by
  induction ops generalizing c with
  | nil => exact ⟨[], Seals.nil c⟩
  | cons op ops ih =>
      rcases act_seals hP op c with ⟨ps, h⟩
      rcases ih ((op.act P).run c).state with ⟨ps', h'⟩
      exact ⟨ps ++ ps', seals_append c _ _ _ _ _ _ h h'⟩

namespace Seals

/-- Rotations are no sealings. -/
theorem sealing_mem_rotationCalls (c : HalfCipher) (key : Key) (nonce : ByteArr 12)
    (ad p ct : Bytes) : PrimitiveCall.sealing key nonce ad p ct ∉ c.rotationCalls := by
  unfold rotationCalls
  by_cases h : keyRotationThreshold ≤ c.nonce
  · rw [if_pos h, List.mem_singleton]
    exact PrimitiveCall.noConfusion
  · rw [if_neg h]
    exact List.not_mem_nil

theorem sealedPlaintexts_eq (c c' : HalfCipher) (t : List PrimitiveCall) (ps : List Bytes)
    (h : Seals P c t ps c') : sealedPlaintexts t = ps := by
  induction h with
  | nil c => rfl
  | cons c c' p ct t ps _ _ _ ih =>
      have hrot : c.rotationCalls.filterMap PrimitiveCall.plaintext? = [] := by
        unfold rotationCalls
        by_cases h : keyRotationThreshold ≤ c.nonce
        · rw [if_pos h]
          rfl
        · rw [if_neg h]
          rfl
      unfold sealedPlaintexts at ih ⊢
      rw [List.filterMap_append, hrot, List.nil_append, List.filterMap_cons, ih]
      rfl

/-- The use each plaintext was sealed in is its place among the plaintexts, and
    opening the ciphertext in that use gives it back. -/
theorem sealing_mem (hP : P.OpensSealed) (c₀ c c' : HalfCipher) (t : List PrimitiveCall)
    (ps : List Bytes) (h : Seals P c t ps c') (i : Nat) (huse : AtUse P c₀ i c) (key : Key)
    (nonce : ByteArr 12) (ad p ct : Bytes) (hmem : .sealing key nonce ad p ct ∈ t) :
    ∃ j, ps[j]? = some p ∧ key = useKey P c₀ (i + j)
      ∧ nonce = encodeNonce (useNonce P c₀ (i + j)) ∧ ct.length = p.length + macSize
      ∧ P.decrypt key nonce [] ct = some p := by
  induction h generalizing i with
  | nil c => exact absurd hmem List.not_mem_nil
  | cons c c' q cq t ps hlen hseal _ ih =>
      rw [List.mem_append, List.mem_cons] at hmem
      -- The call is a rotation, this sealing, or one of those after it.
      rcases hmem with hrot | hhere | hlater
      · exact absurd hrot (sealing_mem_rotationCalls c key nonce ad p ct)
      · rw [PrimitiveCall.sealing.injEq] at hhere
        rcases hhere with ⟨rfl, rfl, rfl, rfl, rfl⟩
        rcases settled_eq_use c₀ c i huse with ⟨hkey, hnonce⟩
        rcases hP _ _ _ _ hlen with ⟨ct', hseal', hctlen, hopen⟩
        rw [hseal, Option.some.injEq] at hseal'
        refine ⟨0, rfl, hkey, by rw [hnonce]; rfl, ?_, ?_⟩
        · rw [hseal', hctlen]
        · rw [hseal', hopen]
      · rcases ih (i + 1) (atUse_used c₀ c i huse) hlater with ⟨j, hj, hkey, hnonce, hrest⟩
        refine ⟨j + 1, hj, ?_, ?_, hrest⟩
        · rw [hkey, Nat.add_assoc, Nat.add_comm 1 j]
        · rw [hnonce, Nat.add_assoc, Nat.add_comm 1 j]

end Seals

/-- A receiver about to take use `j` opens either plaintext number `j`, and
    counts the use, or nothing, and does not: the sealing of what opened was
    under the same key and nonce, so it was use `j` as well. -/
theorem openNext_step (hP : P.OpensSealed) (c₀ c' : HalfCipher) (t : List PrimitiveCall)
    (ps : List Bytes) (hseals : Seals P c₀ t ps c')
    (hkeys : (c₀.keysThrough P ps.length).Nodup) (c : RecvCipher) (j : Nat) (hj : j ≤ ps.length)
    (huse : AtUse P c₀ j c) (ct : Bytes)
    (hauth : ∀ key nonce ad ct' p,
      .opening key nonce ad ct' (some p) ∈ ((openNext P ct).run c).trace →
        ∃ p', .sealing key nonce ad p' ct' ∈ t) :
    (∃ p t', ps[j]? = some p ∧ ct.length = p.length + macSize
        ∧ (openNext P ct).run c = ⟨.ok p, c.used P, t'⟩)
      ∨ ∃ t', (openNext P ct).run c = ⟨.err .decryptionFailed, c.settled P, t'⟩ := by
  rcases settled_eq_use c₀ c j huse with ⟨hkey, hnonce⟩
  cases hopen : P.decrypt (c.settled P).key (encodeNonce (c.settled P).nonce) [] ct with
  | none => exact Or.inr ⟨_, run_openNext_of_none c ct hopen⟩
  | some p =>
      -- What opened was sealed, and every sealing is one of the sender's uses.
      have hrun := run_openNext_of_some c ct p hopen
      rw [hrun] at hauth
      rcases hauth _ _ _ _ _ (List.mem_append_right _ (List.mem_singleton.mpr rfl)) with
        ⟨p', hsealing⟩
      rcases hseals.sealing_mem hP c₀ _ _ _ _ 0 (Ratchet.atSlot_zero _) _ _ _ _ _ hsealing with
        ⟨i, hi, hkey', hnonce', hlen, hopen'⟩
      have hlt : i < ps.length := (List.getElem?_eq_some_iff.mp hi).1
      rw [Nat.zero_add] at hkey' hnonce'
      -- Two uses with one key and one nonce are one use.
      have hsame : i = j := by
        refine use_inj c₀ ps.length i j hkeys (Nat.le_of_lt hlt) hj ?_ ?_
        · rw [← hkey', hkey]
        · rw [← encodeNonce_inj _ _ hnonce', hnonce]
      rw [hopen, Option.some.injEq] at hopen'
      subst hopen' hsame
      exact Or.inl ⟨p, _, hi, hlen, hrun⟩

/-- After the opening, reading off the length calls no primitive. -/
theorem decryptLength_trace (c : RecvCipher) (encryptedLen : ByteArr encryptedLengthSize) :
    ((RecvOp.act P (.decryptLength encryptedLen)).run c).trace
      = ((openNext P encryptedLen.toList).run c).trace := by
  simp only [RecvOp.act, RecvCipher.decryptLength]
  rcases hrun : (openNext P encryptedLen.toList).run c with ⟨o, c', t⟩
  simp only [Method.run_bind, hrun]
  cases o with
  | ok p =>
      rcases p with _ | ⟨hi, _ | ⟨lo, rest⟩⟩
      · exact List.append_nil t
      · exact List.append_nil t
      · exact (List.append_nil _).trans (List.append_nil t)
  | err e => rfl
  | panicked => rfl
  | diverged => rfl

/-- A call on a receiver that has accepted `j` plaintexts accepts number `j` or
    reports that decryption failed. -/
theorem act_step (hP : P.OpensSealed) (c₀ c' : HalfCipher) (t : List PrimitiveCall)
    (ps : List Bytes) (hseals : Seals P c₀ t ps c')
    (hkeys : (c₀.keysThrough P ps.length).Nodup) (op : RecvOp) (c : RecvCipher) (j : Nat)
    (hj : j ≤ ps.length) (huse : AtUse P c₀ j c)
    (hauth : ∀ key nonce ad ct p, .opening key nonce ad ct (some p) ∈ ((op.act P).run c).trace →
      ∃ p', .sealing key nonce ad p' ct ∈ t) :
    (∃ p, ps[j]? = some p ∧ ((op.act P).run c).outcome = .ok p
        ∧ AtUse P c₀ (j + 1) ((op.act P).run c).state)
      ∨ ((op.act P).run c).outcome = .err .decryptionFailed
        ∧ AtUse P c₀ j ((op.act P).run c).state := by
  cases op with
  | decryptMessage encryptedMsg =>
      rcases openNext_step hP c₀ c' t ps hseals hkeys c j hj huse encryptedMsg hauth with
        ⟨p, t', hp, _, hrun⟩ | ⟨t', hrun⟩
      · have hact : (RecvOp.act P (.decryptMessage encryptedMsg)).run c = _ := hrun
        rw [hact]
        exact Or.inl ⟨p, hp, rfl, atUse_used c₀ c j huse⟩
      · have hact : (RecvOp.act P (.decryptMessage encryptedMsg)).run c = _ := hrun
        rw [hact]
        exact Or.inr ⟨rfl, atUse_settled c₀ c j huse⟩
  | decryptLength encryptedLen =>
      rw [decryptLength_trace] at hauth
      rcases openNext_step hP c₀ c' t ps hseals hkeys c j hj huse encryptedLen.toList hauth with
        ⟨p, t', hp, hlen, hrun⟩ | ⟨t', hrun⟩
      · -- The ciphertext is 18 bytes long, so the plaintext is two, and reading it cannot fail.
        rw [List.Vector.toList_length] at hlen
        have htwo : p.length = 2 := Nat.add_right_cancel hlen.symm
        have hback : beBytes 2 (UInt16.ofNat (beNat p)).toNat = p := by
          have hlt : beNat p < 2 ^ 16 := beNat_lt 2 p htwo
          rw [UInt16.toNat_ofNat', Nat.mod_eq_of_lt hlt, beBytes_beNat 2 p htwo]
        rw [← hback] at hrun
        have hdecrypted := run_decryptLength c _ encryptedLen _ t' hrun
        have hact : (RecvOp.act P (.decryptLength encryptedLen)).run c
            = ⟨.ok p, c.used P, t' ++ []⟩ := by
          simp only [RecvOp.act]
          rw [Method.run_bind_of_ok _ _ _ _ _ _ hdecrypted, hback]
          rfl
        rw [hact]
        exact Or.inl ⟨p, hp, rfl, atUse_used c₀ c j huse⟩
      · have hact : (RecvOp.act P (.decryptLength encryptedLen)).run c
            = ⟨.err .decryptionFailed, c.settled P, t'⟩ := by
          simp only [RecvOp.act, RecvCipher.decryptLength]
          exact Method.run_bind_of_err _ _ _ _ _ _ (Method.run_bind_of_err _ _ _ _ _ _ hrun)
        rw [hact]
        exact Or.inr ⟨rfl, atUse_settled c₀ c j huse⟩

/-- Calls on a receiver that has accepted `j` plaintexts accept a prefix of the
    rest. The induction is on the calls, and the receiver's use carries it. -/
theorem calls_accept (hP : P.OpensSealed) (c₀ c' : HalfCipher) (t : List PrimitiveCall)
    (ps : List Bytes) (hseals : Seals P c₀ t ps c')
    (hkeys : (c₀.keysThrough P ps.length).Nodup) (ops : List RecvOp) (c : RecvCipher) (j : Nat)
    (hj : j ≤ ps.length) (huse : AtUse P c₀ j c)
    (hauth : ∀ key nonce ad ct p,
      .opening key nonce ad ct (some p) ∈ (Method.calls (RecvOp.act P) ops c).trace →
        ∃ p', .sealing key nonce ad p' ct ∈ t) :
    acceptedPlaintexts (Method.calls (RecvOp.act P) ops c).outcomes <+: ps.drop j := by
  induction ops generalizing c j with
  | nil => exact List.nil_prefix
  | cons op ops ih =>
      rw [Method.calls_cons] at hauth ⊢
      have hfirst := fun key nonce ad ct p h =>
        hauth key nonce ad ct p (List.mem_append_left _ h)
      have hrest := fun key nonce ad ct p h =>
        hauth key nonce ad ct p (List.mem_append_right _ h)
      -- The call accepts the next plaintext, and the rest follow it, or it changes nothing.
      rcases act_step hP c₀ c' t ps hseals hkeys op c j hj huse hfirst with
        ⟨p, hp, ho, huse'⟩ | ⟨ho, huse'⟩
      · rcases List.getElem?_eq_some_iff.mp hp with ⟨hlt, hget⟩
        rw [ho, acceptedPlaintexts_cons_ok, List.drop_eq_getElem_cons hlt, hget,
          List.prefix_cons_inj]
        exact ih _ (j + 1) hlt huse' hrest
      · rw [ho, acceptedPlaintexts_cons_err]
        exact ih _ j hj huse' hrest

/-- What a receiver accepts is a prefix of what its sender sealed, whatever
    ciphertexts it is given and in whatever order. -/
theorem accepted_prefix_sealed (hP : P.OpensSealed) (s : SendCipher) (r : RecvCipher)
    (hkey : r.key = s.key) (hnonce : r.nonce = s.nonce) (hck : r.ck = s.ck) (sends : List SendOp)
    (recvs : List RecvOp)
    (hauth : ∀ key nonce ad ct p,
      .opening key nonce ad ct (some p) ∈ (Method.calls (RecvOp.act P) recvs r).trace →
        ∃ p', .sealing key nonce ad p' ct ∈ (Method.calls (SendOp.act P) sends s).trace)
    (hkeys : (s.keysThrough P
      (sealedPlaintexts (Method.calls (SendOp.act P) sends s).trace).length).Nodup) :
    acceptedPlaintexts (Method.calls (RecvOp.act P) recvs r).outcomes
      <+: sealedPlaintexts (Method.calls (SendOp.act P) sends s).trace := by
  -- The halves start in the same state, which is use zero of both.
  have hsame : r = s := by
    cases r
    cases s
    rw [HalfCipher.mk.injEq]
    exact ⟨hkey, hnonce, hck⟩
  rcases calls_seals hP sends s with ⟨ps, hseals⟩
  rw [hseals.sealedPlaintexts_eq] at hkeys ⊢
  exact calls_accept hP s _ _ ps hseals hkeys recvs r 0 (Nat.zero_le _) (hsame ▸ rfl) hauth

/-- A forged message, the length prefix, and the length prefix once more. -/
theorem accepted_prefix_sealed_replayed :
    let c : HalfCipher := ⟨List.Vector.replicate 32 1, 0, List.Vector.replicate 32 2⟩
    let header : ByteArr encryptedLengthSize :=
      ⟨[0, 5, 1, 1, 1, 1, 0, 0, 0, 0, 0, 0, 0, 0, 0, 0, 0, 0], rfl⟩
    acceptedPlaintexts (Method.calls (RecvOp.act .transparent)
        [.decryptMessage [1, 2, 3], .decryptLength header, .decryptLength header] c).outcomes
      <+: sealedPlaintexts (Method.calls (SendOp.act .transparent)
        [.encryptLength 5, .encrypt [7]] c).trace := by
  intro c header
  refine accepted_prefix_sealed Primitives.transparent_opensSealed c c rfl rfl rfl _ _ ?_
    (by decide)
  intro key nonce ad ct p hmem
  have htrace : (Method.calls (RecvOp.act .transparent)
      [.decryptMessage [1, 2, 3], .decryptLength header, .decryptLength header] c).trace
      = [.opening c.key (encodeNonce 0) [] [1, 2, 3] none,
        .opening c.key (encodeNonce 0) [] header.toList (some [0, 5]),
        .opening c.key (encodeNonce 1) [] header.toList none] := by decide
  rw [htrace] at hmem
  simp only [List.mem_cons, PrimitiveCall.opening.injEq, reduceCtorEq, and_false, false_or,
    List.not_mem_nil, or_false] at hmem
  rcases hmem with ⟨rfl, rfl, rfl, rfl, _⟩
  exact ⟨[0, 5], by decide⟩

end Noise

end LnGossipSim
