import LnGossipSim.Library.Uses
import LnGossipSim.Noise.Integrity
import LnGossipSim.Noise.Split

/-!
# Key Schedule

Which key and which nonce each sealing and each successful opening is under,
over any run of a cipher. The uses of a half are numbered, and a half that is
about to take use `i` seals under the key and the counter value of use `i`,
whether the call is for a length prefix or for a body. The closed form of use
`i` is that of the ratchet: key number `i / 1000`, counter value `i % 1000`.
Failed openings take no use.

The run may be split at any point. Its calls are then those of the two halves,
from the first one on, because splitting commutes with the calls before it.

## Main definitions

* `keySchedule`: The chaining keys and keys, one after the other.
* `scheduledUse`: The key and nonce of a use in closed form.
* `PrimitiveCall.sealedUnder?`, `PrimitiveCall.openedUnder?`: What a call of a
  primitive uses.
* `HalfCipher.Stands`: A half about to take a use, its counter in bounds.

## Theorems

* `sealNext_takes`, `openNext_takes`: Sealing and opening take one use.
* `onHalves_sealings`, `onHalves_openings`: What a call takes.
* `use_new`: The uses of a new cipher in closed form.
* `key_schedule`: The key and nonce of every use.
-/

namespace LnGossipSim

namespace Noise

/-- The key and nonce that a call seals under. -/
def PrimitiveCall.sealedUnder? : PrimitiveCall → Option (Key × ByteArr 12)
  | .sealing key nonce _ _ _ => some (key, nonce)
  | _ => none

/-- The key and nonce that a call opens under, when the ciphertext opens. -/
def PrimitiveCall.openedUnder? : PrimitiveCall → Option (Key × ByteArr 12)
  | .opening key nonce _ _ (some _) => some (key, nonce)
  | _ => none

section

variable (P : Primitives)

/-- The chaining key and key after a number of rotations. -/
def keySchedule (ck key : Key) : Nat → Key × Key
  | 0 => (ck, key)
  | j + 1 => P.twoKeys (keySchedule ck key j).1 (keySchedule ck key j).2.toList

/-- The key and nonce of use number `i`: each key serves 1000 uses. -/
def scheduledUse (ck key : Key) (i : Nat) : Key × ByteArr 12 :=
  ((keySchedule P ck key (i / 1000)).2, encodeNonce (UInt64.ofNat (i % 1000)))

namespace HalfCipher

/-- The key and nonce of use number `i`, counted from `c₀`. -/
def use (c₀ : HalfCipher) (i : Nat) : Key × ByteArr 12 :=
  (useKey P c₀ i, encodeNonce (useNonce P c₀ i))

/-- The next use of `c` is number `i`, and its counter has not passed the
    threshold. -/
def Stands (c₀ : HalfCipher) (i : Nat) (c : HalfCipher) : Prop :=
  AtUse P c₀ i c ∧ c.nonce ≤ keyRotationThreshold

end HalfCipher

end

variable {P : Primitives} {ε : Type}

namespace HalfCipher

theorem settled_nonce_le (c : HalfCipher) : (c.settled P).nonce ≤ keyRotationThreshold :=
  UInt64.le_iff_toNat_le.mpr (Nat.le_of_lt (settled_nonce_lt c))

theorem used_nonce_le (c : HalfCipher) : (c.used P).nonce ≤ keyRotationThreshold := by
  have hcount := congrArg Ratchet.count (toRatchet_used (P := P) c)
  have hlt : (Ratchet.settle (nextKeys P) 1000 c.toRatchet).count < 1000 :=
    Ratchet.settle_count_lt (by decide) c.toRatchet
  refine UInt64.le_iff_toNat_le.mpr ?_
  change (c.used P).toRatchet.count ≤ 1000
  rw [hcount]
  exact hlt

theorem stands_settled (c₀ c : HalfCipher) (i : Nat) (h : Stands P c₀ i c) :
    Stands P c₀ i (c.settled P) := ⟨atUse_settled c₀ c i h.1, settled_nonce_le c⟩

theorem stands_used (c₀ c : HalfCipher) (i : Nat) (h : Stands P c₀ i c) :
    Stands P c₀ (i + 1) (c.used P) := ⟨atUse_used c₀ c i h.1, used_nonce_le c⟩

theorem settled_use (c₀ c : HalfCipher) (i : Nat) (h : Stands P c₀ i c) :
    ((c.settled P).key, encodeNonce (c.settled P).nonce) = use P c₀ i := by
  rcases settled_eq_use c₀ c i h.1 with ⟨hkey, hnonce⟩
  rw [hkey, hnonce]
  rfl

/-- Rotations neither seal nor open. -/
theorem rotationCalls_select {κ : Type} (select : PrimitiveCall → Option κ)
    (hselect : ∀ salt ikm, select (.hkdf salt ikm) = none) (c : HalfCipher) :
    c.rotationCalls.filterMap select = [] := by
  unfold rotationCalls
  by_cases h : keyRotationThreshold ≤ c.nonce
  · rw [if_pos h, List.filterMap_cons, hselect]
    rfl
  · rw [if_neg h]
    rfl

/-- One use of a sending half, when sealing fails: the half is settled. -/
theorem run_sealNext_of_none (c : HalfCipher) (plaintext : Bytes)
    (h : P.encrypt (c.settled P).key (encodeNonce (c.settled P).nonce) [] plaintext = none) :
    (sealNext P plaintext : NoiseMethod HalfCipher ε Bytes).run c
      = ⟨.panicked, c.settled P, c.rotationCalls⟩ := by
  unfold sealNext
  rw [Method.run_bind_of_ok _ _ _ _ _ _ (run_maybeRotate c), Method.run_get_bind,
    run_encryptWithAd_bind, h]
  unfold Return.after
  rw [List.append_nil]

/-- Sealing a plaintext takes one use, or none when it fails. -/
theorem sealNext_takes (c₀ : HalfCipher) (plaintext : Bytes) :
    (sealNext P plaintext : NoiseMethod HalfCipher ε Bytes).Takes (Stands P c₀)
      PrimitiveCall.sealedUnder? (use P c₀) := by
  intro i c hc
  have hrot := rotationCalls_select PrimitiveCall.sealedUnder? (fun _ _ => rfl) c
  cases hseal : P.encrypt (c.settled P).key (encodeNonce (c.settled P).nonce) [] plaintext with
  | some ct =>
      rw [run_sealNext c plaintext ct hseal]
      refine ⟨1, ?_, stands_used c₀ c i hc⟩
      rw [List.filterMap_append, hrot, List.range'_one, List.map_singleton,
        ← settled_use c₀ c i hc]
      rfl
  | none =>
      rw [run_sealNext_of_none c plaintext hseal]
      exact ⟨0, hrot, stands_settled c₀ c i hc⟩

/-- Opening a ciphertext takes one use, or none when it fails. -/
theorem openNext_takes (c₀ : HalfCipher) (ct : Bytes) :
    (openNext P ct).Takes (Stands P c₀) PrimitiveCall.openedUnder? (use P c₀) := by
  intro i c hc
  have hrot := rotationCalls_select PrimitiveCall.openedUnder? (fun _ _ => rfl) c
  cases hopen : P.decrypt (c.settled P).key (encodeNonce (c.settled P).nonce) [] ct with
  | some plaintext =>
      rw [run_openNext_of_some c ct plaintext hopen]
      refine ⟨1, ?_, stands_used c₀ c i hc⟩
      rw [List.filterMap_append, hrot, List.range'_one, List.map_singleton,
        ← settled_use c₀ c i hc]
      rfl
  | none =>
      rw [run_openNext_of_none c ct hopen]
      refine ⟨0, ?_, stands_settled c₀ c i hc⟩
      rw [List.filterMap_append, hrot]
      rfl

/-- Sealing opens nothing. -/
theorem sealNext_idle (plaintext : Bytes) :
    (sealNext P plaintext : NoiseMethod HalfCipher ε Bytes).Idle PrimitiveCall.openedUnder? := by
  intro c
  have hrot := rotationCalls_select PrimitiveCall.openedUnder? (fun _ _ => rfl) c
  cases hseal : P.encrypt (c.settled P).key (encodeNonce (c.settled P).nonce) [] plaintext with
  | some ct =>
      rw [run_sealNext c plaintext ct hseal, List.filterMap_append, hrot]
      rfl
  | none =>
      rw [run_sealNext_of_none c plaintext hseal]
      exact hrot

/-- Opening seals nothing. -/
theorem openNext_idle (ct : Bytes) : (openNext P ct).Idle PrimitiveCall.sealedUnder? := by
  intro c
  have hrot := rotationCalls_select PrimitiveCall.sealedUnder? (fun _ _ => rfl) c
  cases hopen : P.decrypt (c.settled P).key (encodeNonce (c.settled P).nonce) [] ct with
  | some plaintext =>
      rw [run_openNext_of_some c ct plaintext hopen, List.filterMap_append, hrot]
      rfl
  | none =>
      rw [run_openNext_of_none c ct hopen, List.filterMap_append, hrot]
      rfl

end HalfCipher

open HalfCipher

namespace CipherOp

section

variable {stands : Nat → HalfCipher → Prop} {select : PrimitiveCall → Option (Key × ByteArr 12)}
  {use : Nat → Key × ByteArr 12}

/-- A sending call takes what its sealings take. -/
theorem onHalf_takes_of_sends
    (h : ∀ p, (sealNext P p : NoiseMethod HalfCipher NoiseError Bytes).Takes stands select use)
    (op : CipherOp) (hop : op.sends = true) : (op.onHalf P).Takes stands select use := by
  cases op with
  | encrypt plaintext =>
      refine Method.takes_map _ _ (Method.takes_bind _ _ (Method.takes_lift _) (fun length => ?_))
      refine Method.takes_bind _ _ (h _) (fun encryptedLen => ?_)
      exact Method.takes_bind _ _ (h _) (fun encryptedMsg => Method.takes_pure _)
  | encryptLength length => exact Method.takes_map _ _ (h _)
  | decryptLength encryptedLen => exact absurd hop Bool.false_ne_true
  | decryptMessage encryptedMsg => exact absurd hop Bool.false_ne_true

/-- A receiving call takes what its opening takes. -/
theorem onHalf_takes_of_receives (h : ∀ ct, (openNext P ct).Takes stands select use)
    (op : CipherOp) (hop : op.sends = false) : (op.onHalf P).Takes stands select use := by
  cases op with
  | encrypt plaintext => exact absurd hop.symm Bool.false_ne_true
  | encryptLength length => exact absurd hop.symm Bool.false_ne_true
  | decryptLength encryptedLen =>
      refine Method.takes_map _ _ (Method.takes_bind _ _ (h _) (fun lenBytes => ?_))
      refine Method.takes_bind _ _ (Method.takes_lift _) (fun hi => ?_)
      exact Method.takes_bind _ _ (Method.takes_lift _) (fun lo => Method.takes_pure _)
  | decryptMessage encryptedMsg => exact Method.takes_map _ _ (h _)

end

/-- The sealings of a call are the next uses of the send half. -/
theorem onHalves_sealings (c₀ : HalfCipher) (op : CipherOp) :
    (op.onHalves P).Takes (fun i s => Stands P c₀ i s.1) PrimitiveCall.sealedUnder?
      (use P c₀) := by
  unfold onHalves
  by_cases hop : op.sends = true
  · rw [if_pos hop]
    exact Method.takes_on StatePart.left _ (onHalf_takes_of_sends (sealNext_takes c₀) op hop)
  · rw [if_neg hop]
    have hidle : (op.onHalf P).Idle PrimitiveCall.sealedUnder? := by
      refine (Method.idle_iff_takes _ (use P c₀) _).mpr ?_
      refine onHalf_takes_of_receives (fun ct => ?_) op (by simpa using hop)
      exact (Method.idle_iff_takes _ _ _).mp (openNext_idle ct)
    exact Method.takes_of_idle Prod.fst _ (fun s => hidle s.2)
      (Method.keeps_on _ _ (fun _ _ => rfl) _)

/-- The successful openings of a call are the next uses of the receive half. -/
theorem onHalves_openings (c₀ : HalfCipher) (op : CipherOp) :
    (op.onHalves P).Takes (fun i s => Stands P c₀ i s.2) PrimitiveCall.openedUnder?
      (use P c₀) := by
  unfold onHalves
  by_cases hop : op.sends = true
  · rw [if_pos hop]
    have hidle : (op.onHalf P).Idle PrimitiveCall.openedUnder? := by
      refine (Method.idle_iff_takes _ (use P c₀) _).mpr ?_
      refine onHalf_takes_of_sends (fun plaintext => ?_) op hop
      exact (Method.idle_iff_takes _ _ _).mp (sealNext_idle plaintext)
    exact Method.takes_of_idle Prod.snd _ (fun s => hidle s.1)
      (Method.keeps_on _ _ (fun _ _ => rfl) _)
  · rw [if_neg hop]
    exact Method.takes_on StatePart.right _
      (onHalf_takes_of_receives (openNext_takes c₀) op (by simpa using hop))

end CipherOp

theorem keySchedule_eq (ck key : Key) (j : Nat) :
    keySchedule P ck key j = (nextKeys P)^[j] (ck, key) := by
  induction j with
  | zero => rfl
  | succ j ih =>
      rw [Function.iterate_succ_apply', ← ih]
      rfl

/-- The uses of a half that starts with its counter at zero. -/
theorem use_new (ck key : Key) (i : Nat) :
    use P ⟨key, 0, ck⟩ i = scheduledUse P ck key i := by
  unfold use useKey useNonce scheduledUse
  rw [Ratchet.slot_eq (by decide), keySchedule_eq]
  simp only [toRatchet, UInt64.toNat_zero, Nat.zero_min, Nat.zero_add]

/-- Different uses differ in key or in nonce while the keys that serve them
    do. -/
theorem scheduledUse_inj (ck key : Key) (i j n : Nat) (hi : i < n) (hj : j < n)
    (hkeys : ∀ a b, 1000 * a < n → 1000 * b < n →
      (keySchedule P ck key a).2 = (keySchedule P ck key b).2 → a = b)
    (h : scheduledUse P ck key i = scheduledUse P ck key j) : i = j := by
  rcases Prod.mk.inj h with ⟨hkey, hnonce⟩
  have hdiv : i / 1000 = j / 1000 := hkeys _ _ (by omega) (by omega) hkey
  have hmod : i % 1000 = j % 1000 := by
    have hcount := congrArg UInt64.toNat (encodeNonce_inj _ _ hnonce)
    rw [UInt64.toNat_ofNat', UInt64.toNat_ofNat'] at hcount
    omega
  omega

/-- What a run of two halves has sealed and opened, from halves with their
    counters at zero: the scheduled uses from the first one on. -/
theorem calls_schedule (sendKey sendCk recvKey recvCk : Key) (ops : List CipherOp) :
    let r := Method.calls (CipherOp.onHalves P) ops (⟨sendKey, 0, sendCk⟩, ⟨recvKey, 0, recvCk⟩)
    (∃ n, r.trace.filterMap PrimitiveCall.sealedUnder?
        = (List.range n).map (scheduledUse P sendCk sendKey))
      ∧ (∃ n, r.trace.filterMap PrimitiveCall.openedUnder?
        = (List.range n).map (scheduledUse P recvCk recvKey))
      ∧ r.state.1.nonce ≤ 1000 ∧ r.state.2.nonce ≤ 1000 := by
  intro r
  have hfresh : ∀ key ck : Key, Stands P ⟨key, 0, ck⟩ 0 ⟨key, 0, ck⟩ :=
    fun key ck => ⟨Ratchet.atSlot_zero _, (by decide : (0 : UInt64) ≤ keyRotationThreshold)⟩
  rcases Method.calls_takes _ (CipherOp.onHalves_sealings ⟨sendKey, 0, sendCk⟩) ops 0
    (⟨sendKey, 0, sendCk⟩, ⟨recvKey, 0, recvCk⟩) (hfresh sendKey sendCk) with
    ⟨m, hsealed, hsend⟩
  rcases Method.calls_takes _ (CipherOp.onHalves_openings ⟨recvKey, 0, recvCk⟩) ops 0
    (⟨sendKey, 0, sendCk⟩, ⟨recvKey, 0, recvCk⟩) (hfresh recvKey recvCk) with
    ⟨n, hopened, hrecv⟩
  have huse : ∀ key ck : Key, use P ⟨key, 0, ck⟩ = scheduledUse P ck key :=
    fun key ck => funext (use_new ck key)
  rw [huse, ← List.range_eq_range'] at hsealed hopened
  exact ⟨⟨m, hsealed⟩, ⟨n, hopened⟩, hsend.2, hrecv.2⟩

/-- The schedule, over any run of a cipher, split after any of its calls. Use
    number `i` of either direction is under key number `i / 1000` of its chain
    and nonce `i % 1000`, so no two sealings share both while the keys that
    served them differ. The counters never pass 1000. -/
theorem key_schedule (P : Primitives) (sendKey recvKey chainingKey : Key)
    (before after : List CipherOp) :
    let r := Method.calls (CipherOp.onWhole P) before (NoiseCipher.new sendKey recvKey chainingKey)
    let r' := Method.calls (CipherOp.onHalves P) after r.state.split
    let sealings := (r.trace ++ r'.trace).filterMap PrimitiveCall.sealedUnder?
    let openings := (r.trace ++ r'.trace).filterMap PrimitiveCall.openedUnder?
    sealings = (List.range sealings.length).map (scheduledUse P chainingKey sendKey)
      ∧ openings = (List.range openings.length).map (scheduledUse P chainingKey recvKey)
      ∧ ((∀ a b, 1000 * a < sealings.length → 1000 * b < sealings.length →
          (keySchedule P chainingKey sendKey a).2 = (keySchedule P chainingKey sendKey b).2 →
            a = b) → sealings.Nodup)
      ∧ r.state.sendNonce ≤ 1000 ∧ r.state.recvNonce ≤ 1000
      ∧ r'.state.1.nonce ≤ 1000 ∧ r'.state.2.nonce ≤ 1000 := by
  intro r r' sealings openings
  -- Splitting in between is the same as having split at the start.
  have hbefore := CipherOp.calls_onHalves P before (NoiseCipher.new sendKey recvKey chainingKey)
  have hboth := Method.calls_append (CipherOp.onHalves P) before after
    (NoiseCipher.new sendKey recvKey chainingKey).split
  rw [hbefore] at hboth
  rcases calls_schedule (P := P) sendKey chainingKey recvKey chainingKey before with
    ⟨_, _, hsend, hrecv⟩
  rcases calls_schedule (P := P) sendKey chainingKey recvKey chainingKey (before ++ after) with
    ⟨⟨m, hsealed⟩, ⟨n, hopened⟩, hsend', hrecv'⟩
  have hstate : Method.calls (CipherOp.onHalves P) before
    (⟨sendKey, 0, chainingKey⟩, ⟨recvKey, 0, chainingKey⟩) = _ := hbefore
  have htrace : Method.calls (CipherOp.onHalves P) (before ++ after)
    (⟨sendKey, 0, chainingKey⟩, ⟨recvKey, 0, chainingKey⟩) = _ := hboth
  rw [hstate] at hsend hrecv
  rw [htrace] at hsealed hopened hsend' hrecv'
  -- The number of sealings is how far the send half has come.
  have hm : sealings.length = m := by
    rw [show sealings = _ from hsealed, List.length_map, List.length_range]
  have hn : openings.length = n := by
    rw [show openings = _ from hopened, List.length_map, List.length_range]
  rw [hm, hn]
  refine ⟨hsealed, hopened, fun hkeys => ?_, hsend, hrecv, hsend', hrecv'⟩
  rw [show sealings = _ from hsealed]
  refine List.Nodup.map_on (fun i hi j hj h => ?_) List.nodup_range
  exact scheduledUse_inj chainingKey sendKey i j m (List.mem_range.mp hi) (List.mem_range.mp hj)
    hkeys h

/-- The key is rotated by the message that is sealed after the split, and its second
    use is the first one under the next key. -/
theorem key_schedule_rotated :
    let sendKey : Key := List.Vector.replicate 32 1
    let chainingKey : Key := List.Vector.replicate 32 3
    let before := List.replicate 999 (CipherOp.encryptLength 5)
    let r := Method.calls (CipherOp.onWhole .transparent) before
      (NoiseCipher.new sendKey (List.Vector.replicate 32 2) chainingKey)
    let r' := Method.calls (CipherOp.onHalves .transparent) [.encrypt [7]] r.state.split
    ((r.trace ++ r'.trace).filterMap PrimitiveCall.sealedUnder?).Nodup := by
  intro sendKey chainingKey before r r'
  have hlength : ((r.trace ++ r'.trace).filterMap PrimitiveCall.sealedUnder?).length = 1001 := by
    decide +kernel
  have hrotated : (keySchedule .transparent chainingKey sendKey 0).2
      ≠ (keySchedule .transparent chainingKey sendKey 1).2 := by
    decide +kernel
  refine (key_schedule .transparent sendKey (List.Vector.replicate 32 2) chainingKey before
    [.encrypt [7]]).2.2.1 fun a b ha hb hkeys => ?_
  have ha' : 1000 * a < 1001 := hlength ▸ ha
  have hb' : 1000 * b < 1001 := hlength ▸ hb
  -- Two keys were used, and they differ.
  have hcases : a = b ∨ (a = 0 ∧ b = 1) ∨ (a = 1 ∧ b = 0) := by omega
  rcases hcases with hab | ⟨rfl, rfl⟩ | ⟨rfl, rfl⟩
  · exact hab
  · exact absurd hkeys hrotated
  · exact absurd hkeys.symm hrotated

end Noise

end LnGossipSim
