import LnGossipSim.Noise.Agreement

/-!
# Handshake Lifecycle

What a party does when it is called in any order, with any input. The state
machine only lets the two calls of its own role through, in their order, and by
then the keys they expect have been set, so no call panics and the handshake
completes exactly when both of them have succeeded.

A call that is rejected for the state, the version or a key leaves the party as
it was. One that is rejected at its tag does not: the act has been mixed into the
chaining key and the hash by then, and nothing takes it out again. The genuine
act is then rejected too, but the party still waits for one, and an act made for
what it holds now is accepted.

## Main definitions

* `Primitives.SealsLonger`: Sealing succeeds and adds 16 bytes.
* `Stage`: How far a party is, and which calls brought it there.
* `succeeded`, `OwnCalls`: The calls that succeeded, and those of a role.
* `RejectedAtTag`: An act that passes every check but the last.

## Theorems

* `readEphemeral_total`, `processActThree_total`: What an act is read as.
* `Stage.step`: What one call does at each stage.
* `calls_stage`: What any sequence of calls does.
* `handshake_safety`: No panic, and completion by one's own calls only.
* `rejected_act`: What a rejected act leaves behind.
-/

namespace LnGossipSim

namespace Noise

open Bolt NoiseHandshake

/-- Sealing a message of at most 65535 bytes succeeds and adds 16 bytes. -/
def Primitives.SealsLonger (P : Primitives) : Prop :=
  ∀ key nonce ad plaintext, plaintext.length ≤ maxMessageSize →
    ∃ c, P.encrypt key nonce ad plaintext = some c ∧ c.length = plaintext.length + macSize

theorem Primitives.OpensSealed.sealsLonger {P : Primitives} (hP : P.OpensSealed) :
    P.SealsLonger := by
  intro key nonce ad plaintext h
  rcases hP key nonce ad plaintext h with ⟨c, hseal, hlen, -⟩
  exact ⟨c, hseal, hlen⟩

variable {S : Secp256k1} {P : Primitives}

/-- Sealing a message of known length. -/
theorem SealsLonger.exists_ciphertext (hP : P.SealsLonger) (key : Key) (nonce : ByteArr 12)
    (ad plaintext : Bytes) (n : Nat) (hmax : plaintext.length ≤ maxMessageSize)
    (hn : plaintext.length + macSize = n) :
    ∃ c : ByteArr n, P.encrypt key nonce ad plaintext = some c.toList := by
  rcases hP key nonce ad plaintext hmax with ⟨c, hseal, hlen⟩
  rcases Slice.exists_toList n c (hlen.trans hn) with ⟨v, rfl⟩
  exact ⟨v, hseal⟩

/-- The party with act one or two mixed in, up to its tag. -/
def absorbed (P : Primitives) (secret : NoiseHandshake S → S.SecretKey)
    (keep : Option Key → Key → Option Key) (act : ByteArr 50) (re : S.PublicKey)
    (s : NoiseHandshake S) : NoiseHandshake S :=
  let keys := P.twoKeys s.ck (S.ecdh (secret s) re).toList
  { s with remoteEphemeral := some re, h := mixed P s.h (keyBytes act), ck := keys.1,
           tempK2 := keep s.tempK2 keys.2 }

/-- The party with act three mixed in, up to its tag. -/
def absorbedStatic (P : Primitives) (act : ByteArr actThreeSize) (rs : S.PublicKey)
    (s : NoiseHandshake S) : NoiseHandshake S :=
  { s with remoteStatic := some rs, h := mixed P s.h (encryptedKey act),
           ck := (P.twoKeys s.ck (S.ecdh s.localEphemeral rs).toList).1 }

/-- Act one or two has the right version and a key, and is expected. -/
structure EphemeralRead (expected : HandshakeState) (act : ByteArr 50) (s : NoiseHandshake S)
    (re : S.PublicKey) : Prop where
  state : s.state = expected
  version : act.head = version
  key : S.fromSlice (keyBytes act) = some re

/-- Act three has the right version and the static key opens, and is expected. -/
structure StaticRead (P : Primitives) (act : ByteArr actThreeSize) (s : NoiseHandshake S)
    (rs : S.PublicKey) : Prop where
  state : s.state = .responderAwaitingActThree
  version : act.head = version
  key : ∃ k rsBytes, s.tempK2 = some k
    ∧ P.decrypt k (encodeNonce 1) s.h.toList (encryptedKey act) = some rsBytes
    ∧ S.fromSlice rsBytes = some rs

/-- The tag of act one or two, once the act is mixed in. -/
def ephemeralTag (P : Primitives) (secret : NoiseHandshake S → S.SecretKey) (act : ByteArr 50)
    (re : S.PublicKey) (s : NoiseHandshake S) : Option Bytes :=
  P.decrypt (P.twoKeys s.ck (S.ecdh (secret s) re).toList).2 (encodeNonce 0)
    (mixed P s.h (keyBytes act)).toList (tagBytes act)

/-- The tag of act three, once the act is mixed in. -/
def staticTag (P : Primitives) (act : ByteArr actThreeSize) (rs : S.PublicKey)
    (s : NoiseHandshake S) : Option Bytes :=
  P.decrypt (P.twoKeys s.ck (S.ecdh s.localEphemeral rs).toList).2 (encodeNonce 0)
    (mixed P s.h (encryptedKey act)).toList (finalTag act)

/-- An act one or two is rejected before anything changes, rejected at its tag
    once it has been mixed in, or accepted. -/
theorem readEphemeral_total (expected : HandshakeState) (secret : NoiseHandshake S → S.SecretKey)
    (keep : Option Key → Key → Option Key) (badVersion : UInt8 → NoiseError)
    (badPubkey badTag : NoiseError) (act : ByteArr 50) (s : NoiseHandshake S) :
    let r := (readEphemeral P expected secret keep badVersion badPubkey badTag act).run s
    ((∀ re, ¬ EphemeralRead expected act s re) ∧ ∃ e, r = ⟨.err e, s, []⟩)
    ∨ ∃ re, EphemeralRead expected act s re
      ∧ ((ephemeralTag P secret act re s = none
          ∧ ∃ t, r = ⟨.err badTag, absorbed P secret keep act re s, t⟩)
        ∨ ∃ h t, r = ⟨.ok (), { absorbed P secret keep act re s with h := h }, t⟩) := by
  intro r
  have hr : r = (readEphemeral P expected secret keep badVersion badPubkey badTag act).run s := rfl
  unfold readEphemeral NoiseHandshake.mixHash Outcome.rejectIf at hr
  rw [Method.run_get_bind] at hr
  by_cases hstate : s.state = expected
  · by_cases hversion : act.head = version
    · simp only [hstate, hversion, ne_eq, not_true, if_false, Method.run_lift_ok_bind] at hr
      rcases hkey : S.fromSlice (keyBytes act) with _ | re
      · simp only [hkey, Outcome.okOr_none, Method.run_lift_err_bind] at hr
        refine Or.inl ⟨?_, _, hr⟩
        intro re hread
        exact absurd (hkey.symm.trans hread.key) (by simp)
      · simp only [hkey, Outcome.okOr_some, Method.run_lift_ok_bind, Method.run_modify_bind,
          run_hkdfTwoKeys_bind, Method.run_get_bind, run_decryptWithAd_bind] at hr
        refine Or.inr ⟨re, ⟨hstate, hversion, hkey⟩, ?_⟩
        -- the act is mixed in by now, and only its tag is left
        cases hopen : P.decrypt (P.twoKeys s.ck (S.ecdh (secret s) re).toList).2 (encodeNonce 0)
          (mixed P s.h (keyBytes act)).toList (tagBytes act) with
        | none =>
            rw [hopen] at hr
            exact Or.inl ⟨hopen, _, hr⟩
        | some p =>
            rw [hopen] at hr
            exact Or.inr ⟨_, _, hr⟩
    · simp only [hstate, hversion, ne_eq, not_true, not_false_iff, if_true, if_false,
        Method.run_lift_ok_bind, Method.run_lift_err_bind] at hr
      exact Or.inl ⟨fun re hread => hversion hread.version, _, hr⟩
  · simp only [hstate, ne_eq, not_false_iff, if_true, Method.run_lift_err_bind] at hr
    exact Or.inl ⟨fun re hread => hstate hread.state, _, hr⟩

/-- An act three is rejected before anything changes, rejected at its tag once it
    has been mixed in, or accepted. -/
theorem processActThree_total (act : ByteArr actThreeSize) (s : NoiseHandshake S)
    (hk : s.state = .responderAwaitingActThree → s.tempK2 ≠ none) :
    let r := (processActThree P act).run s
    ((∀ rs, ¬ StaticRead P act s rs) ∧ ∃ e t, r = ⟨.err e, s, t⟩)
    ∨ ∃ rs, StaticRead P act s rs
      ∧ ((staticTag P act rs s = none
          ∧ ∃ t, r = ⟨.err .actThreeBadTag, absorbedStatic P act rs s, t⟩)
        ∨ ∃ t, r = ⟨.ok rs, { absorbedStatic P act rs s with state := .complete }, t⟩) := by
  intro r
  have hr : r = (processActThree P act).run s := rfl
  unfold processActThree NoiseHandshake.mixHash Outcome.rejectIf at hr
  rw [Method.run_get_bind] at hr
  by_cases hstate : s.state = .responderAwaitingActThree
  · by_cases hversion : act.head = version
    · rcases Option.ne_none_iff_exists'.mp (hk hstate) with ⟨k, htemp⟩
      simp only [hstate, hversion, htemp, ne_eq, not_true, if_false, Method.run_lift_ok_bind,
        Outcome.expect_some, run_decryptWithAd_bind] at hr
      rcases hopen : P.decrypt k (encodeNonce 1) s.h.toList (encryptedKey act) with _ | rsBytes
      · simp only [hopen] at hr
        refine Or.inl ⟨?_, _, _, hr⟩
        intro rs hread
        rcases hread.key with ⟨k', rsBytes, hk', hopen', -⟩
        rw [htemp, Option.some.injEq] at hk'
        rw [← hk', hopen] at hopen'
        exact absurd hopen' (by simp)
      · rcases hkey : S.fromSlice rsBytes with _ | rs
        · simp only [hopen, hkey, Outcome.okOr_none, Method.run_lift_err_bind] at hr
          refine Or.inl ⟨?_, _, _, hr⟩
          intro rs hread
          rcases hread.key with ⟨k', rsBytes', hk', hopen', hkey'⟩
          rw [htemp, Option.some.injEq] at hk'
          rw [← hk', hopen, Option.some.injEq] at hopen'
          rw [← hopen', hkey] at hkey'
          exact absurd hkey' (by simp)
        · simp only [hopen, hkey, Outcome.okOr_some, Method.run_lift_ok_bind,
            Method.run_modify_bind, run_hkdfTwoKeys_bind, Method.run_get_bind,
            run_decryptWithAd_bind] at hr
          refine Or.inr ⟨rs, ⟨hstate, hversion, k, rsBytes, htemp, hopen, hkey⟩, ?_⟩
          -- the act is mixed in by now, and only its tag is left
          cases htag : P.decrypt (P.twoKeys s.ck (S.ecdh s.localEphemeral rs).toList).2
            (encodeNonce 0) (mixed P s.h (encryptedKey act)).toList (finalTag act) with
          | none =>
              rw [htag] at hr
              exact Or.inl ⟨htag, _, hr⟩
          | some p =>
              rw [htag] at hr
              exact Or.inr ⟨_, hr⟩
    · simp only [hstate, hversion, ne_eq, not_true, not_false_iff, if_true, if_false,
        Method.run_lift_ok_bind, Method.run_lift_err_bind] at hr
      exact Or.inl ⟨fun rs hread => hversion hread.version, _, _, hr⟩
  · simp only [hstate, ne_eq, not_false_iff, if_true, Method.run_lift_err_bind] at hr
    exact Or.inl ⟨fun rs hread => hstate hread.state, _, _, hr⟩

/-- An act one or two can always be written once the remote key is there. -/
theorem writeEphemeral_total (hP : P.SealsLonger) (remote : NoiseHandshake S → Option S.PublicKey)
    (keep : Option Key → Key → Option Key) (next : HandshakeState) (s : NoiseHandshake S)
    (hremote : remote s ≠ none) :
    ∃ act s' t k, (writeEphemeral P remote keep next).run s = ⟨.ok act, s', t⟩
      ∧ s'.state = next ∧ s'.tempK2 = keep s.tempK2 k := by
  rcases Option.ne_none_iff_exists'.mp hremote with ⟨re, hre⟩
  rcases SealsLonger.exists_ciphertext hP (P.twoKeys s.ck (S.ecdh s.localEphemeral re).toList).2
    (encodeNonce 0) (mixed P s.h (S.serialize (S.publicKey s.localEphemeral)).toList).toList []
    macSize (Nat.zero_le _) (Nat.zero_add _) with ⟨tag, hseal⟩
  exact ⟨_, _, _, _, (writeEphemeral_ok remote keep next s _ _ _).mpr
    ⟨re, tag, hre, hseal, rfl, rfl, rfl⟩, rfl, rfl⟩

/-- Act three can always be written once the keys of act two are there. -/
theorem buildActThree_total (hP : P.SealsLonger) (s : NoiseHandshake S) (k : Key)
    (re : S.PublicKey) (hk : s.tempK2 = some k) (hre : s.remoteEphemeral = some re) :
    ∃ act s' t, (buildActThree P).run s = ⟨.ok act, s', t⟩ ∧ s'.state = .complete := by
  have hkey : (S.serialize (S.publicKey s.localStatic)).toList.length = publicKeySize :=
    List.Vector.toList_length _
  rcases SealsLonger.exists_ciphertext hP k (encodeNonce 1) s.h.toList
    (S.serialize (S.publicKey s.localStatic)).toList (publicKeySize + macSize)
    (by rw [hkey]; decide) (by rw [hkey]) with ⟨c, hc⟩
  rcases SealsLonger.exists_ciphertext hP (P.twoKeys s.ck (S.ecdh s.localStatic re).toList).2
    (encodeNonce 0) (mixed P s.h c.toList).toList [] macSize (Nat.zero_le _) (Nat.zero_add _) with
    ⟨tag, htag⟩
  exact ⟨_, _, _, (buildActThree_ok s _ _ _).mpr ⟨k, re, c, tag, hk, hre, hc, htag, rfl, rfl, rfl⟩,
    rfl⟩

/-- The call is an act, and not a look at the final keys. -/
def HandshakeOp.IsAct : HandshakeOp → Prop
  | .getFinalKeys => False
  | _ => True

instance decidableIsAct (op : HandshakeOp) : Decidable op.IsAct :=
  match op with
  | .getFinalKeys => isFalse id
  | .getActOne | .processActOne _ | .processActTwo _ | .processActThree _ => isTrue trivial

/-- The acts among the calls that succeeded, in order. -/
def succeeded : List HandshakeOp → List (Outcome NoiseError Unit) → List HandshakeOp
  | op :: ops, o :: os => if op.IsAct ∧ o = .ok () then op :: succeeded ops os else succeeded ops os
  | _, _ => []

/-- The calls of a role, each once and in their order. -/
def OwnCalls : Role → List HandshakeOp → Prop
  | .initiator, calls => ∃ act, calls = [.getActOne, .processActTwo act]
  | .responder, calls => ∃ act act', calls = [.processActOne act, .processActThree act']

/-- Where a party of a role is in its state after the acts that succeeded. The
    keys that its next call expects are set. -/
def StageAt (s : NoiseHandshake S) (role : Role) (done : List HandshakeOp) :
    HandshakeState → Prop
  | .initiatorStart => role = .initiator ∧ done = [] ∧ s.remoteStatic ≠ none
  | .initiatorAwaitingActTwo => role = .initiator ∧ done = [.getActOne]
  | .responderStart => role = .responder ∧ done = []
  | .responderAwaitingActThree =>
    role = .responder ∧ (∃ act, done = [.processActOne act]) ∧ s.tempK2 ≠ none
  | .complete => OwnCalls role done

/-- How far a party is. -/
def Stage (s : NoiseHandshake S) (role : Role) (done : List HandshakeOp) : Prop :=
  StageAt s role done s.state

theorem Stage.at (s : NoiseHandshake S) (role : Role) (done : List HandshakeOp)
    (state : HandshakeState) (h : Stage s role done) (hstate : s.state = state) :
    StageAt s role done state := by
  rw [← hstate]
  exact h

/-- An act that passes every check but that of its tag, with what it leaves: the
    party with the act mixed in. -/
inductive RejectedAtTag (P : Primitives) (s : NoiseHandshake S) :
    HandshakeOp → NoiseHandshake S → Prop where
  | actOne (act : ByteArr actOneSize) (re : S.PublicKey)
      (hread : EphemeralRead .responderStart act s re)
      (htag : ephemeralTag P NoiseHandshake.localStatic act re s = none) :
      RejectedAtTag P s (.processActOne act)
        (absorbed P NoiseHandshake.localStatic (fun old _ => old) act re s)
  | actTwo (act : ByteArr actTwoSize) (re : S.PublicKey)
      (hread : EphemeralRead .initiatorAwaitingActTwo act s re)
      (htag : ephemeralTag P NoiseHandshake.localEphemeral act re s = none) :
      RejectedAtTag P s (.processActTwo act)
        (absorbed P NoiseHandshake.localEphemeral (fun _ k => some k) act re s)
  | actThree (act : ByteArr actThreeSize) (rs : S.PublicKey) (hread : StaticRead P act s rs)
      (htag : staticTag P act rs s = none) :
      RejectedAtTag P s (.processActThree act) (absorbedStatic P act rs s)

/-- What a call returns: it is rejected and changes nothing, rejected at its tag
    with the act mixed in, or succeeds. -/
inductive ActResult (P : Primitives) (op : HandshakeOp) (s : NoiseHandshake S) (role : Role)
    (done : List HandshakeOp) :
    Return PrimitiveCall (NoiseHandshake S) NoiseError Unit → Prop where
  | rejected (e : NoiseError) (t : List PrimitiveCall) (htag : ∀ a, ¬ RejectedAtTag P s op a) :
      ActResult P op s role done ⟨.err e, s, t⟩
  | rejectedAtTag (e : NoiseError) (a : NoiseHandshake S) (t : List PrimitiveCall)
      (htag : RejectedAtTag P s op a) : ActResult P op s role done ⟨.err e, a, t⟩
  | accepted (s' : NoiseHandshake S) (t : List PrimitiveCall)
      (hstage : Stage s' role (done ++ [op])) :
      ActResult P op s role done ⟨.ok (), s', t⟩

/-- The tag is checked last, and the state is as before by then. -/
theorem RejectedAtTag.stage (s a : NoiseHandshake S) (op : HandshakeOp) (role : Role)
    (done : List HandshakeOp) (h : RejectedAtTag P s op a) (hstage : Stage s role done) :
    Stage a role done := by
  -- Reading an act changes neither the role nor the state field.
  cases h with
  | actOne act re hread =>
      have hat := hstage.at _ _ _ _ hread.state
      unfold Stage absorbed
      rw [hread.state]
      exact hat
  | actTwo act re hread =>
      have hat := hstage.at _ _ _ _ hread.state
      unfold Stage absorbed
      rw [hread.state]
      exact hat
  | actThree act rs hread =>
      have hat := hstage.at _ _ _ _ hread.state
      unfold Stage absorbedStatic
      rw [hread.state]
      exact hat

section

variable (s : NoiseHandshake S) (role : Role) (done : List HandshakeOp)

theorem getActOne_result (hP : P.SealsLonger) (h : Stage s role done) :
    ActResult P .getActOne s role done ((HandshakeOp.getActOne.act P).run s) := by
  unfold HandshakeOp.act
  by_cases hstate : s.state = .initiatorStart
  -- In the first state nothing has succeeded yet, and the remote key is known.
  · rcases h.at _ _ _ _ hstate with ⟨rfl, rfl, hremote⟩
    rcases writeEphemeral_total hP NoiseHandshake.remoteStatic (fun old _ => old)
      .initiatorAwaitingActTwo s hremote with ⟨act, s', t, k, hwrite, hnext, -⟩
    have hrun : (NoiseHandshake.getActOne P).run s = ⟨.ok act, s', t⟩ := by
      unfold NoiseHandshake.getActOne
      rw [Method.run_get_bind, Outcome.rejectIf_of_not _ _ (not_not.mpr hstate),
        Method.run_lift_ok_bind, hwrite]
    rw [Method.run_bind_pure_of_ok _ _ _ _ _ _ hrun]
    refine .accepted s' t ?_
    unfold Stage
    rw [hnext]
    exact ⟨rfl, rfl⟩
  · have hrun : (NoiseHandshake.getActOne P).run s = ⟨.err .invalidState, s, []⟩ := by
      unfold NoiseHandshake.getActOne Outcome.rejectIf
      rw [Method.run_get_bind, if_pos hstate, Method.run_lift_err_bind]
    rw [Method.run_bind_of_err _ _ _ _ _ _ hrun]
    refine .rejected _ _ ?_
    intro a ha
    cases ha

theorem processActOne_result (hP : P.SealsLonger) (h : Stage s role done)
    (act : ByteArr actOneSize) :
    ActResult P (.processActOne act) s role done
      ((HandshakeOp.act P (.processActOne act)).run s) := by
  unfold HandshakeOp.act
  rcases readEphemeral_total (P := P) .responderStart NoiseHandshake.localStatic (fun old _ => old)
    .actOneBadVersion .actOneBadPubkey .actOneBadTag act s with
    ⟨hnot, e, hrun⟩ | ⟨re, hread, hresult⟩
  -- A check before the key was mixed in rejected the act.
  · have hact : (NoiseHandshake.processActOne P act).run s = ⟨.err e, s, []⟩ :=
      Method.run_bind_of_err _ _ _ _ _ _ hrun
    rw [Method.run_bind_of_err _ _ _ _ _ _ hact]
    refine .rejected _ _ ?_
    intro a ha
    cases ha with
    | actOne act re hread => exact hnot re hread
  rcases h.at _ _ _ _ hread.state with ⟨rfl, rfl⟩
  -- The key is mixed in by now, so what is left to fail is the tag.
  rcases hresult with ⟨htag, t, hrun⟩ | ⟨hash, t, hrun⟩
  · have hact : (NoiseHandshake.processActOne P act).run s = ⟨.err .actOneBadTag, _, t⟩ :=
      Method.run_bind_of_err _ _ _ _ _ _ hrun
    rw [Method.run_bind_of_err _ _ _ _ _ _ hact]
    exact .rejectedAtTag _ _ _ (.actOne act re hread htag)
  · rcases writeEphemeral_total hP NoiseHandshake.remoteEphemeral (fun _ k => some k)
      .responderAwaitingActThree
      { absorbed P NoiseHandshake.localStatic (fun old _ => old) act re s with h := hash }
      (by simp [absorbed]) with ⟨act', s', t', k, hwrite, hnext, htemp⟩
    have hact : (NoiseHandshake.processActOne P act).run s = ⟨.ok act', s', t ++ t'⟩ :=
      (Method.bind_eq_ok _ _ _ _ _ _).mpr ⟨_, _, _, _, hrun, hwrite, rfl⟩
    rw [Method.run_bind_pure_of_ok _ _ _ _ _ _ hact]
    refine .accepted s' _ ?_
    unfold Stage
    rw [hnext]
    exact ⟨rfl, ⟨act, rfl⟩, by rw [htemp]; simp⟩

theorem processActTwo_result (hP : P.SealsLonger) (h : Stage s role done)
    (act : ByteArr actTwoSize) :
    ActResult P (.processActTwo act) s role done
      ((HandshakeOp.act P (.processActTwo act)).run s) := by
  unfold HandshakeOp.act
  rcases readEphemeral_total (P := P) .initiatorAwaitingActTwo NoiseHandshake.localEphemeral
    (fun _ k => some k) .actTwoBadVersion .actTwoBadPubkey .actTwoBadTag act s with
    ⟨hnot, e, hrun⟩ | ⟨re, hread, hresult⟩
  -- A check before the key was mixed in rejected the act.
  · have hact : (NoiseHandshake.processActTwo P act).run s = ⟨.err e, s, []⟩ :=
      Method.run_bind_of_err _ _ _ _ _ _ hrun
    rw [Method.run_bind_of_err _ _ _ _ _ _ hact]
    refine .rejected _ _ ?_
    intro a ha
    cases ha with
    | actTwo act re hread => exact hnot re hread
  rcases h.at _ _ _ _ hread.state with ⟨rfl, rfl⟩
  -- The key is mixed in by now, so what is left to fail is the tag.
  rcases hresult with ⟨htag, t, hrun⟩ | ⟨hash, t, hrun⟩
  · have hact : (NoiseHandshake.processActTwo P act).run s = ⟨.err .actTwoBadTag, _, t⟩ :=
      Method.run_bind_of_err _ _ _ _ _ _ hrun
    rw [Method.run_bind_of_err _ _ _ _ _ _ hact]
    exact .rejectedAtTag _ _ _ (.actTwo act re hread htag)
  · rcases buildActThree_total hP
      { absorbed P NoiseHandshake.localEphemeral (fun _ k => some k) act re s with h := hash }
      _ re rfl rfl with ⟨act', s', t', hbuild, hnext⟩
    have hact : (NoiseHandshake.processActTwo P act).run s = ⟨.ok act', s', t ++ t'⟩ :=
      (Method.bind_eq_ok _ _ _ _ _ _).mpr ⟨_, _, _, _, hrun, hbuild, rfl⟩
    rw [Method.run_bind_pure_of_ok _ _ _ _ _ _ hact]
    refine .accepted s' _ ?_
    unfold Stage
    rw [hnext]
    exact ⟨act, rfl⟩

theorem processActThree_result (h : Stage s role done) (act : ByteArr actThreeSize) :
    ActResult P (.processActThree act) s role done
      ((HandshakeOp.act P (.processActThree act)).run s) := by
  unfold HandshakeOp.act
  rcases processActThree_total (P := P) act s (fun hstate => (h.at _ _ _ _ hstate).2.2) with
    ⟨hnot, e, t, hrun⟩ | ⟨rs, hread, hresult⟩
  · rw [Method.run_bind_of_err _ _ _ _ _ _ hrun]
    refine .rejected _ _ ?_
    intro a ha
    cases ha with
    | actThree act rs hread => exact hnot rs hread
  rcases h.at _ _ _ _ hread.state with ⟨rfl, ⟨act', rfl⟩, -⟩
  -- The static key is mixed in by now, so what is left to fail is the tag.
  rcases hresult with ⟨htag, t, hrun⟩ | ⟨t, hrun⟩
  · rw [Method.run_bind_of_err _ _ _ _ _ _ hrun]
    exact .rejectedAtTag _ _ _ (.actThree act rs hread htag)
  · rw [Method.run_bind_pure_of_ok _ _ _ _ _ _ hrun]
    exact .accepted _ _ ⟨act', act, rfl⟩

/-- What one act does at each stage. -/
theorem act_result (hP : P.SealsLonger) (h : Stage s role done) (op : HandshakeOp)
    (hact : op.IsAct) : ActResult P op s role done ((op.act P).run s) := by
  cases op with
  | getActOne => exact getActOne_result s role done hP h
  | processActOne act => exact processActOne_result s role done hP h act
  | processActTwo act => exact processActTwo_result s role done hP h act
  | processActThree act => exact processActThree_result s role done h act
  | getFinalKeys => exact absurd hact id

end

/-- The final keys are there exactly when the handshake is complete, and looking
    at them changes nothing. -/
theorem getFinalKeys_total (s : NoiseHandshake S) :
    (s.state = .complete ∧ ∃ keys t, (getFinalKeys P).run s = ⟨.ok keys, s, t⟩)
    ∨ (s.state ≠ .complete ∧ (getFinalKeys P).run s = ⟨.err .handshakeIncomplete, s, []⟩) := by
  by_cases hstate : s.state = .complete
  · exact Or.inl ⟨hstate, _, _, run_getFinalKeys s hstate⟩
  · refine Or.inr ⟨hstate, ?_⟩
    unfold getFinalKeys Outcome.rejectIf
    rw [Method.run_get_bind, if_pos hstate, Method.run_lift_err_bind]

/-- A party has completed the handshake exactly when its own calls have
    succeeded. -/
theorem Stage.complete_iff (s : NoiseHandshake S) (role : Role) (done : List HandshakeOp)
    (h : Stage s role done) : s.state = .complete ↔ OwnCalls role done := by
  constructor
  · intro hstate
    exact h.at _ _ _ _ hstate
  · intro hown
    -- before that, fewer than two calls have succeeded
    have htwo : done.length = 2 := by
      cases role with
      | initiator =>
          rcases hown with ⟨act, rfl⟩
          rfl
      | responder =>
          rcases hown with ⟨act, act', rfl⟩
          rfl
    cases hstate : s.state with
    | complete => rfl
    | initiatorStart =>
        rcases h.at _ _ _ _ hstate with ⟨-, rfl, -⟩
        exact absurd htwo (by simp)
    | initiatorAwaitingActTwo =>
        rcases h.at _ _ _ _ hstate with ⟨-, rfl⟩
        exact absurd htwo (by simp)
    | responderStart =>
        rcases h.at _ _ _ _ hstate with ⟨-, rfl⟩
        exact absurd htwo (by simp)
    | responderAwaitingActThree =>
        rcases h.at _ _ _ _ hstate with ⟨-, ⟨act, rfl⟩, -⟩
        exact absurd htwo (by simp)

/-- What one call does: it does not panic, and the party moves on when the call
    is an act that succeeds. -/
theorem Stage.step (hP : P.SealsLonger) (s : NoiseHandshake S) (role : Role)
    (done : List HandshakeOp) (h : Stage s role done) (op : HandshakeOp) :
    let r := (op.act P).run s
    r.outcome.Settles
      ∧ Stage r.state role (if op.IsAct ∧ r.outcome = .ok () then done ++ [op] else done) := by
  intro r
  by_cases hact : op.IsAct
  · have hresult : ActResult P op s role done r := act_result s role done hP h op hact
    clear_value r
    cases hresult with
    | rejected e t => exact ⟨Outcome.settles_err e, by rw [if_neg (by simp)]; exact h⟩
    | rejectedAtTag e a t htag =>
        exact ⟨Outcome.settles_err e, by
          rw [if_neg (by simp)]
          exact htag.stage _ _ _ _ _ h⟩
    | accepted s' t hstage =>
        exact ⟨Outcome.settles_ok (), by rw [if_pos ⟨hact, rfl⟩]; exact hstage⟩
  -- The final keys are no act, and asking for them changes nothing.
  · cases op with
    | getFinalKeys =>
        rw [if_neg (fun hc => hact hc.1)]
        rcases getFinalKeys_total (P := P) s with ⟨-, keys, t, hrun⟩ | ⟨-, hrun⟩
        · have hr : r = ⟨.ok (), s, t⟩ := Method.run_bind_pure_of_ok _ _ _ _ _ _ hrun
          rw [hr]
          exact ⟨Outcome.settles_ok (), h⟩
        · have hr : r = ⟨.err .handshakeIncomplete, s, []⟩ :=
            Method.run_bind_of_err _ _ _ _ _ _ hrun
          rw [hr]
          exact ⟨Outcome.settles_err _, h⟩
    | getActOne => exact absurd trivial hact
    | processActOne act => exact absurd trivial hact
    | processActTwo act => exact absurd trivial hact
    | processActThree act => exact absurd trivial hact

/-- What any sequence of calls does: none panics, and the party is as far as the
    acts that succeeded brought it. -/
theorem calls_stage (hP : P.SealsLonger) (ops : List HandshakeOp) (s : NoiseHandshake S)
    (role : Role) (done : List HandshakeOp) (h : Stage s role done) :
    let r := Method.calls (HandshakeOp.act P) ops s
    (∀ o ∈ r.outcomes, o.Settles) ∧ Stage r.state role (done ++ succeeded ops r.outcomes) := by
  induction ops generalizing s done with
  | nil =>
      refine ⟨fun o ho => absurd ho List.not_mem_nil, ?_⟩
      rw [Method.calls_nil]
      unfold succeeded
      rw [List.append_nil]
      exact h
  | cons op ops ih =>
      rcases Stage.step hP s role done h op with ⟨hsettles, hstage⟩
      rcases ih _ _ hstage with ⟨hrest, hlast⟩
      rw [Method.calls_cons]
      refine ⟨List.forall_mem_cons.mpr ⟨hsettles, hrest⟩, ?_⟩
      unfold succeeded
      -- The first call counts when it is an act that succeeded.
      by_cases hdone : op.IsAct ∧ ((op.act P).run s).outcome = .ok ()
      · rw [if_pos hdone]
        rw [if_pos hdone, List.append_assoc] at hlast
        exact hlast
      · rw [if_neg hdone]
        rw [if_neg hdone] at hlast
        exact hlast

/-- A party that has completed the handshake rejects every act, and is not
    changed by it. -/
theorem act_complete (s : NoiseHandshake S) (hstate : s.state = .complete) (op : HandshakeOp)
    (hact : op.IsAct) : (op.act P).run s = ⟨.err .invalidState, s, []⟩ := by
  -- The two acts that are read check the state first.
  have hread : ∀ (expected : HandshakeState) secret keep badVersion badPubkey badTag act,
      s.state ≠ expected →
      (readEphemeral P expected secret keep badVersion badPubkey badTag act).run s
        = ⟨.err .invalidState, s, []⟩ := by
    intro expected secret keep badVersion badPubkey badTag act h
    unfold readEphemeral Outcome.rejectIf
    rw [Method.run_get_bind, if_pos h, Method.run_lift_err_bind]
  unfold HandshakeOp.act
  cases op with
  | getActOne =>
      refine Method.run_bind_of_err _ _ _ _ _ _ ?_
      unfold NoiseHandshake.getActOne Outcome.rejectIf
      rw [Method.run_get_bind, if_pos (by rw [hstate]; simp), Method.run_lift_err_bind]
  | processActOne act =>
      refine Method.run_bind_of_err _ _ _ _ _ _ (Method.run_bind_of_err _ _ _ _ _ _ ?_)
      exact hread _ _ _ _ _ _ _ (by rw [hstate]; simp)
  | processActTwo act =>
      refine Method.run_bind_of_err _ _ _ _ _ _ (Method.run_bind_of_err _ _ _ _ _ _ ?_)
      exact hread _ _ _ _ _ _ _ (by rw [hstate]; simp)
  | processActThree act =>
      refine Method.run_bind_of_err _ _ _ _ _ _ ?_
      unfold NoiseHandshake.processActThree Outcome.rejectIf
      rw [Method.run_get_bind, if_pos (by rw [hstate]; simp), Method.run_lift_err_bind]
  | getFinalKeys => exact absurd hact id

/-- A party that was just created. -/
inductive Created (P : Primitives) : NoiseHandshake S → Prop where
  | initiator (localStatic localEphemeral : S.SecretKey) (remoteStatic : S.PublicKey) :
      Created P (newInitiator P localStatic localEphemeral remoteStatic)
  | responder (localStatic localEphemeral : S.SecretKey) :
      Created P (newResponder P localStatic localEphemeral)

theorem Created.stage (s : NoiseHandshake S) (h : Created P s) : Stage s s.role [] := by
  cases h with
  | initiator is ie rs => exact ⟨rfl, rfl, by simp [newInitiator]⟩
  | responder rs re => exact ⟨rfl, rfl⟩

/-- Safety of the handshake, whatever it is called with and in whatever order. No
    call panics. The final keys and the cipher are there exactly when the two
    calls of the party's role have succeeded, once each and in their order. From
    then on every act is rejected and changes nothing. -/
theorem handshake_safety (hP : P.SealsLonger) (start : NoiseHandshake S) (hstart : Created P start)
    (ops : List HandshakeOp) :
    let r := Method.calls (HandshakeOp.act P) ops start
    let own := OwnCalls start.role (succeeded ops r.outcomes)
    ((∀ o ∈ r.outcomes, o.Settles) ∧ ((getFinalKeys P).run r.state).outcome.Settles
      ∧ ((intoCipher P).run r.state).outcome.Settles)
    ∧ ((∃ keys, ((getFinalKeys P).run r.state).outcome = .ok keys) ↔ own)
    ∧ ((∃ cipher, ((intoCipher P).run r.state).outcome = .ok cipher) ↔ own)
    ∧ (r.state.state = .complete → ∀ op : HandshakeOp, op.IsAct →
      (op.act P).run r.state = ⟨.err .invalidState, r.state, []⟩) := by
  intro r own
  rcases calls_stage hP ops start start.role [] hstart.stage with ⟨hsettles, hstage⟩
  -- The stage that the calls reached decides whether the party is complete.
  have hown : r.state.state = .complete ↔ own := Stage.complete_iff _ _ _ hstage
  -- The final keys are there in that case and in no other.
  rcases getFinalKeys_total (P := P) r.state with ⟨hstate, keys, t, hrun⟩ | ⟨hstate, hrun⟩
  · have hcipher := run_intoCipher _ _ _ hrun
    rw [hrun, hcipher]
    refine ⟨⟨hsettles, Outcome.settles_ok _, Outcome.settles_ok _⟩, ?_, ?_, ?_⟩
    · exact ⟨fun _ => hown.mp hstate, fun _ => ⟨keys, rfl⟩⟩
    · exact ⟨fun _ => hown.mp hstate, fun _ => ⟨_, rfl⟩⟩
    · intro _ op hact
      exact act_complete r.state hstate op hact
  · have hcipher : (intoCipher P).run r.state = ⟨.err .handshakeIncomplete, r.state, []⟩ :=
      Method.run_bind_of_err _ _ _ _ _ _ hrun
    rw [hrun, hcipher]
    refine ⟨⟨hsettles, Outcome.settles_err _, Outcome.settles_err _⟩, ?_, ?_, ?_⟩
    · refine ⟨fun h => ?_, fun h => absurd (hown.mpr h) hstate⟩
      rcases h with ⟨keys, h⟩
      exact absurd h (by simp)
    · refine ⟨fun h => ?_, fun h => absurd (hown.mpr h) hstate⟩
      rcases h with ⟨cipher, h⟩
      exact absurd h (by simp)
    · intro h
      exact absurd h hstate

/-- A responder that is called out of order and given an act one twice before it
    completes the handshake. -/
theorem handshake_safety_completed :
    let key : UInt8 → Secp256k1.transparent.SecretKey := List.Vector.replicate 32
    let act1 : ByteArr actOneSize := ⟨[0, 2] ++ List.replicate 32 2 ++ [60, 59, 56, 71]
      ++ List.replicate 8 0 ++ List.replicate 4 2, rfl⟩
    let act3 : ByteArr actThreeSize := ⟨[0, 2] ++ List.replicate 32 1 ++ List.replicate 4 13
      ++ 1 :: List.replicate 7 0 ++ List.replicate 4 5 ++ List.replicate 4 14
      ++ List.replicate 8 0 ++ List.replicate 4 5, rfl⟩
    ∃ cipher, ((intoCipher .transparent).run (Method.calls (HandshakeOp.act .transparent)
        [.processActThree act3, .processActOne act1, .processActOne act1, .processActThree act3]
        (newResponder .transparent (key 3) (key 5))).state).outcome = .ok cipher := by
  intro key act1 act3
  have hsafe := handshake_safety Primitives.transparent_opensSealed.sealsLonger _
    (Created.responder (S := .transparent) (key 3) (key 5))
    [.processActThree act3, .processActOne act1, .processActOne act1, .processActThree act3]
  refine hsafe.2.2.1.mpr ⟨act1, act3, ?_⟩
  have houtcomes : (Method.calls (HandshakeOp.act .transparent)
      [.processActThree act3, .processActOne act1, .processActOne act1, .processActThree act3]
      (newResponder .transparent (key 3) (key 5))).outcomes
      = [.err .invalidState, .ok (), .err .invalidState, .ok ()] := by decide +kernel
  rw [houtcomes]
  rfl

section

variable (hP : P.OpensSealed) (hkeys : ∀ k : S.PublicKey, S.KeyReparses k)

include hP hkeys

/-- Some act one or two is accepted by a party that expects it: anyone who knows
    what the party holds can make one. -/
theorem exists_ephemeral (expected : HandshakeState) (secret : NoiseHandshake S → S.SecretKey)
    (keep : Option Key → Key → Option Key) (badVersion : UInt8 → NoiseError)
    (badPubkey badTag : NoiseError) (s : NoiseHandshake S) (hstate : s.state = expected) :
    ∃ act s' t k, (readEphemeral P expected secret keep badVersion badPubkey badTag act).run s
        = ⟨.ok (), s', t⟩
      ∧ s'.remoteEphemeral = some (S.publicKey s.localEphemeral)
      ∧ s'.tempK2 = keep s.tempK2 k := by
  let re := S.publicKey s.localEphemeral
  let key := S.serialize re
  -- The tag is sealed with what the party will derive from this key.
  rcases OpensSealed.exists_ciphertext hP (P.twoKeys s.ck (S.ecdh (secret s) re).toList).2
    (encodeNonce 0) (mixed P s.h key.toList).toList [] macSize (Nat.zero_le _) (Nat.zero_add _) with
    ⟨tag, -, hopen⟩
  refine ⟨keyAct key tag, _, _, _, (readEphemeral_ok expected secret keep badVersion badPubkey
    badTag (keyAct key tag) s _ _).mpr ⟨hstate, rfl, re, [], ?_, ?_, rfl, rfl⟩, rfl, rfl⟩
  · rw [keyBytes_keyAct]
    exact hkeys re
  · rw [keyBytes_keyAct, tagBytes_keyAct]
    exact hopen

/-- Some act three is accepted by a party that expects it. -/
theorem exists_static (s : NoiseHandshake S) (hstate : s.state = .responderAwaitingActThree)
    (htemp : s.tempK2 ≠ none) :
    ∃ act rs s' t, (processActThree P act).run s = ⟨.ok rs, s', t⟩ ∧ s'.state = .complete := by
  rcases Option.ne_none_iff_exists'.mp htemp with ⟨k, hk⟩
  let rs := S.publicKey s.localStatic
  have hkey : (S.serialize rs).toList.length = publicKeySize := List.Vector.toList_length _
  -- The static key is sealed under the temporary key the party holds.
  rcases OpensSealed.exists_ciphertext hP k (encodeNonce 1) s.h.toList (S.serialize rs).toList
    (publicKeySize + macSize) (by rw [hkey]; decide) (by rw [hkey]) with ⟨c, -, hcopen⟩
  rcases OpensSealed.exists_ciphertext hP (P.twoKeys s.ck (S.ecdh s.localEphemeral rs).toList).2
    (encodeNonce 0) (mixed P s.h c.toList).toList [] macSize (Nat.zero_le _) (Nat.zero_add _) with
    ⟨tag, -, htopen⟩
  refine ⟨staticAct c tag, rs, _, _, (processActThree_ok (staticAct c tag) s _ rs _).mpr
    ⟨hstate, rfl, k, _, [], hk, hkeys rs, ?_, ?_, rfl, rfl⟩, rfl⟩
  · rw [encryptedKey_staticAct]
    exact hcopen
  · rw [encryptedKey_staticAct, finalTag_staticAct]
    exact htopen

/-- A party can complete the handshake from wherever it is. -/
theorem can_complete (s : NoiseHandshake S) (role : Role) (done : List HandshakeOp)
    (h : Stage s role done) :
    ∃ later, (Method.calls (HandshakeOp.act P) later s).state.state = .complete := by
  -- the last call of each role, from any party that awaits it
  have hlastThree : ∀ s' : NoiseHandshake S, s'.state = .responderAwaitingActThree →
      s'.tempK2 ≠ none → ∃ op, ((HandshakeOp.act P op).run s').state.state = .complete := by
    intro s' hstate htemp
    rcases exists_static hP hkeys s' hstate htemp with ⟨act, rs, s'', t, hrun, hcomplete⟩
    refine ⟨.processActThree act, ?_⟩
    unfold HandshakeOp.act
    rw [Method.run_bind_pure_of_ok _ _ _ _ _ _ hrun]
    exact hcomplete
  have hlastTwo : ∀ s' : NoiseHandshake S, s'.state = .initiatorAwaitingActTwo →
      ∃ op, ((HandshakeOp.act P op).run s').state.state = .complete := by
    intro s' hstate
    rcases exists_ephemeral hP hkeys _ NoiseHandshake.localEphemeral (fun _ k => some k)
      .actTwoBadVersion .actTwoBadPubkey .actTwoBadTag s' hstate with
      ⟨act, s₁, t, k, hrun, hre, htemp⟩
    rcases buildActThree_total hP.sealsLonger s₁ k _ htemp hre with ⟨act', s₂, t', hbuild, hnext⟩
    have hact : (NoiseHandshake.processActTwo P act).run s' = ⟨.ok act', s₂, t ++ t'⟩ :=
      (Method.bind_eq_ok _ _ _ _ _ _).mpr ⟨_, _, _, _, hrun, hbuild, rfl⟩
    refine ⟨.processActTwo act, ?_⟩
    unfold HandshakeOp.act
    rw [Method.run_bind_pure_of_ok _ _ _ _ _ _ hact]
    exact hnext
  cases hstate : s.state with
  | complete => exact ⟨[], hstate⟩
  | responderAwaitingActThree =>
      rcases hlastThree s hstate (h.at _ _ _ _ hstate).2.2 with ⟨op, hop⟩
      exact ⟨[op], hop⟩
  | initiatorAwaitingActTwo =>
      rcases hlastTwo s hstate with ⟨op, hop⟩
      exact ⟨[op], hop⟩
  | initiatorStart =>
      rcases writeEphemeral_total hP.sealsLonger NoiseHandshake.remoteStatic (fun old _ => old)
        .initiatorAwaitingActTwo s (h.at _ _ _ _ hstate).2.2 with ⟨act, s', t, k, hwrite, hnext, -⟩
      have hrun : (NoiseHandshake.getActOne P).run s = ⟨.ok act, s', t⟩ := by
        unfold NoiseHandshake.getActOne
        rw [Method.run_get_bind, Outcome.rejectIf_of_not _ _ (not_not.mpr hstate),
          Method.run_lift_ok_bind, hwrite]
      have hact : (HandshakeOp.act P .getActOne).run s = ⟨.ok (), s', t⟩ :=
        Method.run_bind_pure_of_ok _ _ _ _ _ _ hrun
      rcases hlastTwo s' hnext with ⟨op, hop⟩
      refine ⟨[.getActOne, op], ?_⟩
      rw [Method.calls_cons, hact]
      exact hop
  | responderStart =>
      rcases exists_ephemeral hP hkeys _ NoiseHandshake.localStatic (fun old _ => old)
        .actOneBadVersion .actOneBadPubkey .actOneBadTag s hstate with
        ⟨act, s₁, t, k, hrun, hre, -⟩
      rcases writeEphemeral_total hP.sealsLonger NoiseHandshake.remoteEphemeral (fun _ k => some k)
        .responderAwaitingActThree s₁ (by rw [hre]; simp) with
        ⟨act', s₂, t', k', hwrite, hnext, htemp⟩
      have hone : (NoiseHandshake.processActOne P act).run s = ⟨.ok act', s₂, t ++ t'⟩ :=
        (Method.bind_eq_ok _ _ _ _ _ _).mpr ⟨_, _, _, _, hrun, hwrite, rfl⟩
      have hact : (HandshakeOp.act P (.processActOne act)).run s = ⟨.ok (), s₂, t ++ t'⟩ :=
        Method.run_bind_pure_of_ok _ _ _ _ _ _ hone
      rcases hlastThree s₂ hnext (by rw [htemp]; simp) with ⟨op, hop⟩
      refine ⟨[.processActOne act, op], ?_⟩
      rw [Method.calls_cons, hact]
      exact hop

/-- What a rejected act leaves behind, after any calls. Unless the act was only
    rejected at its tag, the party is as it was. Otherwise the act is mixed in
    and stays so, and the handshake can still be completed. -/
theorem rejected_act (start : NoiseHandshake S) (hstart : Created P start)
    (ops : List HandshakeOp) (op : HandshakeOp) (hact : op.IsAct) (e : NoiseError) :
    let s := (Method.calls (HandshakeOp.act P) ops start).state
    let r := (op.act P).run s
    r.outcome = .err e →
      ((r.state = s ∨ ∀ later, (Method.calls (HandshakeOp.act P) later r.state).state.state
          ≠ .complete)
        ↔ ∀ a, RejectedAtTag P s op a → a = s) := by
  intro s r hr
  have hstage : Stage s start.role _ := (calls_stage hP.sealsLonger ops start start.role []
    hstart.stage).2
  have hresult : ActResult P op s start.role _ r := act_result s _ _ hP.sealsLonger hstage op hact
  clear_value r
  cases hresult with
  | accepted s' t hnext => exact absurd hr (by simp)
  | rejected e' t htag => exact ⟨fun _ a ha => absurd ha (htag a), fun _ => Or.inl rfl⟩
  | rejectedAtTag e' a t htag =>
      -- The act alone determines what is mixed in.
      have honly : ∀ a', RejectedAtTag P s op a' → a' = a := by
        intro a' ha'
        cases htag with
        | actOne act re hread =>
            cases ha' with
            | actOne _ re' hread' =>
                rw [Option.some.inj (hread'.key.symm.trans hread.key)]
        | actTwo act re hread =>
            cases ha' with
            | actTwo _ re' hread' =>
                rw [Option.some.inj (hread'.key.symm.trans hread.key)]
        | actThree act rs hread =>
            cases ha' with
            | actThree _ rs' hread' =>
                rcases hread.key with ⟨k, b, hk, hb, hrs⟩
                rcases hread'.key with ⟨k', b', hk', hb', hrs'⟩
                rw [hk, Option.some.injEq] at hk'
                rw [← hk', hb, Option.some.injEq] at hb'
                rw [← hb', hrs, Option.some.injEq] at hrs'
                rw [hrs']
      constructor
      · intro hproperty a' ha'
        rcases hproperty with hsame | hnever
        · exact (honly a' ha').trans hsame
        · -- the party is at the same stage as before, and can be completed from there
          rcases can_complete hP hkeys a _ _ (htag.stage _ _ _ _ _ hstage) with ⟨later, hlater⟩
          exact absurd hlater (hnever later)
      · intro hsame
        exact Or.inl (hsame a htag)

end

/-- A responder given an act one of another version. -/
theorem rejected_act_version :
    let key : UInt8 → Secp256k1.transparent.SecretKey := List.Vector.replicate 32
    let start := newResponder .transparent (key 3) (key 5)
    let act : ByteArr actOneSize := ⟨1 :: List.replicate 49 2, rfl⟩
    let r := (HandshakeOp.act .transparent (.processActOne act)).run start
    r.state = start ∨ ∀ later, (Method.calls (HandshakeOp.act .transparent) later
      r.state).state.state ≠ .complete := by
  intro key start act r
  refine (rejected_act Primitives.transparent_opensSealed
    Secp256k1.transparent_parsesSerialized.key start (Created.responder (key 3) (key 5)) []
    (.processActOne act) trivial (.actOneBadVersion 1) (by decide +kernel)).mpr ?_
  intro a ha
  cases ha with
  | actOne _ re hread => exact absurd hread.version (by decide)

/-- A responder given an act one with a bad tag: the genuine act is rejected from
    then on, and acts made for what it holds now complete the handshake. -/
theorem bad_tag_contaminates :
    let key : UInt8 → Secp256k1.transparent.SecretKey := List.Vector.replicate 32
    let start := newResponder .transparent (key 3) (key 5)
    let genuine : ByteArr actOneSize := ⟨[0, 2] ++ List.replicate 32 2 ++ [60, 59, 56, 71]
      ++ List.replicate 8 0 ++ List.replicate 4 2, rfl⟩
    let bad : ByteArr actOneSize := ⟨[0, 2] ++ List.replicate 32 2 ++ List.replicate 16 0, rfl⟩
    let act1 : ByteArr actOneSize := ⟨[0, 2] ++ List.replicate 32 2 ++ List.replicate 4 11
      ++ List.replicate 8 0 ++ List.replicate 4 2, rfl⟩
    let act3 : ByteArr actThreeSize := ⟨[0, 2] ++ List.replicate 32 1 ++ List.replicate 4 13
      ++ 1 :: List.replicate 7 0 ++ List.replicate 4 5 ++ List.replicate 4 14
      ++ List.replicate 8 0 ++ List.replicate 4 5, rfl⟩
    let r := (HandshakeOp.act .transparent (.processActOne bad)).run start
    r.outcome = .err .actOneBadTag ∧ r.state ≠ start
      ∧ ((HandshakeOp.act .transparent (.processActOne genuine)).run start).outcome = .ok ()
      ∧ ((HandshakeOp.act .transparent (.processActOne genuine)).run r.state).outcome
        = .err .actOneBadTag
      ∧ (Method.calls (HandshakeOp.act .transparent) [.processActOne act1, .processActThree act3]
        r.state).state.state = .complete := by
  intro key start genuine bad act1 act3 r
  refine ⟨by decide +kernel, ?_, by decide +kernel, by decide +kernel, by decide +kernel⟩
  intro hsame
  have hck : r.state.ck ≠ start.ck := by decide +kernel
  exact hck (congrArg NoiseHandshake.ck hsame)

end Noise

end LnGossipSim
