import LnGossipSim.Noise.Cipher

/-!
# Handshake

The three acts in which two parties agree on keys. Each party keeps a chaining
key, which absorbs every shared secret, and a hash of the transcript, which is
the associated data of every tag.

Acts one and two have the same form, an ephemeral key and a tag, and are
written and read in the same way: `writeEphemeral` and `readEphemeral` are the
two halves, with what differs between the acts as parameters. Act three is an
encrypted static key and a tag.

A call that is rejected keeps the changes made up to that point, except that
nothing changes when the version is wrong or the party is in another state.
What a successful call did is said once for each method, as an equivalence.

## Main definitions

* `NoiseHandshake`: The state of a party.
* `mixHash`: Mix data into the transcript hash.
* `writeEphemeral`, `readEphemeral`: Acts one and two.
* `getActOne`, `processActOne`, `processActTwo`, `processActThree`: The acts.
* `getFinalKeys`, `intoCipher`: What the handshake is for.

## Theorems

* `writeEphemeral_ok`, `readEphemeral_ok`: A successful act one or two.
* `buildActThree_ok`, `processActThree_ok`: A successful act three.
* `run_getFinalKeys`, `run_intoCipher`: The end of the handshake.
* `getActOne_keeps`, `processActOne_keeps`, `processActTwo_keeps`,
  `processActThree_keeps`: No act changes the role or the static key.
-/

namespace LnGossipSim

namespace Noise

open Bolt

/-- Handshake version byte (0 = no deviation from spec). -/
def version : UInt8 := 0

/-- Act One message size: 1 (version) + 33 (pubkey) + 16 (MAC). -/
abbrev actOneSize : Nat := 50

/-- Act Two message size: 1 (version) + 33 (pubkey) + 16 (MAC). -/
abbrev actTwoSize : Nat := 50

/-- Act Three message size: 1 (version) + 33 (encrypted pubkey) + 16 (MAC) + 16
    (MAC). -/
abbrev actThreeSize : Nat := 66

/-- Protocol name used to initialize the handshake hash. -/
def protocolName : Bytes :=
  ['N', 'o', 'i', 's', 'e', '_', 'X', 'K', '_', 's', 'e', 'c', 'p', '2', '5', '6', 'k', '1', '_',
    'C', 'h', 'a', 'C', 'h', 'a', 'P', 'o', 'l', 'y', '_', 'S', 'H', 'A', '2', '5', '6'].map
    (fun c => UInt8.ofNat c.toNat)

/-- Prologue mixed into handshake hash after protocol name. -/
def prologue : Bytes :=
  ['l', 'i', 'g', 'h', 't', 'n', 'i', 'n', 'g'].map (fun c => UInt8.ofNat c.toNat)

/-- Role in the handshake. -/
inductive Role where
  | initiator
  | responder
  deriving DecidableEq

/-- State machine for the Noise handshake. -/
inductive HandshakeState where
  | initiatorStart
  | initiatorAwaitingActTwo
  | responderStart
  | responderAwaitingActThree
  | complete
  deriving DecidableEq

/-- Noise protocol handshake for Lightning (BOLT 8). -/
structure NoiseHandshake (S : Secp256k1) where
  role : Role
  state : HandshakeState
  ck : Key
  h : Key
  localStatic : S.SecretKey
  localEphemeral : S.SecretKey
  remoteStatic : Option S.PublicKey
  remoteEphemeral : Option S.PublicKey
  tempK2 : Option Key

/-- Act one or two: version, key and tag. -/
def keyAct (key : ByteArr publicKeySize) (tag : ByteArr macSize) : ByteArr 50 :=
  Slice.pack (version :: (key.toList ++ tag.toList)) (by
    rw [List.length_cons, List.length_append, List.Vector.toList_length,
      List.Vector.toList_length]
    rfl)

/-- The key bytes of act one or two. -/
def keyBytes (act : ByteArr 50) : Bytes := (act.toList.drop 1).take publicKeySize

/-- The tag of act one or two. -/
def tagBytes (act : ByteArr 50) : Bytes := act.toList.drop (1 + publicKeySize)

/-- Act three: version, encrypted key and tag. -/
def staticAct (encrypted : ByteArr (publicKeySize + macSize)) (tag : ByteArr macSize) :
    ByteArr actThreeSize :=
  Slice.pack (version :: (encrypted.toList ++ tag.toList)) (by
    rw [List.length_cons, List.length_append, List.Vector.toList_length,
      List.Vector.toList_length]
    rfl)

/-- The encrypted static key of act three. -/
def encryptedKey (act : ByteArr actThreeSize) : Bytes :=
  (act.toList.drop 1).take (publicKeySize + macSize)

/-- The tag of act three. -/
def finalTag (act : ByteArr actThreeSize) : Bytes :=
  act.toList.drop (1 + (publicKeySize + macSize))

theorem keyBytes_keyAct (key : ByteArr publicKeySize) (tag : ByteArr macSize) :
    keyBytes (keyAct key tag) = key.toList := by
  unfold keyBytes keyAct
  rw [Slice.pack_toList, List.drop_one, List.tail_cons, List.take_left' key.toList_length]

theorem tagBytes_keyAct (key : ByteArr publicKeySize) (tag : ByteArr macSize) :
    tagBytes (keyAct key tag) = tag.toList := by
  unfold tagBytes keyAct
  rw [Slice.pack_toList, Nat.add_comm, List.drop_succ_cons, List.drop_left' key.toList_length]

theorem encryptedKey_staticAct (c : ByteArr (publicKeySize + macSize)) (tag : ByteArr macSize) :
    encryptedKey (staticAct c tag) = c.toList := by
  unfold encryptedKey staticAct
  rw [Slice.pack_toList, List.drop_one, List.tail_cons, List.take_left' c.toList_length]

theorem finalTag_staticAct (c : ByteArr (publicKeySize + macSize)) (tag : ByteArr macSize) :
    finalTag (staticAct c tag) = tag.toList := by
  unfold finalTag staticAct
  rw [Slice.pack_toList, Nat.add_comm, List.drop_succ_cons, List.drop_left' c.toList_length]

section

variable {S : Secp256k1} (P : Primitives)

/-- A transcript hash with data mixed in. -/
def mixed (h : Key) (data : Bytes) : Key := P.sha256 (h.toList ++ data)

namespace NoiseHandshake

/-- Initialize handshake state per BOLT 8: the chaining key and the hash. -/
def initializeState (responderStatic : S.PublicKey) : Key × Key :=
  let ck := P.sha256 protocolName
  (ck, mixed P (mixed P ck prologue) (S.serialize responderStatic).toList)

/-- Creates a new handshake as the initiator. -/
def newInitiator (localStatic localEphemeral : S.SecretKey) (remoteStatic : S.PublicKey) :
    NoiseHandshake S :=
  { role := .initiator, state := .initiatorStart, ck := (initializeState P remoteStatic).1,
    h := (initializeState P remoteStatic).2, localStatic, localEphemeral,
    remoteStatic := some remoteStatic, remoteEphemeral := none, tempK2 := none }

/-- Creates a new handshake as the responder. -/
def newResponder (localStatic localEphemeral : S.SecretKey) : NoiseHandshake S :=
  let localStaticPub := S.publicKey localStatic
  { role := .responder, state := .responderStart, ck := (initializeState P localStaticPub).1,
    h := (initializeState P localStaticPub).2, localStatic, localEphemeral,
    remoteStatic := none, remoteEphemeral := none, tempK2 := none }

variable {ε : Type}

/-- Mix data into the handshake hash. -/
def mixHash (data : Bytes) : NoiseMethod (NoiseHandshake S) ε Unit :=
  Method.modify fun s => { s with h := mixed P s.h data }

/-- Writes act one or two: sends the ephemeral key, chains in the secret shared
    with the `remote` key, and seals an empty message. -/
def writeEphemeral (remote : NoiseHandshake S → Option S.PublicKey)
    (keep : Option Key → Key → Option Key) (next : HandshakeState) :
    NoiseMethod (NoiseHandshake S) NoiseError (ByteArr 50) := do
  let s ← Method.get
  let ePub := S.publicKey s.localEphemeral
  mixHash P (S.serialize ePub).toList
  let re ← Method.lift (Outcome.expect (remote s))
  let (ck, tempK) ← hkdfTwoKeys P s.ck (S.ecdh s.localEphemeral re).toList
  Method.modify fun s => { s with ck := ck, tempK2 := keep s.tempK2 tempK }
  let s ← Method.get
  let c ← encryptWithAd P tempK 0 s.h.toList []
  mixHash P c
  let tag ← Method.lift (Slice.copyInto macSize c)
  Method.modify fun s => { s with state := next }
  return keyAct (S.serialize ePub) tag

/-- Reads act one or two: takes the remote ephemeral key, chains in the secret
    it shares with our `secret`, and opens the tag. -/
def readEphemeral (expected : HandshakeState) (secret : NoiseHandshake S → S.SecretKey)
    (keep : Option Key → Key → Option Key) (badVersion : UInt8 → NoiseError)
    (badPubkey badTag : NoiseError) (act : ByteArr 50) :
    NoiseMethod (NoiseHandshake S) NoiseError Unit := do
  let s ← Method.get
  Method.lift (Outcome.rejectIf (s.state ≠ expected) .invalidState)
  Method.lift (Outcome.rejectIf (act.head ≠ version) (badVersion act.head))
  let re ← Method.lift (Outcome.okOr badPubkey (S.fromSlice (keyBytes act)))
  Method.modify fun s => { s with remoteEphemeral := some re }
  mixHash P (keyBytes act)
  let (ck, tempK) ← hkdfTwoKeys P s.ck (S.ecdh (secret s) re).toList
  Method.modify fun s => { s with ck := ck, tempK2 := keep s.tempK2 tempK }
  let s ← Method.get
  let _ ← Method.mapErr (fun _ => badTag) (decryptWithAd P tempK 0 s.h.toList (tagBytes act))
  mixHash P (tagBytes act)

/-- Generates Act One message (initiator). -/
def getActOne : NoiseMethod (NoiseHandshake S) NoiseError (ByteArr actOneSize) := do
  let s ← Method.get
  Method.lift (Outcome.rejectIf (s.state ≠ .initiatorStart) .invalidState)
  writeEphemeral P NoiseHandshake.remoteStatic (fun old _ => old) .initiatorAwaitingActTwo

/-- The part of `processActTwo` that checks the message. -/
def verifyActTwo : ByteArr actTwoSize → NoiseMethod (NoiseHandshake S) NoiseError Unit :=
  readEphemeral P .initiatorAwaitingActTwo NoiseHandshake.localEphemeral (fun _ k => some k)
    .actTwoBadVersion .actTwoBadPubkey .actTwoBadTag

/-- Builds Act Three message (initiator). -/
def buildActThree : NoiseMethod (NoiseHandshake S) NoiseError (ByteArr actThreeSize) := do
  let s ← Method.get
  let tempK2 ← Method.lift (Outcome.expect s.tempK2)
  let sPub := S.publicKey s.localStatic
  let c ← encryptWithAd P tempK2 1 s.h.toList (S.serialize sPub).toList
  mixHash P c
  let re ← Method.lift (Outcome.expect s.remoteEphemeral)
  let (ck, tempK3) ← hkdfTwoKeys P s.ck (S.ecdh s.localStatic re).toList
  Method.modify fun s => { s with ck := ck }
  let s ← Method.get
  let t ← encryptWithAd P tempK3 0 s.h.toList []
  let encrypted ← Method.lift (Slice.copyInto (publicKeySize + macSize) c)
  let tag ← Method.lift (Slice.copyInto macSize t)
  Method.modify fun s => { s with state := .complete }
  return staticAct encrypted tag

/-- Processes Act Two message and generates Act Three (initiator). -/
def processActTwo (act : ByteArr actTwoSize) :
    NoiseMethod (NoiseHandshake S) NoiseError (ByteArr actThreeSize) := do
  verifyActTwo P act
  buildActThree P

/-- The part of `processActOne` that checks the message. -/
def verifyActOne : ByteArr actOneSize → NoiseMethod (NoiseHandshake S) NoiseError Unit :=
  readEphemeral P .responderStart NoiseHandshake.localStatic (fun old _ => old)
    .actOneBadVersion .actOneBadPubkey .actOneBadTag

/-- Builds Act Two message (responder). -/
def buildActTwo : NoiseMethod (NoiseHandshake S) NoiseError (ByteArr actTwoSize) :=
  writeEphemeral P NoiseHandshake.remoteEphemeral (fun _ k => some k) .responderAwaitingActThree

/-- Processes Act One message and generates Act Two (responder). -/
def processActOne (act : ByteArr actOneSize) :
    NoiseMethod (NoiseHandshake S) NoiseError (ByteArr actTwoSize) := do
  verifyActOne P act
  buildActTwo P

/-- Processes Act Three message (responder). -/
def processActThree (act : ByteArr actThreeSize) :
    NoiseMethod (NoiseHandshake S) NoiseError S.PublicKey := do
  let s ← Method.get
  Method.lift (Outcome.rejectIf (s.state ≠ .responderAwaitingActThree) .invalidState)
  Method.lift (Outcome.rejectIf (act.head ≠ version) (.actThreeBadVersion act.head))
  let tempK2 ← Method.lift (Outcome.expect s.tempK2)
  let rsBytes ← Method.mapErr (fun _ => .actThreeBadCiphertext)
    (decryptWithAd P tempK2 1 s.h.toList (encryptedKey act))
  let rs ← Method.lift (Outcome.okOr .actThreeBadPubkey (S.fromSlice rsBytes))
  Method.modify fun s => { s with remoteStatic := some rs }
  mixHash P (encryptedKey act)
  let (ck, tempK3) ← hkdfTwoKeys P s.ck (S.ecdh s.localEphemeral rs).toList
  Method.modify fun s => { s with ck := ck }
  let s ← Method.get
  let _ ← Method.mapErr (fun _ => .actThreeBadTag)
    (decryptWithAd P tempK3 0 s.h.toList (finalTag act))
  Method.modify fun s => { s with state := .complete }
  return rs

/-- Returns the final send and receive keys, adjusted for role. -/
def getFinalKeys : NoiseMethod (NoiseHandshake S) NoiseError (Key × Key) := do
  let s ← Method.get
  Method.lift (Outcome.rejectIf (s.state ≠ .complete) .handshakeIncomplete)
  let (sk, rk) ← hkdfTwoKeys P s.ck []
  match s.role with
  | .initiator => return (sk, rk)
  | .responder => return (rk, sk)

/-- Extracts the cipher for post-handshake message encryption. -/
def intoCipher : NoiseMethod (NoiseHandshake S) NoiseError NoiseCipher := do
  let (sendKey, recvKey) ← getFinalKeys P
  let s ← Method.get
  return NoiseCipher.new sendKey recvKey s.ck

variable {P}

/-- A successful act one or two, written. -/
theorem writeEphemeral_ok (remote : NoiseHandshake S → Option S.PublicKey)
    (keep : Option Key → Key → Option Key) (next : HandshakeState) (s s' : NoiseHandshake S)
    (act : ByteArr 50) (t : List PrimitiveCall) :
    (writeEphemeral P remote keep next).run s = ⟨.ok act, s', t⟩
      ↔ ∃ re, ∃ tag : ByteArr macSize, remote s = some re
        ∧ let key := S.serialize (S.publicKey s.localEphemeral)
          let dh := (S.ecdh s.localEphemeral re).toList
          let keys := P.twoKeys s.ck dh
          let h := mixed P s.h key.toList
          P.encrypt keys.2 (encodeNonce 0) h.toList [] = some tag.toList
          ∧ act = keyAct key tag
          ∧ s' = { s with state := next, ck := keys.1, h := mixed P h tag.toList,
                          tempK2 := keep s.tempK2 keys.2 }
          ∧ t = [.hkdf s.ck dh, .sealing keys.2 (encodeNonce 0) h.toList [] tag.toList] := by
  unfold writeEphemeral mixHash
  simp only [Method.run_get_bind, Method.run_modify_bind]
  -- The remote key is expected to be there, and its absence is a panic.
  cases hre : remote s with
  | none =>
      simp only [Outcome.expect, Method.run_lift_panicked_bind, Return.mk.injEq, reduceCtorEq,
        false_and, exists_false]
  | some re =>
      simp only [Outcome.expect_some, Method.run_lift_ok_bind, run_hkdfTwoKeys_bind,
        Method.run_modify_bind, Method.run_get_bind, run_encryptWithAd_bind, Option.some.injEq,
        exists_and_left, exists_eq_left']
      cases P.encrypt (P.twoKeys s.ck (S.ecdh s.localEphemeral re).toList).2 (encodeNonce 0)
        (mixed P s.h (S.serialize (S.publicKey s.localEphemeral)).toList).toList [] with
      | none =>
          simp only [Return.after, Return.mk.injEq, reduceCtorEq, false_and, exists_false]
      | some c =>
          by_cases hc : c.length = macSize
          -- The tag has its length, so it is copied and the act is written.
          · rcases Slice.exists_toList macSize c hc with ⟨tag, rfl⟩
            simp only [Slice.copyInto_toList, Method.run_lift_ok_bind, Method.run_modify_bind,
              Method.run_pure, Return.after, Return.mk.injEq, Outcome.ok.injEq, Option.some.injEq,
              List.Vector.toList_injective.eq_iff, exists_eq_left']
            constructor
            · rintro ⟨rfl, rfl, rfl⟩
              exact ⟨rfl, rfl, rfl⟩
            · rintro ⟨rfl, rfl, rfl⟩
              exact ⟨rfl, rfl, rfl⟩
          · -- A tag of another length does not fit the message, and copying it panics.
            simp only [Slice.copyInto_of_ne macSize c hc, Method.run_lift_panicked_bind,
              Return.after, Return.mk.injEq, reduceCtorEq, false_and, Option.some.injEq, false_iff,
              not_exists]
            rintro tag ⟨rfl, _⟩
            exact hc tag.toList_length

/-- A successful act one or two, read. -/
theorem readEphemeral_ok (expected : HandshakeState) (secret : NoiseHandshake S → S.SecretKey)
    (keep : Option Key → Key → Option Key) (badVersion : UInt8 → NoiseError)
    (badPubkey badTag : NoiseError) (act : ByteArr 50) (s s' : NoiseHandshake S)
    (t : List PrimitiveCall) :
    (readEphemeral P expected secret keep badVersion badPubkey badTag act).run s = ⟨.ok (), s', t⟩
      ↔ s.state = expected ∧ act.head = version
        ∧ ∃ re p, S.fromSlice (keyBytes act) = some re
        ∧ let dh := (S.ecdh (secret s) re).toList
          let keys := P.twoKeys s.ck dh
          let h := mixed P s.h (keyBytes act)
          P.decrypt keys.2 (encodeNonce 0) h.toList (tagBytes act) = some p
          ∧ s' = { s with ck := keys.1, h := mixed P h (tagBytes act), remoteEphemeral := some re,
                          tempK2 := keep s.tempK2 keys.2 }
          ∧ t = [.hkdf s.ck dh,
                 .opening keys.2 (encodeNonce 0) h.toList (tagBytes act) (some p)] := by
  unfold readEphemeral mixHash Outcome.rejectIf
  simp only [Method.run_get_bind]
  by_cases hstate : s.state = expected
  · subst hstate
    by_cases hversion : act.head = version
    · simp only [hversion, ne_eq, not_true, if_false, Method.run_lift_ok_bind, true_and]
      -- Past the two checks, the key has to parse and then the tag to open.
      cases S.fromSlice (keyBytes act) with
      | none =>
          simp only [Outcome.okOr_none, Method.run_lift_err_bind, Return.mk.injEq, reduceCtorEq,
            false_and, exists_false]
      | some re =>
          simp only [Outcome.okOr_some, Method.run_lift_ok_bind, Method.run_modify_bind,
            run_hkdfTwoKeys_bind, Method.run_get_bind, run_decryptWithAd_bind, Option.some.injEq,
            exists_and_left, exists_eq_left']
          -- The state is absorbed by now, whatever becomes of the tag.
          cases P.decrypt (P.twoKeys s.ck (S.ecdh (secret s) re).toList).2 (encodeNonce 0)
            (mixed P s.h (keyBytes act)).toList (tagBytes act) with
          | none =>
              simp only [Return.after, Return.mk.injEq, reduceCtorEq, false_and, exists_false]
          | some p =>
              simp only [Method.run_modify, Return.after, Return.mk.injEq, Option.some.injEq,
                exists_eq_left', true_and]
              constructor
              · rintro ⟨rfl, rfl⟩
                exact ⟨rfl, rfl⟩
              · rintro ⟨rfl, rfl⟩
                exact ⟨rfl, rfl⟩
    · simp only [hversion, ne_eq, not_true, not_false_iff, if_true, if_false,
        Method.run_lift_ok_bind, Method.run_lift_err_bind, Return.mk.injEq, reduceCtorEq,
        false_and, and_false]
  · simp only [hstate, ne_eq, not_false_iff, if_true, Method.run_lift_err_bind, Return.mk.injEq,
      reduceCtorEq, false_and]

/-- A successful act three, written. -/
theorem buildActThree_ok (s s' : NoiseHandshake S) (act : ByteArr actThreeSize)
    (t : List PrimitiveCall) :
    (buildActThree P).run s = ⟨.ok act, s', t⟩
      ↔ ∃ k re, ∃ c : ByteArr (publicKeySize + macSize), ∃ tag : ByteArr macSize,
        s.tempK2 = some k ∧ s.remoteEphemeral = some re
        ∧ let key := (S.serialize (S.publicKey s.localStatic)).toList
          let dh := (S.ecdh s.localStatic re).toList
          let keys := P.twoKeys s.ck dh
          let h := mixed P s.h c.toList
          P.encrypt k (encodeNonce 1) s.h.toList key = some c.toList
          ∧ P.encrypt keys.2 (encodeNonce 0) h.toList [] = some tag.toList
          ∧ act = staticAct c tag
          ∧ s' = { s with state := .complete, ck := keys.1, h := h }
          ∧ t = [.sealing k (encodeNonce 1) s.h.toList key c.toList, .hkdf s.ck dh,
              .sealing keys.2 (encodeNonce 0) h.toList [] tag.toList] := by
  unfold buildActThree mixHash
  simp only [Method.run_get_bind]
  constructor
  · -- Each value that is expected or sealed is there, since the run did not panic on it.
    intro hrun
    rcases hk : s.tempK2 with _ | k
    · simp only [hk, Outcome.expect, Method.run_lift_panicked_bind, Return.mk.injEq, reduceCtorEq,
        false_and] at hrun
    simp only [hk, Outcome.expect_some, Method.run_lift_ok_bind, run_encryptWithAd_bind] at hrun
    rcases hc : P.encrypt k (encodeNonce 1) s.h.toList
      (S.serialize (S.publicKey s.localStatic)).toList with _ | c
    · simp only [hc, Return.mk.injEq, reduceCtorEq, false_and] at hrun
    rcases hre : s.remoteEphemeral with _ | re
    · simp only [hc, hre, Outcome.expect, Method.run_modify_bind, Method.run_lift_panicked_bind,
        Return.after, Return.mk.injEq, reduceCtorEq, false_and] at hrun
    simp only [hc, hre, Outcome.expect_some, Method.run_lift_ok_bind, Method.run_modify_bind,
      run_hkdfTwoKeys_bind, Method.run_get_bind, run_encryptWithAd_bind] at hrun
    rcases ht : P.encrypt (P.twoKeys s.ck (S.ecdh s.localStatic re).toList).2 (encodeNonce 0)
      (mixed P s.h c).toList [] with _ | t
    · simp only [ht, Return.after, Return.mk.injEq, reduceCtorEq, false_and] at hrun
    -- Both ciphertexts are copied into the act, which needs their lengths to be right.
    by_cases hclen : c.length = publicKeySize + macSize
    · rcases Slice.exists_toList _ c hclen with ⟨c, rfl⟩
      by_cases htlen : t.length = macSize
      · rcases Slice.exists_toList _ t htlen with ⟨tag, rfl⟩
        simp only [ht, Slice.copyInto_toList, Method.run_lift_ok_bind, Method.run_modify_bind,
          Method.run_pure, Return.after, Return.mk.injEq, Outcome.ok.injEq] at hrun
        rcases hrun with ⟨rfl, rfl, rfl⟩
        exact ⟨k, re, c, tag, rfl, rfl, hc, ht, rfl, by rw [hk], rfl⟩
      · simp only [ht, Slice.copyInto_toList, Slice.copyInto_of_ne _ _ htlen,
          Method.run_lift_ok_bind, Method.run_lift_panicked_bind, Return.after, Return.mk.injEq,
          reduceCtorEq, false_and] at hrun
    · simp only [ht, Slice.copyInto_of_ne _ _ hclen, Method.run_lift_panicked_bind, Return.after,
        Return.mk.injEq, reduceCtorEq, false_and] at hrun
  -- Conversely, the run goes through step by step.
  · rintro ⟨k, re, c, tag, hk, hre, hc, htag, rfl, rfl, rfl⟩
    simp only [hk, hre, Outcome.expect_some, Method.run_lift_ok_bind, run_encryptWithAd_bind, hc,
      Method.run_modify_bind, run_hkdfTwoKeys_bind, Method.run_get_bind, htag,
      Slice.copyInto_toList, Method.run_pure]
    rfl

/-- A successful act three, read. -/
theorem processActThree_ok (act : ByteArr actThreeSize) (s s' : NoiseHandshake S)
    (rs : S.PublicKey) (t : List PrimitiveCall) :
    (processActThree P act).run s = ⟨.ok rs, s', t⟩
      ↔ s.state = .responderAwaitingActThree ∧ act.head = version
        ∧ ∃ k rsBytes p, s.tempK2 = some k ∧ S.fromSlice rsBytes = some rs
        ∧ let dh := (S.ecdh s.localEphemeral rs).toList
          let keys := P.twoKeys s.ck dh
          let h := mixed P s.h (encryptedKey act)
          P.decrypt k (encodeNonce 1) s.h.toList (encryptedKey act) = some rsBytes
          ∧ P.decrypt keys.2 (encodeNonce 0) h.toList (finalTag act) = some p
          ∧ s' = { s with state := .complete, ck := keys.1, h := h, remoteStatic := some rs }
          ∧ t = [.opening k (encodeNonce 1) s.h.toList (encryptedKey act) (some rsBytes),
              .hkdf s.ck dh, .opening keys.2 (encodeNonce 0) h.toList (finalTag act) (some p)] := by
  unfold processActThree mixHash
  simp only [Method.run_get_bind]
  constructor
  · -- No check rejected the message, and no tag failed to open.
    intro hrun
    by_cases hstate : s.state = .responderAwaitingActThree
    · by_cases hversion : act.head = version
      · simp only [hstate, hversion, Outcome.rejectIf_of_not, ne_eq, not_true, not_false_iff,
          Method.run_lift_ok_bind] at hrun
        -- The key of act two opens the static key, which then has to parse.
        rcases hk : s.tempK2 with _ | k
        · simp only [hk, Outcome.expect, Method.run_lift_panicked_bind, Return.mk.injEq,
            reduceCtorEq, false_and] at hrun
        simp only [hk, Outcome.expect_some, Method.run_lift_ok_bind, run_decryptWithAd_bind] at hrun
        rcases hc : P.decrypt k (encodeNonce 1) s.h.toList (encryptedKey act) with _ | rsBytes
        · simp only [hc, Return.mk.injEq, reduceCtorEq, false_and] at hrun
        rcases hparse : S.fromSlice rsBytes with _ | rs'
        · simp only [hc, hparse, Outcome.okOr_none, Method.run_lift_err_bind, Return.after,
            Return.mk.injEq, reduceCtorEq, false_and] at hrun
        simp only [hc, hparse, Outcome.okOr_some, Method.run_lift_ok_bind, Method.run_modify_bind,
          run_hkdfTwoKeys_bind, Method.run_get_bind, run_decryptWithAd_bind] at hrun
        -- What is derived from the static key opens the tag.
        rcases ht : P.decrypt (P.twoKeys s.ck (S.ecdh s.localEphemeral rs').toList).2
          (encodeNonce 0) (mixed P s.h (encryptedKey act)).toList (finalTag act) with _ | p
        · simp only [ht, Return.after, Return.mk.injEq, reduceCtorEq, false_and] at hrun
        simp only [ht, Method.run_pure, Return.after, Return.mk.injEq, Outcome.ok.injEq] at hrun
        rcases hrun with ⟨rfl, rfl, rfl⟩
        exact ⟨hstate, hversion, k, rsBytes, p, rfl, hparse, hc, ht, by rw [hk], rfl⟩
      · simp only [hstate, hversion, Outcome.rejectIf, ne_eq, not_true, not_false_iff, if_true,
          if_false, Method.run_lift_ok_bind, Method.run_lift_err_bind, Return.mk.injEq,
          reduceCtorEq, false_and] at hrun
    · simp only [hstate, Outcome.rejectIf, ne_eq, not_false_iff, if_true, Method.run_lift_err_bind,
        Return.mk.injEq, reduceCtorEq, false_and] at hrun
  · rintro ⟨hstate, hversion, k, rsBytes, p, hk, hparse, hc, ht, rfl, rfl⟩
    simp only [hstate, hversion, Outcome.rejectIf_of_not, ne_eq, not_true, not_false_iff,
      Method.run_lift_ok_bind, hk, Outcome.expect_some, run_decryptWithAd_bind, hc, hparse,
      Outcome.okOr_some, Method.run_modify_bind, run_hkdfTwoKeys_bind, Method.run_get_bind, ht,
      Method.run_pure]
    rfl

/-- The keys of a party that has completed the handshake. -/
theorem run_getFinalKeys (s : NoiseHandshake S) (h : s.state = .complete) :
    (getFinalKeys P).run s
      = ⟨.ok (match s.role with
          | .initiator => P.twoKeys s.ck []
          | .responder => (P.twoKeys s.ck []).swap), s, [.hkdf s.ck []]⟩ := by
  unfold getFinalKeys
  rw [Method.run_get_bind, Outcome.rejectIf_of_not _ _ (not_not.mpr h), Method.run_lift_ok_bind,
    run_hkdfTwoKeys_bind]
  cases s.role with
  | initiator => rfl
  | responder => rfl

/-- The cipher of a party that has completed the handshake. -/
theorem run_intoCipher (s : NoiseHandshake S) (keys : Key × Key) (t : List PrimitiveCall)
    (h : (getFinalKeys P).run s = ⟨.ok keys, s, t⟩) :
    (intoCipher P).run s = ⟨.ok (NoiseCipher.new keys.1 keys.2 s.ck), s, t⟩ := by
  unfold intoCipher
  rw [Method.run_bind_of_ok _ _ _ _ _ _ h, Method.run_get_bind, Method.run_pure]
  unfold Return.after
  rw [List.append_nil]

/-- What a party never changes: its role and its static key. -/
def identity (s : NoiseHandshake S) : Role × S.SecretKey := (s.role, s.localStatic)

section

open Method

variable (P)

theorem writeEphemeral_keeps (remote : NoiseHandshake S → Option S.PublicKey)
    (keep : Option Key → Key → Option Key) (next : HandshakeState) :
    (writeEphemeral P remote keep next).Keeps identity := by
  refine keeps_bind _ _ _ (keeps_get _) (fun s => ?_)
  refine keeps_bind _ _ _ (keeps_modify _ _ (fun _ => rfl)) (fun _ => ?_)
  refine keeps_bind _ _ _ (keeps_lift _ _) (fun re => ?_)
  refine keeps_bind _ _ _ (hkdfTwoKeys_keeps _ _ _) (fun keys => ?_)
  refine keeps_bind _ _ _ (keeps_modify _ _ (fun _ => rfl)) (fun _ => ?_)
  refine keeps_bind _ _ _ (keeps_get _) (fun s => ?_)
  refine keeps_bind _ _ _ (encryptWithAd_keeps _ _ _ _ _) (fun c => ?_)
  refine keeps_bind _ _ _ (keeps_modify _ _ (fun _ => rfl)) (fun _ => ?_)
  refine keeps_bind _ _ _ (keeps_lift _ _) (fun tag => ?_)
  exact keeps_bind _ _ _ (keeps_modify _ _ (fun _ => rfl)) (fun _ => keeps_pure _ _)

theorem readEphemeral_keeps (expected : HandshakeState) (secret : NoiseHandshake S → S.SecretKey)
    (keep : Option Key → Key → Option Key) (badVersion : UInt8 → NoiseError)
    (badPubkey badTag : NoiseError) (act : ByteArr 50) :
    (readEphemeral P expected secret keep badVersion badPubkey badTag act).Keeps identity := by
  refine keeps_bind _ _ _ (keeps_get _) (fun s => ?_)
  refine keeps_bind _ _ _ (keeps_lift _ _) (fun _ => ?_)
  refine keeps_bind _ _ _ (keeps_lift _ _) (fun _ => ?_)
  refine keeps_bind _ _ _ (keeps_lift _ _) (fun re => ?_)
  refine keeps_bind _ _ _ (keeps_modify _ _ (fun _ => rfl)) (fun _ => ?_)
  refine keeps_bind _ _ _ (keeps_modify _ _ (fun _ => rfl)) (fun _ => ?_)
  refine keeps_bind _ _ _ (hkdfTwoKeys_keeps _ _ _) (fun keys => ?_)
  refine keeps_bind _ _ _ (keeps_modify _ _ (fun _ => rfl)) (fun _ => ?_)
  refine keeps_bind _ _ _ (keeps_get _) (fun s => ?_)
  refine keeps_bind _ _ _ (keeps_mapErr _ _ _ (decryptWithAd_keeps _ _ _ _ _)) (fun _ => ?_)
  exact keeps_modify _ _ (fun _ => rfl)

theorem getActOne_keeps : (getActOne P).Keeps (identity (S := S)) := by
  refine keeps_bind _ _ _ (keeps_get _) (fun s => ?_)
  exact keeps_bind _ _ _ (keeps_lift _ _) (fun _ => writeEphemeral_keeps P _ _ _)

theorem processActOne_keeps (act : ByteArr actOneSize) :
    (processActOne P act).Keeps (identity (S := S)) :=
  keeps_bind _ _ _ (readEphemeral_keeps P _ _ _ _ _ _ act) (fun _ => writeEphemeral_keeps P _ _ _)

theorem buildActThree_keeps : (buildActThree P).Keeps (identity (S := S)) := by
  refine keeps_bind _ _ _ (keeps_get _) (fun s => ?_)
  refine keeps_bind _ _ _ (keeps_lift _ _) (fun k => ?_)
  refine keeps_bind _ _ _ (encryptWithAd_keeps _ _ _ _ _) (fun c => ?_)
  refine keeps_bind _ _ _ (keeps_modify _ _ (fun _ => rfl)) (fun _ => ?_)
  refine keeps_bind _ _ _ (keeps_lift _ _) (fun re => ?_)
  refine keeps_bind _ _ _ (hkdfTwoKeys_keeps _ _ _) (fun keys => ?_)
  refine keeps_bind _ _ _ (keeps_modify _ _ (fun _ => rfl)) (fun _ => ?_)
  refine keeps_bind _ _ _ (keeps_get _) (fun s => ?_)
  refine keeps_bind _ _ _ (encryptWithAd_keeps _ _ _ _ _) (fun t => ?_)
  refine keeps_bind _ _ _ (keeps_lift _ _) (fun encrypted => ?_)
  refine keeps_bind _ _ _ (keeps_lift _ _) (fun tag => ?_)
  exact keeps_bind _ _ _ (keeps_modify _ _ (fun _ => rfl)) (fun _ => keeps_pure _ _)

theorem processActTwo_keeps (act : ByteArr actTwoSize) :
    (processActTwo P act).Keeps (identity (S := S)) :=
  keeps_bind _ _ _ (readEphemeral_keeps P _ _ _ _ _ _ act) (fun _ => buildActThree_keeps P)

theorem getFinalKeys_keeps : (getFinalKeys P).Keeps (identity (S := S)) := by
  refine keeps_bind _ _ _ (keeps_get _) (fun s => ?_)
  refine keeps_bind _ _ _ (keeps_lift _ _) (fun _ => ?_)
  refine keeps_bind _ _ _ (hkdfTwoKeys_keeps _ _ _) (fun keys => ?_)
  cases s.role with
  | initiator => exact keeps_pure _ _
  | responder => exact keeps_pure _ _

theorem processActThree_keeps (act : ByteArr actThreeSize) :
    (processActThree P act).Keeps (identity (S := S)) := by
  refine keeps_bind _ _ _ (keeps_get _) (fun s => ?_)
  refine keeps_bind _ _ _ (keeps_lift _ _) (fun _ => ?_)
  refine keeps_bind _ _ _ (keeps_lift _ _) (fun _ => ?_)
  refine keeps_bind _ _ _ (keeps_lift _ _) (fun k => ?_)
  refine keeps_bind _ _ _ (keeps_mapErr _ _ _ (decryptWithAd_keeps _ _ _ _ _)) (fun rsBytes => ?_)
  refine keeps_bind _ _ _ (keeps_lift _ _) (fun rs => ?_)
  refine keeps_bind _ _ _ (keeps_modify _ _ (fun _ => rfl)) (fun _ => ?_)
  refine keeps_bind _ _ _ (keeps_modify _ _ (fun _ => rfl)) (fun _ => ?_)
  refine keeps_bind _ _ _ (hkdfTwoKeys_keeps _ _ _) (fun keys => ?_)
  refine keeps_bind _ _ _ (keeps_modify _ _ (fun _ => rfl)) (fun _ => ?_)
  refine keeps_bind _ _ _ (keeps_get _) (fun s => ?_)
  refine keeps_bind _ _ _ (keeps_mapErr _ _ _ (decryptWithAd_keeps _ _ _ _ _)) (fun _ => ?_)
  exact keeps_bind _ _ _ (keeps_modify _ _ (fun _ => rfl)) (fun _ => keeps_pure _ _)

end

end NoiseHandshake

end

end Noise

end LnGossipSim
