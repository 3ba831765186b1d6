import LnGossipSim.Noise.Handshake

/-!
# Handshake Agreement

What the two parties agree on when the handshake succeeds, first with the three
acts delivered unmodified and then over a channel that anyone may write to.

When the acts are delivered, the parties do the same computation in different
words. Each act is written from a chaining key and a hash the reader has too,
and `write_read` and `build_process` say that both end up with the same ones.

When they are not, nothing ties the two histories together but the tags.
Agreement is therefore derived backwards: a tag that opens was sealed under the
same temporary key and the same transcript hash, and the temporary key pins the
chaining key and the shared secret it was derived from. The calls that led
there, rejected ones included, are arbitrary and play no part beyond that.

## Main definitions

* `AeadUse`: The use of the cipher in one call.
* `CollisionFree`: What the primitives are assumed to do in one run.
* `HandshakeOp`: The calls on a party.

## Theorems

* `write_read`, `build_process`: A delivered act leaves the parties alike.
* `handshake_agreement`: The honest handshake succeeds and pairs the ciphers.
* `actThree_agrees`, `actTwo_agrees`: An accepted act implies agreement.
* `session_agreement`: Agreement over a hostile channel.
-/

namespace LnGossipSim

namespace Noise

open Bolt NoiseHandshake

/-- The use of the cipher in one call. -/
structure AeadUse where
  key : Key
  nonce : ByteArr 12
  ad : Bytes
  ciphertext : Bytes
  deriving DecidableEq

namespace PrimitiveCall

/-- What a call sealed. -/
def sealed? : PrimitiveCall → Option AeadUse
  | .sealing key nonce ad _ ciphertext => some ⟨key, nonce, ad, ciphertext⟩
  | _ => none

/-- What a call opened. -/
def opened? : PrimitiveCall → Option AeadUse
  | .opening key nonce ad ciphertext (some _) => some ⟨key, nonce, ad, ciphertext⟩
  | _ => none

/-- What a call derived keys from. -/
def derived? : PrimitiveCall → Option (Key × Bytes)
  | .hkdf salt ikm => some (salt, ikm)
  | _ => none

end PrimitiveCall

/-- What the primitives are assumed to do in one run: a ciphertext sealed in it
    opens only under the key, nonce and associated data it was sealed with, and
    different inputs derive different second keys. -/
structure CollisionFree (P : Primitives) (run : List PrimitiveCall) : Prop where
  opens : ∀ s ∈ run.filterMap PrimitiveCall.sealed?, ∀ o ∈ run.filterMap PrimitiveCall.opened?,
    o.ciphertext = s.ciphertext → o = s
  derives : ∀ d ∈ run.filterMap PrimitiveCall.derived?,
    ∀ e ∈ run.filterMap PrimitiveCall.derived?,
      (P.twoKeys d.1 d.2).2 = (P.twoKeys e.1 e.2).2 → d = e

/-- A call on a party. -/
inductive HandshakeOp where
  | getActOne
  | processActOne (act : ByteArr actOneSize)
  | processActTwo (act : ByteArr actTwoSize)
  | processActThree (act : ByteArr actThreeSize)
  | getFinalKeys

/-- The method called, without what it returns. -/
def HandshakeOp.act {S : Secp256k1} (P : Primitives) :
    HandshakeOp → NoiseMethod (NoiseHandshake S) NoiseError Unit
  | .getActOne => do
    let _ ← NoiseHandshake.getActOne P
  | .processActOne act => do
    let _ ← NoiseHandshake.processActOne P act
  | .processActTwo act => do
    let _ ← NoiseHandshake.processActTwo P act
  | .processActThree act => do
    let _ ← NoiseHandshake.processActThree P act
  | .getFinalKeys => do
    let _ ← NoiseHandshake.getFinalKeys P

variable {S : Secp256k1} {P : Primitives}

/-- Sealing a message of known length. -/
theorem OpensSealed.exists_ciphertext (hP : P.OpensSealed) (key : Key) (nonce : ByteArr 12)
    (ad plaintext : Bytes) (n : Nat) (hmax : plaintext.length ≤ maxMessageSize)
    (hn : plaintext.length + macSize = n) :
    ∃ c : ByteArr n, P.encrypt key nonce ad plaintext = some c.toList
      ∧ P.decrypt key nonce ad c.toList = some plaintext := by
  rcases hP key nonce ad plaintext hmax with ⟨c, hseal, hlen, hopen⟩
  rcases Slice.exists_toList n c (hlen.trans hn) with ⟨v, rfl⟩
  exact ⟨v, hseal, hopen⟩

/-- An ephemeral key written from a chaining key and hash that the reader has
    too, with a secret they share, is read, and leaves them alike. -/
theorem write_read (hP : P.OpensSealed) (hkeys : ∀ k : S.PublicKey, S.KeyReparses k)
    (remote : NoiseHandshake S → Option S.PublicKey) (keep keep' : Option Key → Key → Option Key)
    (next expected : HandshakeState) (secret : NoiseHandshake S → S.SecretKey)
    (badVersion : UInt8 → NoiseError) (badPubkey badTag : NoiseError) (w r : NoiseHandshake S)
    (re : S.PublicKey) (hremote : remote w = some re) (hstate : r.state = expected)
    (hck : w.ck = r.ck) (hh : w.h = r.h)
    (hdh : S.ecdh w.localEphemeral re = S.ecdh (secret r) (S.publicKey w.localEphemeral)) :
    ∃ act ck h k,
      (∃ t, (writeEphemeral P remote keep next).run w
        = ⟨.ok act, { w with state := next, ck := ck, h := h, tempK2 := keep w.tempK2 k }, t⟩)
      ∧ ∃ t, (readEphemeral P expected secret keep' badVersion badPubkey badTag act).run r
        = ⟨.ok (), { r with ck := ck, h := h, tempK2 := keep' r.tempK2 k,
                            remoteEphemeral := some (S.publicKey w.localEphemeral) }, t⟩ := by
  -- The tag the writer seals under the key it derived.
  rcases OpensSealed.exists_ciphertext hP (P.twoKeys w.ck (S.ecdh w.localEphemeral re).toList).2
    (encodeNonce 0) (mixed P w.h (S.serialize (S.publicKey w.localEphemeral)).toList).toList []
    macSize (Nat.zero_le _) (Nat.zero_add _) with ⟨tag, hseal, hopen⟩
  have hwrite := (writeEphemeral_ok remote keep next w _ _ _).mpr
    ⟨re, tag, hremote, hseal, rfl, rfl, rfl⟩
  -- In the reader's terms, it is the tag the reader opens.
  rw [hck, hh, hdh] at hwrite hopen
  have hread := (readEphemeral_ok expected secret keep' badVersion badPubkey badTag
    (keyAct (S.serialize (S.publicKey w.localEphemeral)) tag) r _ _).mpr
    ⟨hstate, rfl, S.publicKey w.localEphemeral, [], by rw [keyBytes_keyAct]; exact hkeys _,
      by rw [keyBytes_keyAct, tagBytes_keyAct]; exact hopen, rfl, rfl⟩
  rw [keyBytes_keyAct, tagBytes_keyAct] at hread
  exact ⟨_, _, _, _, ⟨_, hwrite⟩, _, hread⟩

/-- Act three written by a party whose temporary key, chaining key and hash the
    reader has too, with a secret they share, is accepted, and leaves them
    alike. -/
theorem build_process (hP : P.OpensSealed) (hkeys : ∀ k : S.PublicKey, S.KeyReparses k)
    (i r : NoiseHandshake S) (re : S.PublicKey) (k : Key) (hik : i.tempK2 = some k)
    (hrk : r.tempK2 = some k) (hre : i.remoteEphemeral = some re)
    (hstate : r.state = .responderAwaitingActThree) (hck : i.ck = r.ck) (hh : i.h = r.h)
    (hdh : S.ecdh i.localStatic re = S.ecdh r.localEphemeral (S.publicKey i.localStatic)) :
    ∃ act ck h,
      (∃ t, (buildActThree P).run i
        = ⟨.ok act, { i with state := .complete, ck := ck, h := h }, t⟩)
      ∧ ∃ t, (processActThree P act).run r
        = ⟨.ok (S.publicKey i.localStatic),
            { r with state := .complete, ck := ck, h := h,
                     remoteStatic := some (S.publicKey i.localStatic) }, t⟩ := by
  have hkey : (S.serialize (S.publicKey i.localStatic)).toList.length = publicKeySize :=
    List.Vector.toList_length _
  -- The static key is sealed under the temporary key of act two.
  rcases OpensSealed.exists_ciphertext hP k (encodeNonce 1) i.h.toList
    (S.serialize (S.publicKey i.localStatic)).toList (publicKeySize + macSize)
    (by rw [hkey]; decide) (by rw [hkey]) with ⟨c, hc, hcopen⟩
  -- The tag is sealed under a key derived from the static key.
  rcases OpensSealed.exists_ciphertext hP (P.twoKeys i.ck (S.ecdh i.localStatic re).toList).2
    (encodeNonce 0) (mixed P i.h c.toList).toList [] macSize (Nat.zero_le _) (Nat.zero_add _) with
    ⟨tag, htag, htopen⟩
  have hbuild := (buildActThree_ok i _ _ _).mpr
    ⟨k, re, c, tag, hik, hre, hc, htag, rfl, rfl, rfl⟩
  -- Both open for the reader, whose chaining key and hash are the same.
  rw [hh] at hcopen
  rw [hck, hh, hdh] at hbuild htopen
  have hprocess := (processActThree_ok (staticAct c tag) r _ (S.publicKey i.localStatic) _).mpr
    ⟨hstate, rfl, k, _, [], hrk, hkeys _, by rw [encryptedKey_staticAct]; exact hcopen,
      by rw [encryptedKey_staticAct, finalTag_staticAct]; exact htopen, rfl, rfl⟩
  rw [encryptedKey_staticAct] at hprocess
  exact ⟨_, _, _, ⟨_, hbuild⟩, _, hprocess⟩

/-- The honest handshake. All three acts succeed, the responder learns the
    initiator's static key, and the parties end up with the same chaining key
    and hash, swapped session keys and paired ciphers. -/
theorem handshake_agreement (hP : P.OpensSealed) (hkeys : ∀ k : S.PublicKey, S.KeyReparses k)
    (hecdh : S.EcdhCommutes) (is ie rs re : S.SecretKey) :
    ∃ act1 act2 act3 i₁ i₂ r₁ r₂ a b ci cr,
      (∃ t, (getActOne P).run (newInitiator P is ie (S.publicKey rs)) = ⟨.ok act1, i₁, t⟩)
      ∧ (∃ t, (processActOne P act1).run (newResponder P rs re) = ⟨.ok act2, r₁, t⟩)
      ∧ (∃ t, (processActTwo P act2).run i₁ = ⟨.ok act3, i₂, t⟩)
      ∧ (∃ t, (processActThree P act3).run r₁ = ⟨.ok (S.publicKey is), r₂, t⟩)
      ∧ i₂.ck = r₂.ck ∧ i₂.h = r₂.h
      ∧ (∃ t, (getFinalKeys P).run i₂ = ⟨.ok (a, b), i₂, t⟩)
      ∧ (∃ t, (getFinalKeys P).run r₂ = ⟨.ok (b, a), r₂, t⟩)
      ∧ (∃ t, (intoCipher P).run i₂ = ⟨.ok ci, i₂, t⟩)
      ∧ (∃ t, (intoCipher P).run r₂ = ⟨.ok cr, r₂, t⟩)
      ∧ ci.split.1 = cr.split.2 ∧ cr.split.1 = ci.split.2 := by
  -- Act one, from the state both derive from the responder's static key.
  rcases write_read hP hkeys NoiseHandshake.remoteStatic (fun old _ => old) (fun old _ => old)
    .initiatorAwaitingActTwo .responderStart NoiseHandshake.localStatic .actOneBadVersion
    .actOneBadPubkey .actOneBadTag (newInitiator P is ie (S.publicKey rs)) (newResponder P rs re)
    (S.publicKey rs) rfl rfl rfl rfl (hecdh ie rs) with
    ⟨act1, ck₁, h₁, _, ⟨t₁, hwrite₁⟩, t₂, hread₁⟩
  -- Act two, from the states that act one left.
  rcases write_read hP hkeys NoiseHandshake.remoteEphemeral (fun _ k => some k)
    (fun _ k => some k) .responderAwaitingActThree .initiatorAwaitingActTwo
    NoiseHandshake.localEphemeral .actTwoBadVersion .actTwoBadPubkey .actTwoBadTag
    { newResponder P rs re with ck := ck₁, h := h₁, remoteEphemeral := some (S.publicKey ie) }
    { newInitiator P is ie (S.publicKey rs) with
      state := .initiatorAwaitingActTwo, ck := ck₁, h := h₁ }
    (S.publicKey ie) rfl rfl rfl rfl (hecdh re ie) with
    ⟨act2, ck₂, h₂, k₂, ⟨t₃, hwrite₂⟩, t₄, hread₂⟩
  -- Act three, from the states that act two left.
  rcases build_process hP hkeys
    { newInitiator P is ie (S.publicKey rs) with
      state := .initiatorAwaitingActTwo, ck := ck₂, h := h₂, tempK2 := some k₂,
      remoteEphemeral := some (S.publicKey re) }
    { newResponder P rs re with
      state := .responderAwaitingActThree, ck := ck₂, h := h₂, tempK2 := some k₂,
      remoteEphemeral := some (S.publicKey ie) }
    (S.publicKey re) k₂ rfl rfl rfl rfl rfl rfl (hecdh is re) with
    ⟨act3, ck₃, h₃, ⟨t₅, hbuild⟩, t₆, hprocess⟩
  -- The acts are the parts just proved, run one after the other.
  have hact1 : (getActOne P).run (newInitiator P is ie (S.publicKey rs)) = _ := hwrite₁
  have hact2 := (Method.bind_eq_ok _ (fun _ => buildActTwo P) _ _ _ _).mpr
    ⟨_, _, _, _, hread₁, hwrite₂, rfl⟩
  have hact3 := (Method.bind_eq_ok _ (fun _ => buildActThree P) _ _ _ _).mpr
    ⟨_, _, _, _, hread₂, hbuild, rfl⟩
  -- Both are complete with the same chaining key, and the role decides the order of keys.
  have hfinal₁ := run_getFinalKeys (P := P)
    { newInitiator P is ie (S.publicKey rs) with
      state := .complete, ck := ck₃, h := h₃, tempK2 := some k₂,
      remoteEphemeral := some (S.publicKey re) } rfl
  have hfinal₂ := run_getFinalKeys (P := P)
    { newResponder P rs re with
      state := .complete, ck := ck₃, h := h₃, tempK2 := some k₂,
      remoteEphemeral := some (S.publicKey ie), remoteStatic := some (S.publicKey is) } rfl
  have hcipher₁ := run_intoCipher _ _ _ hfinal₁
  have hcipher₂ := run_intoCipher _ _ _ hfinal₂
  exact ⟨act1, act2, act3, _, _, _, _, _, _, _, _, ⟨_, hact1⟩, ⟨_, hact2⟩, ⟨_, hact3⟩,
    ⟨_, hprocess⟩, rfl, rfl, ⟨_, hfinal₁⟩, ⟨_, hfinal₂⟩, ⟨_, hcipher₁⟩, ⟨_, hcipher₂⟩, rfl, rfl⟩

/-- The honest handshake between two parties with small keys. -/
theorem handshake_agreement_transparent :
    let key : UInt8 → Secp256k1.transparent.SecretKey := List.Vector.replicate 32
    let known := Secp256k1.transparent.publicKey (key 3)
    ∃ act1 act2 act3 i₁ i₂ r₁ r₂,
      (∃ t, (getActOne .transparent).run (newInitiator .transparent (key 1) (key 2) known)
        = ⟨.ok act1, i₁, t⟩)
      ∧ (∃ t, (processActOne .transparent act1).run (newResponder .transparent (key 3) (key 5))
        = ⟨.ok act2, r₁, t⟩)
      ∧ (∃ t, (processActTwo .transparent act2).run i₁ = ⟨.ok act3, i₂, t⟩)
      ∧ ∃ t, (processActThree .transparent act3).run r₁
        = ⟨.ok (Secp256k1.transparent.publicKey (key 1)), r₂, t⟩ := by
  intro key known
  rcases handshake_agreement Primitives.transparent_opensSealed
      Secp256k1.transparent_parsesSerialized.key Secp256k1.transparent_ecdhCommutes
      (key 1) (key 2) (key 3) (key 5) with
    ⟨act1, act2, act3, i₁, i₂, r₁, r₂, _, _, _, _, h₁, h₂, h₃, h₄, _⟩
  exact ⟨act1, act2, act3, i₁, i₂, r₁, r₂, h₁, h₂, h₃, h₄⟩

/-- In such a run, what opened was sealed in the same use of the cipher. -/
theorem CollisionFree.same_use (run : List PrimitiveCall) (h : CollisionFree P run)
    (key key' : Key) (nonce nonce' : ByteArr 12) (ad ad' p p' c : Bytes)
    (hseal : .sealing key nonce ad p c ∈ run)
    (hopen : .opening key' nonce' ad' c (some p') ∈ run) : key' = key ∧ ad' = ad := by
  have hs := List.mem_filterMap.mpr ⟨_, hseal, (rfl : PrimitiveCall.sealed? _ = some _)⟩
  have ho := List.mem_filterMap.mpr ⟨_, hopen, (rfl : PrimitiveCall.opened? _ = some _)⟩
  have hsame := h.opens _ hs _ ho rfl
  rw [AeadUse.mk.injEq] at hsame
  exact ⟨hsame.1, hsame.2.2.1⟩

/-- In such a run, equal second keys were derived from equal inputs. -/
theorem CollisionFree.same_inputs (run : List PrimitiveCall) (h : CollisionFree P run)
    (salt salt' : Key) (ikm ikm' : Bytes) (hd : .hkdf salt ikm ∈ run)
    (he : .hkdf salt' ikm' ∈ run) (hkey : (P.twoKeys salt ikm).2 = (P.twoKeys salt' ikm').2) :
    salt = salt' ∧ ikm = ikm' := by
  have hd' := List.mem_filterMap.mpr ⟨_, hd, (rfl : PrimitiveCall.derived? _ = some _)⟩
  have he' := List.mem_filterMap.mpr ⟨_, he, (rfl : PrimitiveCall.derived? _ = some _)⟩
  exact Prod.mk.inj (h.derives _ hd' _ he' hkey)

/-- A tag that one party sealed and the other opened, each under a key it had
    derived, ties the two derivations and the two hashes together. -/
theorem tag_agrees (run : List PrimitiveCall) (h : CollisionFree P run) (ck ck' : Key)
    (dh dh' : Bytes) (nonce : ByteArr 12) (hash hash' : Key) (p p' tag : Bytes)
    (hd : .hkdf ck dh ∈ run) (hd' : .hkdf ck' dh' ∈ run)
    (hseal : .sealing (P.twoKeys ck dh).2 nonce hash.toList p tag ∈ run)
    (hopen : .opening (P.twoKeys ck' dh').2 nonce hash'.toList tag (some p') ∈ run) :
    P.twoKeys ck dh = P.twoKeys ck' dh' ∧ hash = hash' := by
  rcases h.same_use _ _ _ _ _ _ _ _ _ _ hseal hopen with ⟨hkey, hhash⟩
  rcases h.same_inputs _ _ _ _ _ hd hd' hkey.symm with ⟨rfl, rfl⟩
  exact ⟨rfl, (List.Vector.toList_injective hhash).symm⟩

/-- An act two that the responder built and the initiator accepts: right after
    their last steps the parties have the same temporary key, chaining key and
    hash. -/
theorem actTwo_agrees (i r i' r' : NoiseHandshake S) (act1 : ByteArr actOneSize)
    (act2 : ByteArr actTwoSize) (ti tr run : List PrimitiveCall)
    (hr : (processActOne P act1).run r = ⟨.ok act2, r', tr⟩)
    (hi : (verifyActTwo P act2).run i = ⟨.ok (), i', ti⟩) (hrun : CollisionFree P run)
    (hti : ti ⊆ run) (htr : tr ⊆ run) :
    i'.tempK2 = r'.tempK2 ∧ i'.ck = r'.ck ∧ i'.h = r'.h := by
  rcases (Method.bind_eq_ok _ _ _ _ _ _).mp hr with ⟨_, r₁, t₁, t₂, _, hbuild, rfl⟩
  rcases (writeEphemeral_ok _ _ _ _ _ _ _).mp hbuild with ⟨re, tag, _, hseal, rfl, rfl, rfl⟩
  rcases (readEphemeral_ok _ _ _ _ _ _ _ _ _ _).mp hi with ⟨_, _, ie, p, _, _, rfl, rfl⟩
  rw [tagBytes_keyAct] at hti ⊢
  -- The tag ties the chaining keys and the hashes of the two steps together.
  rcases tag_agrees run hrun _ _ _ _ _ _ _ _ _ _
      (htr (List.mem_append_right _ (List.mem_cons_self)))
      (hti List.mem_cons_self)
      (htr (List.mem_append_right _ (List.mem_cons_of_mem _ List.mem_cons_self)))
      (hti (List.mem_cons_of_mem _ List.mem_cons_self)) with ⟨hkeys, hhash⟩
  dsimp only
  rw [hkeys, hhash]
  exact ⟨rfl, rfl, rfl⟩

/-- An act three that the initiator built and the responder accepts: the
    parties have the same chaining key and hash, and the responder has learned
    the initiator's static key. -/
theorem actThree_agrees (hP : P.OpensSealed) (hkeys : ∀ k : S.PublicKey, S.KeyReparses k)
    (i r i' r' : NoiseHandshake S) (act3 : ByteArr actThreeSize) (pk : S.PublicKey)
    (ti tr run : List PrimitiveCall) (hi : (buildActThree P).run i = ⟨.ok act3, i', ti⟩)
    (hr : (processActThree P act3).run r = ⟨.ok pk, r', tr⟩) (hrun : CollisionFree P run)
    (hti : ti ⊆ run) (htr : tr ⊆ run) :
    i'.ck = r'.ck ∧ i'.h = r'.h ∧ pk = S.publicKey i.localStatic
      ∧ i'.state = .complete ∧ r'.state = .complete := by
  rcases (buildActThree_ok _ _ _ _).mp hi with ⟨k, re, c, tag, _, _, hc, _, rfl, rfl, rfl⟩
  rcases (processActThree_ok _ _ _ _ _).mp hr with
    ⟨_, _, k', rsBytes, p, _, hparse, hopen, _, rfl, rfl⟩
  rw [encryptedKey_staticAct] at hopen htr ⊢
  rw [finalTag_staticAct] at htr
  -- The tag ties the chaining keys and the hashes together.
  rcases tag_agrees run hrun _ _ _ _ _ _ _ _ _ _
      (hti (List.mem_cons_of_mem _ List.mem_cons_self))
      (htr (List.mem_cons_of_mem _ List.mem_cons_self))
      (hti (List.mem_cons_of_mem _ (List.mem_cons_of_mem _ List.mem_cons_self)))
      (htr (List.mem_cons_of_mem _ (List.mem_cons_of_mem _ List.mem_cons_self))) with
    ⟨hfinal, hhash⟩
  -- The encrypted key was sealed in the use it was opened in, so it is the key that was sealed.
  rcases hrun.same_use _ _ _ _ _ _ _ _ _ _ (hti List.mem_cons_self) (htr List.mem_cons_self) with
    ⟨hkey, had⟩
  rcases hP k (encodeNonce 1) i.h.toList (S.serialize (S.publicKey i.localStatic)).toList
    (by rw [List.Vector.toList_length]; decide) with ⟨c', hseal, _, hback⟩
  rw [hc, Option.some.injEq] at hseal
  rw [hkey, had, hseal, hback, Option.some.injEq] at hopen
  rw [← hopen] at hparse
  have hpk := hparse.symm.trans (hkeys _)
  dsimp only
  rw [hfinal, hhash]
  exact ⟨rfl, rfl, Option.some.inj hpk, rfl, rfl⟩

theorem act_keeps (op : HandshakeOp) : (op.act P).Keeps (identity (S := S)) := by
  cases op with
  | getActOne => exact Method.keeps_bind _ _ _ (getActOne_keeps P) (fun _ => Method.keeps_pure _ _)
  | processActOne act =>
      exact Method.keeps_bind _ _ _ (processActOne_keeps P act) (fun _ => Method.keeps_pure _ _)
  | processActTwo act =>
      exact Method.keeps_bind _ _ _ (processActTwo_keeps P act) (fun _ => Method.keeps_pure _ _)
  | processActThree act =>
      exact Method.keeps_bind _ _ _ (processActThree_keeps P act) (fun _ => Method.keeps_pure _ _)
  | getFinalKeys =>
      exact Method.keeps_bind _ _ _ (getFinalKeys_keeps P) (fun _ => Method.keeps_pure _ _)

/-- Whatever a party is called with, it keeps its role and its static key. -/
theorem calls_identity (ops : List HandshakeOp) (s : NoiseHandshake S) :
    identity (Method.calls (HandshakeOp.act P) ops s).state = identity s :=
  Method.calls_invariant _ (fun s' => identity s' = identity s)
    (fun op s' h => (act_keeps op s').trans h) ops s rfl

/-- Agreement over a hostile channel. Whatever the parties were called with
    before, if the responder accepts an act three that the initiator built,
    they agree on everything, and if the initiator accepts an act two that the
    responder built, they agree on all that act two fixes. -/
theorem session_agreement (hP : P.OpensSealed) (hkeys : ∀ k : S.PublicKey, S.KeyReparses k)
    (is ie rs re : S.SecretKey) (known : S.PublicKey) (opsI opsR : List HandshakeOp) :
    let i := Method.calls (HandshakeOp.act P) opsI (newInitiator P is ie known)
    let r := Method.calls (HandshakeOp.act P) opsR (newResponder P rs re)
    (∀ act2 act3 i' ti pk r' tr,
      (processActTwo P act2).run i.state = ⟨.ok act3, i', ti⟩ →
      (processActThree P act3).run r.state = ⟨.ok pk, r', tr⟩ →
      CollisionFree P (i.trace ++ ti ++ (r.trace ++ tr)) →
      i'.h = r'.h ∧ i'.ck = r'.ck ∧ pk = S.publicKey is
      ∧ ∃ a b, (∃ t, (getFinalKeys P).run i' = ⟨.ok (a, b), i', t⟩)
        ∧ ∃ t, (getFinalKeys P).run r' = ⟨.ok (b, a), r', t⟩)
    ∧ ∀ act1 act2 r' tr act3 i' ti,
      (processActOne P act1).run r.state = ⟨.ok act2, r', tr⟩ →
      (processActTwo P act2).run i.state = ⟨.ok act3, i', ti⟩ →
      CollisionFree P (i.trace ++ ti ++ (r.trace ++ tr)) →
      i'.tempK2 = r'.tempK2
      ∧ ∃ i₁ t, (verifyActTwo P act2).run i.state = ⟨.ok (), i₁, t⟩
        ∧ i₁.tempK2 = r'.tempK2 ∧ i₁.ck = r'.ck ∧ i₁.h = r'.h := by
  intro i r
  have hi : identity i.state = (.initiator, is) := calls_identity opsI (newInitiator P is ie known)
  have hr : identity r.state = (.responder, rs) := calls_identity opsR (newResponder P rs re)
  constructor
  · intro act2 act3 i' ti pk r' tr htwo hthree hrun
    have hi' : identity i' = (.initiator, is) := by
      rw [← hi, ← processActTwo_keeps P act2 i.state, htwo]
    have hr' : identity r' = (.responder, rs) := by
      rw [← hr, ← processActThree_keeps P act3 r.state, hthree]
    rcases (Method.bind_eq_ok _ _ _ _ _ _).mp htwo with ⟨_, i₁, t₁, t₂, hverify, hbuild, rfl⟩
    have hi₁ : identity i₁ = (.initiator, is) := by
      rw [← hi', ← buildActThree_keeps P i₁, hbuild]
    -- Act three was built right after act two was verified, so its tag binds both parties.
    rcases actThree_agrees hP hkeys i₁ r.state i' r' act3 pk t₂ tr _ hbuild hthree hrun
        (fun _ h => List.mem_append_left _ (List.mem_append_right _ (List.mem_append_right _ h)))
        (fun _ h => List.mem_append_right _ (List.mem_append_right _ h)) with
      ⟨hck, hh, hpk, histate, hrstate⟩
    -- The final keys come from one chaining key, and the roles swap them.
    have hfinal := run_getFinalKeys (P := P) i' histate
    have hfinal' := run_getFinalKeys (P := P) r' hrstate
    rw [(Prod.mk.inj hi').1] at hfinal
    rw [(Prod.mk.inj hr').1, ← hck] at hfinal'
    refine ⟨hh, hck, by rw [hpk, (Prod.mk.inj hi₁).2], _, _, ⟨_, hfinal⟩, _, hfinal'⟩
  · intro act1 act2 r' tr act3 i' ti hone htwo hrun
    rcases (Method.bind_eq_ok _ _ _ _ _ _).mp htwo with ⟨_, i₁, t₁, t₂, hverify, hbuild, rfl⟩
    rcases actTwo_agrees i.state r.state i₁ r' act1 act2 t₁ tr _ hone hverify hrun
        (fun _ h => List.mem_append_left _ (List.mem_append_right _ (List.mem_append_left _ h)))
        (fun _ h => List.mem_append_right _ (List.mem_append_right _ h)) with ⟨hk, hck, hh⟩
    -- Building act three keeps the temporary key that act two fixed.
    rcases (buildActThree_ok _ _ _ _).mp hbuild with ⟨_, _, _, _, _, _, _, _, _, rfl, _⟩
    exact ⟨hk, i₁, t₁, hverify, hk, hck, hh⟩

/-- Three acts delivered between two parties with small keys, after an act three
    that came too early. -/
theorem session_agreement_delivered :
    let key : UInt8 → Secp256k1.transparent.SecretKey := List.Vector.replicate 32
    let known := Secp256k1.transparent.publicKey (key 3)
    let act1 : ByteArr actOneSize := ⟨[0, 2] ++ List.replicate 32 2 ++ [60, 59, 56, 71]
      ++ List.replicate 8 0 ++ List.replicate 4 2, rfl⟩
    let act2 : ByteArr actTwoSize := ⟨[0, 2] ++ List.replicate 32 5 ++ List.replicate 4 13
      ++ List.replicate 8 0 ++ List.replicate 4 5, rfl⟩
    let act3 : ByteArr actThreeSize := ⟨[0, 2] ++ List.replicate 32 1 ++ List.replicate 4 13
      ++ 1 :: List.replicate 7 0 ++ List.replicate 4 5 ++ List.replicate 4 14
      ++ List.replicate 8 0 ++ List.replicate 4 5, rfl⟩
    ((processActTwo .transparent act2).run (Method.calls (HandshakeOp.act .transparent)
        [.getActOne] (newInitiator .transparent (key 1) (key 2) known)).state).state.h
      = ((processActThree .transparent act3).run (Method.calls (HandshakeOp.act .transparent)
        [.processActOne act1] (newResponder .transparent (key 3) (key 5))).state).state.h
    ∧ ((processActTwo .transparent act2).run (Method.calls (HandshakeOp.act .transparent)
        [.getActOne] (newInitiator .transparent (key 1) (key 2) known)).state).state.tempK2
      = ((processActOne .transparent act1).run (Method.calls (HandshakeOp.act .transparent)
        [.processActThree act3]
        (newResponder .transparent (key 3) (key 5))).state).state.tempK2 := by
  intro key known act1 act2 act3
  have hone : ((processActOne .transparent act1).run (Method.calls (HandshakeOp.act .transparent)
      [.processActThree act3] (newResponder .transparent (key 3) (key 5))).state).outcome
      = .ok act2 := by decide +kernel
  have htwo : ((processActTwo .transparent act2).run (Method.calls (HandshakeOp.act .transparent)
      [.getActOne] (newInitiator .transparent (key 1) (key 2) known)).state).outcome
      = .ok act3 := by decide +kernel
  have hthree : ((processActThree .transparent act3).run (Method.calls
      (HandshakeOp.act .transparent) [.processActOne act1]
      (newResponder .transparent (key 3) (key 5))).state).outcome
      = .ok (Secp256k1.transparent.publicKey (key 1)) := by decide +kernel
  have hfull := (session_agreement Primitives.transparent_opensSealed
    Secp256k1.transparent_parsesSerialized.key (key 1) (key 2) (key 3) (key 5) known [.getActOne]
    [.processActOne act1]).1 act2 act3 _ _ _ _ _ (Return.eq_of_outcome _ _ htwo)
    (Return.eq_of_outcome _ _ hthree) ⟨by decide +kernel, by decide +kernel⟩
  have hpart := (session_agreement Primitives.transparent_opensSealed
    Secp256k1.transparent_parsesSerialized.key (key 1) (key 2) (key 3) (key 5) known [.getActOne]
    [.processActThree act3]).2 act1 act2 _ _ _ _ _ (Return.eq_of_outcome _ _ hone)
    (Return.eq_of_outcome _ _ htwo) ⟨by decide +kernel, by decide +kernel⟩
  exact ⟨hfull.1, hpart.1⟩

end Noise

end LnGossipSim
