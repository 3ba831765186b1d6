import LnGossipSim.Library.Yields
import LnGossipSim.Bolt.ChannelGraph
import LnGossipSim.Simd.CommandSafety
import LnGossipSim.Simd.CommandSteps
import LnGossipSim.Simd.Session

/-!
# Announcing a Channel

What the gossip commands are for: that a peer admits what they send. A channel is
announced with the output that was mined for it, under keys that its descriptor
names, and the reply prints its id. An operator who copies this id into the update
command updates that channel, in the name of its first node, and the node that is
announced is the same one. So a peer that admits the announcement admits the others.

A command that succeeded is read backwards: each of its statements found something,
and the last of them sent a message. The states in between are those the other tasks
left, so the statements hold however the commands of several sessions interleave.

## Main definitions

* `ReachesPeer`: A message was sent whole and is read by the peer.
* `OurSecrets`: The secrets of the two node identities, in order.
* `GossipTurn`: A gossip command that was run.

## Theorems

* `yields_sendToPeer`, `yields_fundChannel`: What the parts of a command did.
* `announcement_funded`: The announced channel is the one that was funded.
* `gossip_admitted`: The peer admits all that was sent.
-/

namespace LnGossipSim

namespace Simd

open Bolt Method Noise

section

variable {S : Secp256k1} (P : Primitives)

/-- The message was sent whole on the connection, and a peer that has read all before
    reads it and decodes it. -/
def ReachesPeer (connection : Nat) (m : Message S) (sh sh' : Shared S) : Prop :=
  let w := sh.writers connection
  ∃ wire, sh' = sh.send P .whole connection wire
    ∧ ((NoiseReader.recv P).run
      ⟨(sh'.writers connection).stream.drop w.stream.length, w.cipher⟩).outcome = .ok wire
    ∧ Message.decode wire = .ok m

end

/-- The secrets of the two node identities, the lesser public key first. -/
def OurSecrets {S : Secp256k1} (C : ControlCrates S) (L : BitcoinCrate S)
    (nodeSks : S.SecretKey × S.SecretKey) : Prop :=
  ∃ skA skB, C.secretFromSlice seed = some skA ∧ C.secretFromSlice seed2 = some skB
    ∧ (if L.keyLt (S.publicKey skA) (S.publicKey skB) then (skA, skB) else (skB, skA)) = nodeSks

/-- One of the two node identities is the lesser one. -/
def OrdersIdentities {S : Secp256k1} (C : ControlCrates S) (L : BitcoinCrate S) : Prop :=
  ∀ skA skB, C.secretFromSlice seed = some skA → C.secretFromSlice seed2 = some skB →
    L.keyLt (S.publicKey skA) (S.publicKey skB) = true
      ∨ L.keyLt (S.publicKey skB) (S.publicKey skA) = true

theorem OurSecrets.ordered {S : Secp256k1} {C : ControlCrates S} {L : BitcoinCrate S}
    (horder : OrdersIdentities C L) (nodeSks : S.SecretKey × S.SecretKey)
    (h : OurSecrets C L nodeSks) :
    L.keyLt (S.publicKey nodeSks.1) (S.publicKey nodeSks.2) = true := by
  rcases h with ⟨skA, skB, hA, hB, hsks⟩
  by_cases hlt : L.keyLt (S.publicKey skA) (S.publicKey skB) = true
  · rw [if_pos hlt] at hsks
    rw [← hsks]
    exact hlt
  · rw [if_neg hlt] at hsks
    rw [← hsks]
    exact (horder skA skB hA hB).resolve_left hlt

/-- There is one pair of them. -/
theorem OurSecrets.unique {S : Secp256k1} {C : ControlCrates S} {L : BitcoinCrate S}
    (nodeSks nodeSks' : S.SecretKey × S.SecretKey) (h : OurSecrets C L nodeSks)
    (h' : OurSecrets C L nodeSks') : nodeSks = nodeSks' := by
  rcases h with ⟨skA, skB, hA, hB, hsks⟩
  rcases h' with ⟨skA', skB', hA', hB', hsks'⟩
  rw [hA, Option.some.injEq] at hA'
  rw [hB, Option.some.injEq] at hB'
  rw [← hsks, ← hsks', hA', hB']

section

variable {S : Secp256k1} {C : ControlCrates S} {W : Surroundings C} {P : Primitives}
  {L : BitcoinCrate S} {Address α : Type}

/-- Sending on a connection succeeds only when the write is whole and the message
    fits. -/
theorem whole_of_sent (result : WriteResult) (wire : Bytes) (w : NoiseWriter)
    (h : ((NoiseWriter.send P result wire).run w).outcome = .ok ()) :
    result = .whole ∧ wire.length ≤ Noise.maxMessageSize := by
  have hyields := yields_of_outcome _ _ _ h
  unfold NoiseWriter.send at hyields
  -- The bound on the size comes first, then the write, which fails when it is not whole.
  simp only [yields_bind, yields_lift, Outcome.rejectIf_eq_ok] at hyields
  rcases hyields with ⟨_, _, ⟨hfits, -⟩, encrypted, w₁, -, hwrite⟩
  refine ⟨?_, Nat.not_lt.mp hfits⟩
  cases result with
  | whole => rfl
  | failed written message =>
      simp only [NoiseWriter.writeAll, yields_bind, yields_lift, reduceCtorEq, false_and,
        exists_false, and_false] at hwrite

theorem yields_orReturn (reply : String) (x : Option α) (s s' : Server S Address) (a : α) :
    Yields (orReturn reply x : CommandMethod S Address α) s a s' ↔ x = some a ∧ s = s' := by
  unfold orReturn
  rw [yields_lift, Outcome.okOr_eq_ok]

theorem yields_waiting (n : Nat) (s s' : Server S Address) (u : Unit) :
    Yields (waiting C W n : CommandMethod S Address Unit) s u s'
      ↔ { s with shared := W.others n s.shared } = s' := yields_modify _ _ _ _

/-- The peer has an entry in what the other tasks left. -/
theorem yields_connectedPeer [DecidableEq S.PublicKey] (peer : S.PublicKey)
    (s s' : Server S Address) (connection : Nat) :
    Yields (connectedPeer C W peer : CommandMethod S Address Nat) s connection s'
      ↔ (W.others 0 s.shared).peers.get peer = some connection
        ∧ { s with shared := W.others 0 s.shared } = s' := by
  unfold connectedPeer
  simp only [yields_bind, yields_waiting, yields_get, yields_orReturn]
  constructor
  · rintro ⟨_, s₁, rfl, _, _, ⟨rfl, rfl⟩, hentry, rfl⟩
    exact ⟨hentry, rfl⟩
  · rintro ⟨hentry, rfl⟩
    exact ⟨(), _, rfl, _, _, ⟨rfl, rfl⟩, hentry, rfl⟩

theorem yields_orderedNodeSecrets (nodeSks : S.SecretKey × S.SecretKey)
    (s s' : Server S L.Address) :
    Yields (orderedNodeSecrets C L) s nodeSks s' ↔ OurSecrets C L nodeSks ∧ s = s' := by
  have hite : ∀ skA skB, Yields (if L.keyLt (S.publicKey skA) (S.publicKey skB) then
        pure (skA, skB) else pure (skB, skA) : CommandMethod S L.Address _) s nodeSks s'
      ↔ (if L.keyLt (S.publicKey skA) (S.publicKey skB) then (skA, skB) else (skB, skA)) = nodeSks
        ∧ s = s' := by
    intro skA skB
    by_cases h : L.keyLt (S.publicKey skA) (S.publicKey skB) = true
    · rw [if_pos h, if_pos h, yields_pure]
    · rw [if_neg h, if_neg h, yields_pure]
  unfold orderedNodeSecrets nodeSecret nodeSecret2 OurSecrets
  simp only [yields_bind, yields_lift, Outcome.expect_eq_ok]
  constructor
  · rintro ⟨skA, _, ⟨hA, rfl⟩, skB, _, ⟨hB, rfl⟩, hsks⟩
    rw [hite] at hsks
    exact ⟨⟨skA, skB, hA, hB, hsks.1⟩, hsks.2⟩
  · rintro ⟨⟨skA, skB, hA, hB, hsks⟩, rfl⟩
    exact ⟨skA, s, ⟨hA, rfl⟩, skB, s, ⟨hB, rfl⟩, (hite skA skB).mpr ⟨hsks, rfl⟩⟩

/-- What is sent on a connection is read by a peer that has read all before. -/
theorem send_read (hP : P.OpensSealed) (connection : Nat) (wire : Bytes)
    (hfits : wire.length ≤ Noise.maxMessageSize) (sh : Shared S) :
    let w := sh.writers connection
    let sh' := sh.send P .whole connection wire
    ((NoiseReader.recv P).run
      ⟨(sh'.writers connection).stream.drop w.stream.length, w.cipher⟩).outcome = .ok wire := by
  intro w sh'
  have hwriter : sh'.writers connection
      = ((NoiseWriter.send P .whole wire).run (sh.writers connection)).state :=
    Function.update_self _ _ _
  rcases send_recv hP wire hfits (sh.writers connection).cipher with ⟨frame, c', hsend, hrecv⟩
  rcases hsend (sh.writers connection).stream with ⟨t, hsent⟩
  rcases hrecv [] with ⟨t', hreceived⟩
  rw [List.append_nil] at hreceived
  rw [hwriter, hsent, List.drop_left, hreceived]

/-- A message that was sent to a peer is delivered. -/
theorem yields_sendToPeer (hP : P.OpensSealed) (hS : S.ParsesSerialized) (connection : Nat)
    (m : Message S) (hm : m.LengthsFit) (wire : Bytes)
    (hwire : (toWire m : Outcome String Bytes) = .ok wire) (s s' : Server S Address) (u : Unit)
    (h : Yields (sendToPeer C W P connection wire : CommandMethod S Address Unit) s u s') :
    ReachesPeer P connection m (W.others 2 s.shared) s'.shared := by
  unfold sendToPeer at h
  simp only [yields_bind, yields_waiting, yields_mapErr, yields_zoom, yields_noting] at h
  rcases h with ⟨_, _, rfl, w', ⟨hsent, rfl⟩, rfl⟩
  rcases whole_of_sent _ _ _ hsent with ⟨hwhole, hfits⟩
  rw [toWire_eq, Outcome.ok.injEq] at hwire
  refine ⟨wire, ?_, ?_, ?_⟩
  · rw [← hwhole]
    rfl
  · rw [hwhole]
    exact send_read hP connection wire hfits _
  · rw [← hwire, Message.decode_eq_ok]
    exact ⟨m.bodyBytes, rfl, Message.acceptsBody_own m (Message.fits_of_lengthsFit hS m hm)⟩

/-- The id of a funding output is printed as its place, and read back from that. -/
theorem scid_of_output {B : Bitcoind L.Address} (hB : B.ReportsBlocks)
    (drawn : S.SecretKey × S.SecretKey) (blocks : Nat) (asked : List (Request L.Address))
    (address : L.Address) (height : UInt64) (ti oi : Nat)
    (h : FundingOutput L B drawn blocks asked address height ti oi) :
    let scid := packScid height (UInt64.ofNat ti) (UInt64.ofNat oi)
    scidStr scid = s!"{height}x{ti}x{oi}" ∧ parseScid s!"{height}x{ti}x{oi}" = some scid := by
  intro scid
  rcases h.inRange hB with ⟨hheight, hti, hoi⟩
  have hpack := scidStr_pack ⟨height.toNat, ti, oi, hheight, hti, hoi⟩
  unfold ScidParts.pack at hpack
  rw [UInt64.ofNat_toNat] at hpack
  have htext : scidStr scid = s!"{height}x{ti}x{oi}" := hpack
  refine ⟨htext, ?_⟩
  rw [← htext]
  exact parseScid_scidStr scid

/-- A channel was funded by mining six blocks. -/
theorem yields_fundChannel {B : Bitcoind L.Address} (s s' : Server S L.Address)
    (funding : FundingKeys L) (scid : UInt64)
    (h : Yields (fundChannel C W L B) s (funding, scid) s') :
    s'.shared = W.others 1 s.shared ∧ ∃ address height ti oi,
      FundingOutput L B W.drawn 6 s.asked address height ti oi
      ∧ funding = fundingKeys L W.drawn address
      ∧ scid = packScid height (UInt64.ofNat ti) (UInt64.ofNat oi) := by
  unfold fundChannel at h
  simp only [yields_bind, yields_waiting] at h
  rcases h with ⟨result, s₁, hmined, _, s₂, rfl, h⟩
  rcases result with _ | _ | ⟨msg, funding', scid'⟩
  · simp only [yields_lift, reduceCtorEq, false_and] at h
  · simp only [yields_lift, reduceCtorEq, false_and] at h
  · simp only [yields_pure, Prod.mk.injEq] at h
    rcases h with ⟨⟨rfl, rfl⟩, rfl⟩
    unfold spawnBlocking at hmined
    rw [yields_spawn, yields_zoom] at hmined
    rcases hmined with ⟨asked, ⟨hmined, -⟩, rfl⟩
    exact ⟨rfl, (mineToFunding_eq_ok W.drawn 6 s.asked funding' scid').mp ⟨msg, hmined⟩⟩

end

section

variable {S : Secp256k1} [DecidableEq S.PublicKey] {C : ControlCrates S} {W : Surroundings C}
  {P : Primitives} {E : Signing S} {L : BitcoinCrate S} {B : Bitcoind L.Address}

/-- An announcement command that succeeded. -/
theorem yields_announceChannel (hP : P.OpensSealed) (hS : S.ParsesSerialized)
    (usage note command keyWord : String) (peer : S.PublicKey)
    (hkey : parsePubkey C keyWord = some peer)
    (nodeSecrets : CommandMethod S L.Address (S.SecretKey × S.SecretKey))
    (hsecrets : Moves Eq nodeSecrets) (s s' : Server S L.Address) (reply : String)
    (h : Yields (announceChannel C W P E L B usage note nodeSecrets [command, keyWord]) s reply
      s') :
    let later := W.others 2 (W.others 1 (W.others 0 s.shared))
    ∃ connection address height ti oi nodeSks s₁ s₂,
      (W.others 0 s.shared).peers.get peer = some connection
      ∧ FundingOutput L B W.drawn 6 s.asked address height ti oi
      ∧ Yields nodeSecrets s₁ nodeSks s₂
      ∧ let scid := packScid height (UInt64.ofNat ti) (UInt64.ofNat oi)
        let ann := ChannelAnnouncement.newSigned E [] regtestChainHash scid nodeSks.1 nodeSks.2
          (sortSecrets L W.drawn).1 (sortSecrets L W.drawn).2
        let scidText := scidStr scid
        let key := C.keyText peer
        ReachesPeer P connection (.channelAnnouncement ann) later s'.shared
        ∧ reply = s!"Sent channel_announcement {note}scid={scidText} to {key}\n" := by
  intro later
  unfold announceChannel at h
  simp only [yields_bind, yields_lift, yields_orReturn, yields_connectedPeer, yields_pure,
    List.getElem?_cons_succ, List.getElem?_cons_zero, Outcome.expect_eq_ok, Option.some.injEq] at h
  -- Each step of the command in order: the words, the peer, the channel, its nodes, the message.
  rcases h with ⟨_, _, ⟨-, rfl⟩, _, _, ⟨rfl, rfl⟩, _, _, ⟨hkey', rfl⟩, connection, _, ⟨hentry, rfl⟩,
    ⟨funding, scid⟩, s₁, hfunded, nodeSks, s₂, hsks, wire, _, ⟨hwire, rfl⟩, _, _, hsent, hreply,
    rfl⟩
  rw [hkey, Option.some.injEq] at hkey'
  subst hkey'
  rcases yields_fundChannel _ _ funding scid hfunded with
    ⟨hwaited, address, height, ti, oi, houtput, rfl, rfl⟩
  have hreaches := yields_sendToPeer hP hS connection _ (Nat.zero_le _) wire hwire _ _ _ hsent
  -- The secrets are found without a change, so the message is sent after the third wait.
  rw [← hsks.2, ← hsecrets s₁, hwaited] at hreaches
  exact ⟨connection, address, height, ti, oi, nodeSks, s₁, s₂, hentry, houtput, hsks, hreaches,
    hreply.symm⟩

/-- An update command that succeeded. -/
theorem yields_cmdSendChannelUpdate (hP : P.OpensSealed) (hS : S.ParsesSerialized)
    (command keyWord scidWord : String) (peer : S.PublicKey)
    (hkey : parsePubkey C keyWord = some peer) (s s' : Server S L.Address) (reply : String)
    (h : Yields (cmdSendChannelUpdate C W P E L [command, keyWord, scidWord]) s reply s') :
    ∃ connection scid nodeSks, (W.others 0 s.shared).peers.get peer = some connection
      ∧ parseScid scidWord = some scid ∧ OurSecrets C L nodeSks
      ∧ ReachesPeer P connection (.channelUpdate (ChannelUpdate.newSigned E regtestChainHash scid 0
          1 0 40 1 1000 1 4294967295 nodeSks.1)) (W.others 2 (W.others 0 s.shared)) s'.shared := by
  unfold cmdSendChannelUpdate at h
  simp only [yields_bind, yields_lift, yields_orReturn, yields_connectedPeer,
    yields_orderedNodeSecrets, List.getElem?_cons_succ, List.getElem?_cons_zero,
    Outcome.expect_eq_ok, Option.some.injEq] at h
  rcases h with ⟨_, _, ⟨-, rfl⟩, _, _, ⟨rfl, rfl⟩, _, _, ⟨hkey', rfl⟩, _, _, ⟨rfl, rfl⟩, scid, _,
    ⟨hscid, rfl⟩, connection, _, ⟨hentry, rfl⟩, nodeSks, _, ⟨hsks, rfl⟩, wire, _, ⟨hwire, rfl⟩, _,
    s₁, hsent, hreply⟩
  rw [hkey, Option.some.injEq] at hkey'
  subst hkey'
  rw [yields_pure] at hreply
  rw [← hreply.2]
  exact ⟨connection, scid, nodeSks, hentry, hscid, hsks,
    yields_sendToPeer hP hS connection (.channelUpdate _) trivial wire hwire _ _ _ hsent⟩

/-- A node announcement command that succeeded. -/
theorem yields_cmdSendNodeAnnouncement (hP : P.OpensSealed) (hS : S.ParsesSerialized)
    (command keyWord : String) (peer : S.PublicKey) (hkey : parsePubkey C keyWord = some peer)
    (s s' : Server S L.Address) (reply : String)
    (h : Yields (cmdSendNodeAnnouncement C W P E L [command, keyWord]) s reply s') :
    ∃ connection nodeSks, (W.others 0 s.shared).peers.get peer = some connection
      ∧ OurSecrets C L nodeSks
      ∧ ReachesPeer P connection (.nodeAnnouncement (NodeAnnouncement.defaultSigned E nodeSks.1))
        (W.others 2 (W.others 0 s.shared)) s'.shared := by
  unfold cmdSendNodeAnnouncement at h
  simp only [yields_bind, yields_lift, yields_orReturn, yields_connectedPeer,
    yields_orderedNodeSecrets, List.getElem?_cons_succ, List.getElem?_cons_zero,
    Outcome.expect_eq_ok, Option.some.injEq] at h
  rcases h with ⟨_, _, ⟨-, rfl⟩, _, _, ⟨rfl, rfl⟩, _, _, ⟨hkey', rfl⟩, connection, _, ⟨hentry, rfl⟩,
    nodeSks, _, ⟨hsks, rfl⟩, wire, _, ⟨hwire, rfl⟩, _, s₁, hsent, hreply⟩
  rw [hkey, Option.some.injEq] at hkey'
  subst hkey'
  rw [yields_pure] at hreply
  rw [← hreply.2]
  have hfits : (Message.nodeAnnouncement (NodeAnnouncement.defaultSigned E nodeSks.1)).LengthsFit :=
    ⟨Nat.zero_le _, Nat.zero_le _⟩
  exact ⟨connection, nodeSks, hentry, hsks,
    yields_sendToPeer hP hS connection _ hfits wire hwire _ _ _ hsent⟩

/-- An announcement that was sent is of the channel that was funded for it. It is
    written to what the other tasks left when the command had waited for the last time,
    and the peer reads it. All four of its signatures verify, its bitcoin keys are those
    of the descriptor that was imported, and its id is the place of the output that pays
    the address. The reply prints this place, and the update command reads the id back. -/
theorem announcement_funded (hP : P.OpensSealed) (hS : S.ParsesSerialized) (hE : E.VerifiesSigned)
    (hB : B.ReportsBlocks) (nodeId : S.PublicKey) (command keyWord : String)
    (hcommand : command = "sendchannelannouncement" ∨ command = "sendchannelannouncement2")
    (peer : S.PublicKey) (hkey : parsePubkey C keyWord = some peer) (s : Server S L.Address)
    (reply : String)
    (hok : ((runCommand C W P E L B nodeId [command, keyWord]).run s).outcome = .ok reply) :
    let left := ((runCommand C W P E L B nodeId [command, keyWord]).run s).state.shared
    let later := W.others 2 (W.others 1 (W.others 0 s.shared))
    ∃ connection ann address, ∃ (height : UInt64) (ti oi : Nat),
      (W.others 0 s.shared).peers.get peer = some connection
      ∧ ReachesPeer P connection (.channelAnnouncement ann) later left
      ∧ FundingOutput L B W.drawn 6 s.asked address height ti oi
      ∧ (let scid := s!"{height}x{ti}x{oi}"
        let key := C.keyText peer
        parseScid scid = some ann.shortChannelId
          ∧ ∃ note : String, reply = s!"Sent channel_announcement {note}scid={scid} to {key}\n")
      ∧ ann.chainHash = regtestChainHash
      ∧ ann.bitcoinKey1 = S.publicKey (sortSecrets L W.drawn).1
      ∧ ann.bitcoinKey2 = S.publicKey (sortSecrets L W.drawn).2
      ∧ E.verifyEcdsa (ann.signatureHash E) ann.nodeSignature1 ann.nodeId1 = true
      ∧ E.verifyEcdsa (ann.signatureHash E) ann.nodeSignature2 ann.nodeId2 = true
      ∧ E.verifyEcdsa (ann.signatureHash E) ann.bitcoinSignature1 ann.bitcoinKey1 = true
      ∧ E.verifyEcdsa (ann.signatureHash E) ann.bitcoinSignature2 ann.bitcoinKey2 = true := by
  intro left later
  -- The two commands differ in where their node secrets come from, which matters to no part.
  have hyields : ∃ usage note nodeSecrets, Moves Eq nodeSecrets
      ∧ Yields (announceChannel C W P E L B usage note nodeSecrets [command, keyWord]) s reply
        ((runCommand C W P E L B nodeId [command, keyWord]).run s).state := by
    have hrun := yields_of_outcome _ _ _ hok
    rcases hcommand with rfl | rfl
    · exact ⟨_, _, _, moves_bind _ _ _ (moves_nodeSecret C Eq) fun _ => moves_pure _ _, hrun⟩
    · exact ⟨_, _, _, moves_orderedNodeSecrets C L Eq, hrun⟩
  rcases hyields with ⟨usage, note, nodeSecrets, hsecrets, hyields⟩
  rcases yields_announceChannel hP hS _ _ _ _ peer hkey _ hsecrets _ _ _ hyields with
    ⟨connection, address, height, ti, oi, nodeSks, -, -, hentry, houtput, -, hreaches, hreply⟩
  rcases scid_of_output hB _ _ _ _ _ _ _ houtput with ⟨htext, hparse⟩
  refine ⟨connection, _, address, height, ti, oi, hentry, hreaches, houtput,
    ⟨hparse, note, ?_⟩, rfl, rfl, rfl, hE _ _, hE _ _, hE _ _, hE _ _⟩
  rw [htext] at hreply
  exact hreply

end

/-- A server with one peer, whose connection has the number 0. -/
def Server.withPeer (key : ByteArr 33) : Server .transparent String :=
  { Server.idle with
    shared := { Server.idle.shared with
      peers := ⟨[(key, 0)], List.nodup_singleton _⟩
      connections := [⟨key, true, false, .running⟩] } }

/-- The channel at height 101, announced with two nodes. -/
theorem announcement_funded_sample :
    let key : Secp256k1.transparent.PublicKey := List.Vector.replicate 33 2
    let run := (runCommand .transparent .quiet .transparent .transparent .transparent .sample key
      ["sendchannelannouncement2", hexText key.toList]).run (.withPeer key)
    ∃ ann : ChannelAnnouncement .transparent,
      ReachesPeer .transparent 0 (.channelAnnouncement ann) (Server.withPeer key).shared
        run.state.shared
      ∧ ann.bitcoinKey2 = Secp256k1.transparent.publicKey (List.Vector.replicate 32 2) := by
  intro key run
  -- The command is run once, and the theorem tells what its run left.
  have hok : run.outcome = .ok (let key := hexText key.toList
      s!"Sent channel_announcement (distinct node IDs) scid=101x1x1 to {key}\n") := by
    decide +kernel
  rcases announcement_funded (L := .transparent) Primitives.transparent_opensSealed
    Secp256k1.transparent_parsesSerialized Signing.transparent_verifiesSigned
    Bitcoind.sample_reportsBlocks key "sendchannelannouncement2" (hexText key.toList) (Or.inr rfl)
    key (by decide +kernel) (.withPeer key) _ hok with
    ⟨connection, ann, -, -, -, -, hentry, hreaches, -, -, -, -, hkey2, -⟩
  have hconnection : connection = 0 := by
    have hget : (Server.withPeer key).shared.peers.get key = some 0 := by decide +kernel
    exact Option.some.inj (hentry.symm.trans hget)
  rw [hconnection] at hreaches
  exact ⟨ann, hreaches, hkey2⟩

/-- The commands that send gossip of our two nodes. -/
inductive GossipCommand where
  | sendChannelAnnouncement2
  | sendChannelUpdate (scid : String)
  | sendNodeAnnouncement
  deriving DecidableEq

/-- The words of the command, for a peer that is given by a word. -/
def GossipCommand.parts (keyWord : String) : GossipCommand → List String
  | .sendChannelAnnouncement2 => ["sendchannelannouncement2", keyWord]
  | .sendChannelUpdate scid => ["sendchannelupdate", keyWord, scid]
  | .sendNodeAnnouncement => ["sendnodeannouncement", keyWord]

/-- A gossip command with all that it met, and its reply. -/
structure GossipTurn {S : Secp256k1} (C : ControlCrates S) (Address : Type) where
  command : GossipCommand
  surroundings : Surroundings C
  bitcoind : Bitcoind Address
  server : Server S Address
  reply : String

namespace GossipTurn

section

variable {S : Secp256k1} [DecidableEq S.PublicKey] {C : ControlCrates S} (P : Primitives)
  (E : Signing S) (L : BitcoinCrate S)

/-- What the command returned and left. -/
def run (nodeId : S.PublicKey) (keyWord : String) (t : GossipTurn C L.Address) :
    Return CommandEvent (Server S L.Address) String String :=
  (runCommand C t.surroundings P E L t.bitcoind nodeId (t.command.parts keyWord)).run t.server

/-- What the other tasks left when the command had waited for the last time. An
    announcement also waits for its channel. -/
def later {Address : Type} (t : GossipTurn C Address) : Shared S :=
  let met := t.surroundings.others 0 t.server.shared
  match t.command with
  | .sendChannelAnnouncement2 => t.surroundings.others 2 (t.surroundings.others 1 met)
  | .sendChannelUpdate _ | .sendNodeAnnouncement => t.surroundings.others 2 met

/-- The message reached the peer on the connection that it has in the map. -/
def Reaches (nodeId : S.PublicKey) (keyWord : String) (peer : S.PublicKey)
    (t : GossipTurn C L.Address) (m : Message S) : Prop :=
  ∃ connection, (t.surroundings.others 0 t.server.shared).peers.get peer = some connection
    ∧ ReachesPeer P connection m t.later (t.run P E L nodeId keyWord).state.shared

end

section

variable {S : Secp256k1} {C : ControlCrates S} {Address : Type}

/-- The reply to an announcement prints the id of its channel. -/
def Prints (peer : S.PublicKey) (t : GossipTurn C Address) (scid : String) : Prop :=
  let note := "(distinct node IDs) "
  let key := C.keyText peer
  t.command = .sendChannelAnnouncement2
    ∧ t.reply = s!"Sent channel_announcement {note}scid={scid} to {key}\n"

/-- The turn is in order after others: an update copies an id that was printed, and a
    node is announced after a channel of it. -/
def Follows (peer : S.PublicKey) (before : List (GossipTurn C Address))
    (t : GossipTurn C Address) : Prop :=
  match t.command with
  | .sendChannelAnnouncement2 => True
  | .sendChannelUpdate scid => ∃ u ∈ before, u.Prints peer scid
  | .sendNodeAnnouncement => ∃ u ∈ before, u.command = .sendChannelAnnouncement2

end

end GossipTurn

/-- The graph has the channels that were announced, each under the id that was printed
    for it. -/
def KnowsChannels {S : Secp256k1} {C : ControlCrates S} (L : BitcoinCrate S) (peer : S.PublicKey)
    (turns : List (GossipTurn C L.Address)) (graph : List (PublicChannel S)) : Prop :=
  ∀ t ∈ turns, t.command = .sendChannelAnnouncement2 → ∃ scid nodeSks, OurSecrets C L nodeSks
    ∧ ⟨scid, S.publicKey nodeSks.1, S.publicKey nodeSks.2⟩ ∈ graph
    ∧ ∀ text, t.Prints peer text → parseScid text = some scid

section

variable {S : Secp256k1} {C : ControlCrates S} {L : BitcoinCrate S}

/-- More channels, and a turn that announced one of them or none. -/
theorem KnowsChannels.snoc (peer : S.PublicKey) (turns : List (GossipTurn C L.Address))
    (t : GossipTurn C L.Address) (graph graph' : List (PublicChannel S))
    (h : KnowsChannels L peer turns graph) (hgraph : graph ⊆ graph')
    (ht : KnowsChannels L peer [t] graph') : KnowsChannels L peer (turns ++ [t]) graph' := by
  intro u hu hcommand
  rcases List.mem_append.mp hu with hu | hu
  · rcases h u hu hcommand with ⟨scid, nodeSks, hsks, hmem, hprints⟩
    exact ⟨scid, nodeSks, hsks, hgraph hmem, hprints⟩
  · exact ht u hu hcommand

/-- A turn that announced no channel. -/
theorem KnowsChannels.none (peer : S.PublicKey) (t : GossipTurn C L.Address)
    (graph : List (PublicChannel S)) (ht : t.command ≠ .sendChannelAnnouncement2) :
    KnowsChannels L peer [t] graph := by
  intro u hu hcommand
  rw [List.mem_singleton.mp hu] at hcommand
  exact absurd hcommand ht

end

section

variable {S : Secp256k1} [DecidableEq S.PublicKey] {C : ControlCrates S} {P : Primitives}
  {E : Signing S} {L : BitcoinCrate S}

/-- A turn that is in order sends a message that the peer admits, and then the peer
    knows the channels announced so far. -/
theorem turn_admitted (hP : P.OpensSealed) (hS : S.ParsesSerialized) (hE : E.VerifiesSigned)
    (horder : OrdersIdentities C L) (nodeId : S.PublicKey) (keyWord : String) (peer : S.PublicKey)
    (hkey : parsePubkey C keyWord = some peer) (before : List (GossipTurn C L.Address))
    (t : GossipTurn C L.Address) (hfollows : t.Follows peer before)
    (hok : (t.run P E L nodeId keyWord).outcome = .ok t.reply) (graph : List (PublicChannel S))
    (hgraph : KnowsChannels L peer before graph) :
    ∃ m graph', t.Reaches P E L nodeId keyWord peer m
      ∧ learn E L.keyLt regtestChainHash graph m = some graph'
      ∧ KnowsChannels L peer (before ++ [t]) graph' := by
  rcases t with ⟨command, W, B, s, reply⟩
  have hyields := yields_of_outcome _ _ _ hok
  cases command with
  | sendChannelAnnouncement2 =>
      rcases yields_announceChannel hP hS _ _ _ _ peer hkey _ (moves_orderedNodeSecrets C L Eq) _ _
        _ hyields with
        ⟨connection, address, height, ti, oi, nodeSks, s₁, s₂, hentry, -, hsks, hreaches, hreply⟩
      rw [yields_orderedNodeSecrets] at hsks
      -- An announcement is admitted into any graph, and puts its channel there.
      refine ⟨_, _, ⟨connection, hentry, hreaches⟩,
        learn_newAnnouncement hE graph _ _ _ _ _ _ _ (hsks.1.ordered horder), ?_⟩
      refine hgraph.snoc _ _ _ _ _ (List.subset_cons_self _ _) fun u hu _ => ?_
      refine ⟨_, nodeSks, hsks.1, List.mem_cons_self, fun text htext => ?_⟩
      -- The printed text is the only one that makes this reply.
      rw [List.mem_singleton.mp hu] at htext
      have hsame := htext.2.symm.trans hreply
      simp only [String.append_left_inj, String.append_right_inj] at hsame
      rw [show text = scidStr _ from hsame]
      exact parseScid_scidStr _
  | sendChannelUpdate scidWord =>
      rcases yields_cmdSendChannelUpdate hP hS _ _ _ peer hkey _ _ _ hyields with
        ⟨connection, scid, nodeSks, hentry, hscid, hsks, hreaches⟩
      rcases hfollows with ⟨u, hu, hprints⟩
      rcases hgraph u hu hprints.1 with ⟨scid', nodeSks', hsks', hknown, hparse⟩
      -- The id that was copied is that of the channel, and its first node is ours.
      have hsame := hparse _ hprints
      rw [hscid, Option.some.injEq] at hsame
      rw [← hsame, ← hsks.unique _ _ hsks'] at hknown
      refine ⟨_, _, ⟨connection, hentry, hreaches⟩,
        learn_newUpdate hE graph _ _ _ _ _ _ _ _ _ _ _ _ (by decide) hknown, ?_⟩
      exact hgraph.snoc _ _ _ _ _ (List.Subset.refl _)
        (KnowsChannels.none _ _ _ (by simp))
  | sendNodeAnnouncement =>
      rcases yields_cmdSendNodeAnnouncement hP hS _ _ peer hkey _ _ _ hyields with
        ⟨connection, nodeSks, hentry, hsks, hreaches⟩
      rcases hfollows with ⟨u, hu, hannounced⟩
      rcases hgraph u hu hannounced with ⟨scid, nodeSks', hsks', hknown, -⟩
      refine ⟨_, _, ⟨connection, hentry, hreaches⟩,
        learn_defaultSigned hE graph _ _ _ hknown (by rw [hsks.unique _ _ hsks']), ?_⟩
      exact hgraph.snoc _ _ _ _ _ (List.Subset.refl _)
        (KnowsChannels.none _ _ _ (by simp))

/-- The peer admits all that the gossip commands send, whatever it knew before and
    whatever happens between them: the channels, the updates whose id was copied from
    a reply, and the node once a channel of it was announced. -/
theorem gossip_admitted (hP : P.OpensSealed) (hS : S.ParsesSerialized) (hE : E.VerifiesSigned)
    (horder : OrdersIdentities C L) (nodeId : S.PublicKey) (keyWord : String) (peer : S.PublicKey)
    (hkey : parsePubkey C keyWord = some peer) (turns : List (GossipTurn C L.Address))
    (hok : ∀ t ∈ turns, (t.run P E L nodeId keyWord).outcome = .ok t.reply)
    (hfollows : ∀ before t after, turns = before ++ t :: after → t.Follows peer before)
    (graph : List (PublicChannel S)) :
    ∃ messages graph', List.Forall₂ (GossipTurn.Reaches P E L nodeId keyWord peer) turns messages
      ∧ Transition.run (learn E L.keyLt regtestChainHash) graph messages = some graph'
      ∧ KnowsChannels L peer turns graph' := by
  induction turns using List.reverseRecOn with
  | nil => exact ⟨[], graph, .nil, rfl, fun t ht => absurd ht List.not_mem_nil⟩
  | append_singleton turns t ih =>
      -- The induction is on the last turn, since a turn depends on those before it.
      have hbefore : ∀ before u after, turns = before ++ u :: after → u.Follows peer before := by
        intro before u after hsplit
        exact hfollows before u (after ++ [t]) (by rw [hsplit, List.append_assoc, List.cons_append])
      rcases ih (fun u hu => hok u (List.mem_append_left _ hu)) hbefore with
        ⟨messages, graph₁, hreach, hrun, hknows⟩
      rcases turn_admitted hP hS hE horder nodeId keyWord peer hkey turns t
        (hfollows turns t [] rfl) (hok t (List.mem_append_right _ List.mem_cons_self)) graph₁
        hknows with
        ⟨m, graph', hreaches, hadmit, hknows'⟩
      refine ⟨messages ++ [m], graph', List.rel_append hreach (.cons hreaches .nil), ?_, hknows'⟩
      rw [Transition.run_append _ _ _ _ hrun]
      exact Transition.run_single _ _ _ hadmit

end

/-- A seed in the range of the curve is its own secret. -/
theorem transparent_secretFromSlice (b : ByteArr 32)
    (h : 0 < BigEndian.beNat b.toList ∧ BigEndian.beNat b.toList < curveOrder) :
    ControlCrates.transparent.secretFromSlice b = some b := if_pos h

/-- The one identity's key is less than the other's. -/
theorem transparent_ordersIdentities :
    OrdersIdentities ControlCrates.transparent BitcoinCrate.transparent := by
  intro skA skB hA hB
  have hA' := transparent_secretFromSlice seed (by decide +kernel)
  have hB' := transparent_secretFromSlice seed2 (by decide +kernel)
  rw [← Option.some.inj (hA'.symm.trans hA), ← Option.some.inj (hB'.symm.trans hB)]
  exact Or.inl (by decide +kernel)

/-- A channel, an update with the id that was printed for it, and its first node, sent
    by commands that each start from the same server. -/
theorem gossip_admitted_channel :
    let key : Secp256k1.transparent.PublicKey := List.Vector.replicate 33 2
    let hex := hexText key.toList
    let note := "(distinct node IDs) "
    let node := hexText (Secp256k1.transparent.publicKey seed).toList
    let turn (command : GossipCommand) (reply : String) : GossipTurn .transparent String :=
      ⟨command, .quiet, .sample, .withPeer key, reply⟩
    let turns := [
      turn .sendChannelAnnouncement2 s!"Sent channel_announcement {note}scid=101x1x1 to {hex}\n",
      turn (.sendChannelUpdate "101x1x1") s!"Sent channel_update scid=101x1x1 to {hex}\n",
      turn .sendNodeAnnouncement s!"Sent node_announcement node_id={node} to {hex}\n"]
    ∃ messages graph', List.Forall₂
        (GossipTurn.Reaches .transparent .transparent .transparent key hex key) turns messages
      ∧ Transition.run (learn .transparent BitcoinCrate.transparent.keyLt regtestChainHash) []
        messages = some graph'
      ∧ KnowsChannels .transparent key turns graph' := by
  intro key hex note node turn turns
  refine gossip_admitted Primitives.transparent_opensSealed Secp256k1.transparent_parsesSerialized
    Signing.transparent_verifiesSigned transparent_ordersIdentities key hex key
    (by decide +kernel) turns ?_ ?_ []
  · refine List.forall_mem_cons.mpr ⟨?_, List.forall_mem_cons.mpr ⟨?_,
      List.forall_mem_singleton.mpr ?_⟩⟩
    · decide +kernel
    · decide +kernel
    · decide +kernel
  · intro before t after hsplit
    rcases before with _ | ⟨u, _ | ⟨v, _ | ⟨w, before⟩⟩⟩
    · rw [← (List.cons.inj hsplit).1]
      exact trivial
    · rcases List.cons.inj hsplit with ⟨rfl, hrest⟩
      rw [← (List.cons.inj hrest).1]
      exact ⟨_, List.mem_cons_self, rfl, rfl⟩
    · rcases List.cons.inj hsplit with ⟨rfl, hrest⟩
      rcases List.cons.inj hrest with ⟨rfl, hrest'⟩
      rw [← (List.cons.inj hrest').1]
      exact ⟨_, List.mem_cons_self, rfl⟩
    · have hnil := (List.cons.inj (List.cons.inj (List.cons.inj hsplit).2).2).2
      exact absurd hnil.symm (List.append_ne_nil_of_right_ne_nil _ (List.cons_ne_nil _ _))

end Simd

end LnGossipSim
