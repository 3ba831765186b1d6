import LnGossipSim.Simd.Command
import LnGossipSim.Simd.FundingOutput

/-!
# Commands Do Not Panic

Whether a line of the control socket can make the daemon panic. Every command
looks at its words, at decoded bytes, at messages it has encoded or at answers of
bitcoind, and each access has its own guard. They are followed here command by
command: whatever the words, the peers map, the answers and the other tasks are, a
command ends in a reply.

There is one exception. The number of blocks to mine is passed on as it is, and for
none bitcoind has no hash to return, so the first one is taken from an empty list.
This happens exactly when the fresh address could be made before.

## Main definitions

* `PanicFree`: There is a reply, and no panic on the way.
* `MinesNothing`: The one command that panics.
* `Bitcoind.KeepsContract`, `ControlCrates.AcceptsSecrets`: What is assumed.

## Theorems

* `safe_cmdConnect` and its like: The commands one by one.
* `triple_cmdMine`: The command with the exception.
* `panic_free_iff`: When a command is free of panics.
-/

namespace LnGossipSim

namespace Simd

open BigEndian Bolt Decimal Method Noise

/-- The event is the panic of a task. -/
def IsPanic (e : CommandEvent) : Prop := e = .taskPanicked

/-- There is a reply, and no task panicked on the way. -/
def PanicFree {σ : Type} (r : Return CommandEvent σ Empty String) : Prop :=
  (∃ reply, r.outcome = .ok reply) ∧ .taskPanicked ∉ r.trace

/-- The order of the curve. -/
def curveOrder : Nat := 0xFFFFFFFFFFFFFFFFFFFFFFFFFFFFFFFEBAAEDCE6AF48A03BBFD25E8CD0364141

/-- A number that is not zero and below the order of the curve is a secret key. -/
def ControlCrates.AcceptsSecrets {S : Secp256k1} (C : ControlCrates S) : Prop :=
  ∀ b : ByteArr 32, 0 < beNat b.toList → beNat b.toList < curveOrder → C.secretFromSlice b ≠ none

/-- As many hashes are returned as blocks were asked for. -/
def Bitcoind.KeepsContract {Address : Type} (B : Bitcoind Address) : Prop :=
  ∀ asked blocks address hashes, B.generateToAddress asked blocks address = .ok hashes →
    hashes.length = blocks

section

variable {S : Secp256k1} {C : ControlCrates S} (W : Surroundings C) (L : BitcoinCrate S)
  (B : Bitcoind L.Address)

/-- The line asks for no blocks, and bitcoind answers as it should until it has
    mined them. -/
def MinesNothing (line : String) (asked : List (Request L.Address)) : Prop :=
  ∃ word checksum address hashes, (splitWhitespace line)[0]? = some "mine"
    ∧ (splitWhitespace line)[1]? = some word ∧ parseUsize word = some 0
    ∧ FundingReport L B W.drawn asked checksum address
    ∧ B.generateToAddress (asked ++ fundingRequests L W.drawn checksum) 0 address = .ok hashes

end

section

variable {S : Secp256k1} {C : ControlCrates S} {W : Surroundings C} {P : Primitives}
  {E : Signing S} {L : BitcoinCrate S} {B : Bitcoind L.Address} {Address : Type}

/-- A seed that is a number below the order of the curve is a secret. -/
theorem settles_secret (hC : C.AcceptsSecrets) (b : ByteArr 32) (hpos : 0 < beNat b.toList)
    (hlt : beNat b.toList < curveOrder) :
    (Outcome.expect (C.secretFromSlice b) : Outcome String S.SecretKey).Settles := by
  rcases Option.ne_none_iff_exists'.mp (hC b hpos hlt) with ⟨sk, hsk⟩
  rw [hsk]
  exact Outcome.settles_ok sk

theorem safe_nodeSecret (hC : C.AcceptsSecrets) :
    Safe IsPanic (nodeSecret C : CommandMethod S Address S.SecretKey) :=
  safe_lift _ _ (settles_secret hC seed (by decide) (by decide))

theorem safe_nodeSecret2 (hC : C.AcceptsSecrets) :
    Safe IsPanic (nodeSecret2 C : CommandMethod S Address S.SecretKey) :=
  safe_lift _ _ (settles_secret hC seed2 (by decide) (by decide))

theorem safe_waiting (n : Nat) : Safe IsPanic (waiting C W n : CommandMethod S Address Unit) :=
  safe_modify _ _

/-- Primitives are no panics, so what the noise crate does is as safe here. -/
theorem safe_noise {σ ε α : Type} (m : NoiseMethod σ ε α) (h : Safe NoneBad m) :
    Safe IsPanic (Method.noting CommandEvent.primitive m) :=
  safe_noting _ _ _ h fun _ hbad => nomatch hbad

theorem safe_sendToPeer (hP : P.OpensSealed) (connection : Nat) (wire : Bytes) :
    Safe IsPanic (sendToPeer C W P connection wire : CommandMethod S Address Unit) := by
  refine safe_bind _ _ _ (safe_waiting 2) fun _ => ?_
  exact safe_mapErr _ _ _ (safe_zoom _ _ _ _ (safe_noise _ (safe_send hP W.written wire)))

/-- A word that the number of words says is there. -/
theorem settles_word {ε : Type} (parts : List String) (i : Nat) (h : i < parts.length) :
    (Outcome.expect parts[i]? : Outcome ε String).Settles := by
  rw [List.getElem?_eq_getElem h]
  exact Outcome.settles_ok _

theorem safe_toPeer {ε : Type} (m : Message S) :
    Safe IsPanic (Method.lift (toWire m) : Method CommandEvent (Server S Address) ε Bytes) := by
  rw [toWire_eq]
  exact safe_lift _ _ (Outcome.settles_ok _)

section

variable [DecidableEq S.PublicKey]

theorem safe_connectedPeer (peerPubkey : S.PublicKey) :
    Safe IsPanic (connectedPeer C W peerPubkey : CommandMethod S Address Nat) := by
  refine safe_bind _ _ _ (safe_waiting 0) fun _ => ?_
  exact safe_bind _ _ _ (safe_get _) fun s => safe_lift _ _ (Outcome.settles_okOr _ _)

end

theorem safe_spawnBlocking {ε α : Type} (m : RpcMethod CommandEvent L.Address ε α)
    (h : Safe IsPanic m) : Safe IsPanic (spawnBlocking L m) :=
  safe_spawn _ _ _ (safe_zoom _ _ _ _ h)

/-- Six blocks have a first one. -/
theorem safe_fundChannel (hB : B.KeepsContract) : Safe IsPanic (fundChannel C W L B) := by
  refine safe_bind _ _ _ (safe_spawnBlocking _ (safe_mineToFunding _ _ _ ?_)) fun result => ?_
  · intro asked address hempty
    exact absurd (hB asked 6 address [] hempty) (by decide)
  refine safe_bind _ _ _ (safe_waiting 1) fun _ => ?_
  rcases result with _ | _ | ⟨_, funding, scid⟩
  · exact safe_lift _ _ (Outcome.settles_err _)
  · exact safe_lift _ _ (Outcome.settles_err _)
  · exact safe_pure _ _

theorem safe_orderedNodeSecrets (hC : C.AcceptsSecrets) :
    Safe IsPanic (orderedNodeSecrets C L) := by
  refine safe_bind _ _ _ (safe_nodeSecret hC) fun skA => ?_
  refine safe_bind _ _ _ (safe_nodeSecret2 hC) fun skB => ?_
  exact safe_ite _ _ _ _ (safe_pure _ _) (safe_pure _ _)

/-- A command that checks the number of its words first. -/
theorem safe_usage {α : Type} (parts : List String) (n : Nat) (usage : String)
    (m : CommandMethod S Address α) (h : parts.length = n → Safe IsPanic m) :
    Safe IsPanic (Method.lift (Outcome.rejectIf (parts.length ≠ n) usage) >>= fun _ => m) := by
  refine safe_lift_bind _ _ _ (Outcome.settles_rejectIf _ _) fun _ hpass => ?_
  exact h (not_not.mp ((Outcome.rejectIf_eq_ok _ _ _).mp hpass))

/-- The public key that the second word stands for. -/
theorem safe_keyArgument {α : Type} (parts : List String) (hlen : 1 < parts.length)
    (f : S.PublicKey → CommandMethod S Address α) (hf : ∀ key, Safe IsPanic (f key)) :
    Safe IsPanic (Method.lift (Outcome.expect parts[1]?) >>= fun keyWord =>
      orReturn "Invalid pubkey\n" (parsePubkey C keyWord) >>= f) :=
  safe_bind _ _ _ (safe_lift _ _ (settles_word parts 1 hlen)) fun _ =>
    safe_okOr_bind _ _ _ _ hf

section

variable [DecidableEq S.PublicKey]

theorem safe_cmdConnect (hseal : P.OpensSealed) (hopen : P.OpensShorter) (hC : C.AcceptsSecrets)
    (parts : List String) : Safe IsPanic (cmdConnect C W P L parts) := by
  refine safe_usage _ _ _ _ fun hlen => ?_
  refine safe_keyArgument _ (by omega) _ fun pubkey => ?_
  refine safe_bind _ _ _ (safe_lift _ _ (settles_word parts 2 (by omega))) fun addrWord => ?_
  refine safe_okOr_bind _ _ _ _ fun addr => ?_
  refine safe_bind _ _ _ (safe_nodeSecret hC) fun secret => ?_
  refine safe_bind _ _ _ (safe_mapErr _ _ _ (safe_noise _
    (safe_connect C.hexEncode hseal hopen _ _ _))) fun established => ?_
  refine safe_bind _ _ _ (safe_waiting 0) fun _ => ?_
  refine safe_bind _ _ _ (safe_get _) fun s => ?_
  refine safe_bind _ _ _ (safe_modify _ _) fun _ => ?_
  refine safe_bind _ _ _ (safe_record _ _ (by simp [IsPanic])) fun _ => ?_
  refine safe_bind _ _ _ (safe_waiting 1) fun _ => ?_
  exact safe_bind _ _ _ (safe_modify _ _) fun _ => safe_pure _ _

theorem safe_cmdDisconnect (parts : List String) : Safe IsPanic (cmdDisconnect C W L parts) := by
  refine safe_usage _ _ _ _ fun hlen => ?_
  refine safe_keyArgument _ (by omega) _ fun pubkey => ?_
  refine safe_bind _ _ _ (safe_waiting 0) fun _ => ?_
  refine safe_bind _ _ _ (safe_get _) fun s => ?_
  refine safe_okOr_bind _ _ _ _ fun connection => ?_
  refine safe_bind _ _ _ (safe_modify _ _) fun _ => ?_
  exact safe_bind _ _ _ (safe_record _ _ (by simp [IsPanic])) fun _ => safe_pure _ _

/-- Announcing a channel is as safe as finding the secrets to sign with. -/
theorem safe_announceChannel (hP : P.OpensSealed) (hB : B.KeepsContract) (usage note : String)
    (nodeSecrets : CommandMethod S L.Address (S.SecretKey × S.SecretKey))
    (hsecrets : Safe IsPanic nodeSecrets) (parts : List String) :
    Safe IsPanic (announceChannel C W P E L B usage note nodeSecrets parts) := by
  refine safe_usage _ _ _ _ fun hlen => ?_
  refine safe_keyArgument _ (by omega) _ fun pubkey => ?_
  refine safe_bind _ _ _ (safe_connectedPeer _) fun connection => ?_
  refine safe_bind _ _ _ (safe_fundChannel hB) fun funded => ?_
  refine safe_bind _ _ _ hsecrets fun nodeSks => ?_
  refine safe_bind _ _ _ (safe_toPeer _) fun wire => ?_
  exact safe_bind _ _ _ (safe_sendToPeer hP _ _) fun _ => safe_pure _ _

theorem safe_cmdSendChannelUpdate (hP : P.OpensSealed) (hC : C.AcceptsSecrets)
    (parts : List String) : Safe IsPanic (cmdSendChannelUpdate C W P E L parts) := by
  refine safe_usage _ _ _ _ fun hlen => ?_
  refine safe_keyArgument _ (by omega) _ fun pubkey => ?_
  refine safe_bind _ _ _ (safe_lift _ _ (settles_word parts 2 (by omega))) fun scidWord => ?_
  refine safe_okOr_bind _ _ _ _ fun scid => ?_
  refine safe_bind _ _ _ (safe_connectedPeer _) fun connection => ?_
  refine safe_bind _ _ _ (safe_orderedNodeSecrets hC) fun nodeSks => ?_
  refine safe_bind _ _ _ (safe_toPeer _) fun wire => ?_
  exact safe_bind _ _ _ (safe_sendToPeer hP _ _) fun _ => safe_pure _ _

theorem safe_cmdSendNodeAnnouncement (hP : P.OpensSealed) (hC : C.AcceptsSecrets)
    (parts : List String) : Safe IsPanic (cmdSendNodeAnnouncement C W P E L parts) := by
  refine safe_usage _ _ _ _ fun hlen => ?_
  refine safe_keyArgument _ (by omega) _ fun pubkey => ?_
  refine safe_bind _ _ _ (safe_connectedPeer _) fun connection => ?_
  refine safe_bind _ _ _ (safe_orderedNodeSecrets hC) fun nodeSks => ?_
  refine safe_bind _ _ _ (safe_toPeer _) fun wire => ?_
  exact safe_bind _ _ _ (safe_sendToPeer hP _ _) fun _ => safe_pure _ _

end

/-- A supplied message is refused or forwarded. -/
theorem settles_sendMessageWire (bytes : Bytes) : (sendMessageWire S bytes).Settles := by
  have hsettles : (Message.decode bytes : Outcome BoltError (Message S)).Settles :=
    Message.settles_decode bytes
  unfold sendMessageWire
  cases hdecode : (Message.decode bytes : Outcome BoltError (Message S)) with
  | ok m =>
      have hencode : (m.encode.mapErr SendMessageError.decodeFailed).Settles := by
        rw [Message.encode_eq]
        exact Outcome.settles_ok _
      cases m with
      | unknown t payload => exact Outcome.settles_err _
      | _ => exact hencode
  | err e => cases e <;> exact Outcome.settles_err _
  | panicked => exact absurd hdecode hsettles.1
  | diverged => exact absurd hdecode hsettles.2

/-- What is forwarded starts with the two bytes of its type. -/
theorem length_sendMessageWire (bytes wire : Bytes) (h : sendMessageWire S bytes = .ok wire) :
    2 ≤ wire.length := by
  rcases Message.sendMessageWire_eq_ok bytes wire h with ⟨m, -, hencode⟩
  rw [Message.encode_eq, Outcome.ok.injEq] at hencode
  rw [← hencode, List.length_append, write_uInt16_length]
  omega

section

variable [DecidableEq S.PublicKey]

theorem safe_cmdSendMessage (hP : P.OpensSealed) (parts : List String) :
    Safe IsPanic (cmdSendMessage C W P L parts) := by
  refine safe_usage _ _ _ _ fun hlen => ?_
  refine safe_keyArgument _ (by omega) _ fun pubkey => ?_
  refine safe_bind _ _ _ (safe_lift _ _ (settles_word parts 2 (by omega))) fun hexWord => ?_
  refine safe_okOr_bind _ _ _ _ fun bytes => ?_
  refine safe_lift_bind _ _ _ (Outcome.settles_mapErr _ _ (settles_sendMessageWire bytes))
    fun wire hwire => ?_
  have htype := length_sendMessageWire bytes wire ((Outcome.mapErr_eq_ok _ _ _).mp hwire)
  have hbyte : ∀ i, i < 2 → (Outcome.expect wire[i]? : Outcome String UInt8).Settles := by
    intro i hi
    rw [List.getElem?_eq_getElem (by omega)]
    exact Outcome.settles_ok _
  refine safe_bind _ _ _ (safe_connectedPeer _) fun connection => ?_
  refine safe_bind _ _ _ (safe_sendToPeer hP _ _) fun _ => ?_
  refine safe_bind _ _ _ (safe_lift _ _ (hbyte 0 (by decide))) fun hi => ?_
  exact safe_bind _ _ _ (safe_lift _ _ (hbyte 1 (by decide))) fun lo => safe_pure _ _

end

theorem safe_cmdPeers : Safe IsPanic (cmdPeers C W L) := by
  refine safe_bind _ _ _ (safe_waiting 0) fun _ => ?_
  refine safe_bind _ _ _ (safe_get _) fun s => ?_
  exact safe_ite _ _ _ _ (safe_pure _ _) (safe_pure _ _)

theorem safe_cmdInfo (nodeId : S.PublicKey) : Safe IsPanic (cmdInfo C W L B nodeId) := by
  refine safe_bind _ _ _ (safe_spawnBlocking _ ?_) fun result => ?_
  · refine safe_bind _ _ _ (safe_askOr _ _ _ _) fun blocks => ?_
    refine safe_bind _ _ _ (safe_askOr _ _ _ _) fun hash => ?_
    exact safe_bind _ _ _ (safe_askOr _ _ _ _) fun balance => safe_pure _ _
  rcases result with _ | _ | ⟨blocks, hash, balance⟩
  · exact safe_pure _ _
  · exact safe_pure _ _
  · refine safe_bind _ _ _ (safe_waiting 0) fun _ => ?_
    exact safe_bind _ _ _ (safe_get _) fun s => safe_pure _ _

/-- Mining as a task of its own ends in a reply without a panic, unless there is a
    fresh address and then no hash is returned. -/
theorem triple_spawnMine (blocks : Nat) (asked : List (Request L.Address))
    (hmined : ∀ checksum address, FundingReport L B W.drawn asked checksum address →
      B.generateToAddress (asked ++ fundingRequests L W.drawn checksum) blocks address ≠ .ok []) :
    Triple IsPanic (fun s : Server S L.Address => s.asked = asked)
      (spawnBlocking L (mine L B W.drawn blocks)) fun _ _ => True := by
  have hmine : Triple IsPanic (fun a => a = asked) (mine L B W.drawn blocks) fun _ _ => True := by
    refine triple_bind _ _ _ (triple_attempt _ _
      (triple_mineToFunding _ W.drawn blocks asked hmined)) fun r => ?_
    rcases r with e | ⟨msg, funding, scid⟩
    · exact (safe_pure _ _).triple
    · exact (safe_pure _ _).triple
  have hzoom : Triple IsPanic (fun s : Server S L.Address => s.asked = asked)
      (zoom Server.asked (fun asked s => { s with asked }) (mine L B W.drawn blocks))
      fun _ _ => True :=
    triple_zoom _ _ _ _ hmine (fun _ hs => hs) fun _ _ _ _ _ => trivial
  exact Triple.weaken _ _ (triple_spawn _ _ _ hzoom) (fun _ h => h) fun _ _ _ => trivial

/-- The `mine` command is free of panics when there are blocks to mine, or when
    bitcoind does not get that far. -/
theorem triple_cmdMine (hB : B.KeepsContract) (line : String) (asked : List (Request L.Address))
    (hcommand : (splitWhitespace line)[0]? = some "mine") (h : ¬ MinesNothing W L B line asked) :
    Triple IsPanic (fun s : Server S L.Address => s.asked = asked)
      (cmdMine C W L B (splitWhitespace line)) fun _ _ => True := by
  refine triple_bind _ _ _ (triple_lift _ _ (Outcome.settles_okOr _ _) fun n s hn hs => ⟨hn, hs⟩)
    fun n => triple_of_fact _ _ fun hn => ?_
  rcases Option.bind_eq_some_iff.mp ((Outcome.okOr_eq_ok _ _ _).mp hn) with ⟨word, hword, hparse⟩
  refine triple_bind _ _ _ (triple_spawnMine n asked ?_) fun r => ?_
  · -- No hash is returned for no block only, and that was ruled out.
    intro checksum address hreport hempty
    have hzero : n = 0 := (hB _ _ _ _ hempty).symm
    rw [hzero] at hparse hempty
    exact h ⟨word, checksum, address, [], hcommand, hword, hparse, hreport, hempty⟩
  · rcases r with _ | _ | reply
    · exact (safe_pure _ _).triple
    · exact (safe_pure _ _).triple
    · exact (safe_pure _ _).triple

section

variable [DecidableEq S.PublicKey]

/-- Every command but the exception is free of panics. -/
theorem triple_runCommand (hseal : P.OpensSealed) (hopen : P.OpensShorter) (hC : C.AcceptsSecrets)
    (hB : B.KeepsContract) (nodeId : S.PublicKey) (line : String)
    (asked : List (Request L.Address)) (h : ¬ MinesNothing W L B line asked) :
    Triple IsPanic (fun s : Server S L.Address => s.asked = asked)
      (runCommand C W P E L B nodeId (splitWhitespace line)) fun _ _ => True := by
  unfold runCommand
  split
  · exact (safe_cmdConnect hseal hopen hC _).triple
  · exact (safe_cmdDisconnect _).triple
  · exact (safe_announceChannel hseal hB _ _ _ (safe_bind _ _ _ (safe_nodeSecret hC)
      fun _ => safe_pure _ _) _).triple
  · exact (safe_announceChannel hseal hB _ _ _ (safe_orderedNodeSecrets hC) _).triple
  · exact (safe_cmdSendChannelUpdate hseal hC _).triple
  · exact (safe_cmdSendNodeAnnouncement hseal hC _).triple
  · exact (safe_cmdSendMessage hseal _).triple
  · exact safe_cmdPeers.triple
  · exact (safe_cmdInfo nodeId).triple
  · next hcommand =>
    rw [List.head?_eq_getElem?] at hcommand
    exact triple_cmdMine hB line asked hcommand h
  · exact (safe_bind _ _ _ (safe_modify _ _) fun _ => safe_pure _ _).triple
  · exact (safe_pure _ _).triple
  · exact (safe_pure _ _).triple

/-- The exception panics: a task for no blocks takes the first of no hashes. -/
theorem panic_of_minesNothing (hB : B.KeepsContract) (nodeId : S.PublicKey) (line : String)
    (s : Server S L.Address) (h : MinesNothing W L B line s.asked) :
    .taskPanicked ∈ ((handleCommand C W P E L B nodeId line).run s).trace := by
  rcases h with ⟨word, checksum, address, hashes, hcommand, hword, hparse, hreport, hhashes⟩
  have hempty : hashes = [] := List.eq_nil_of_length_eq_zero (hB _ _ _ _ hhashes)
  rw [hempty] at hhashes
  have hpanic : ((mine L B W.drawn 0 : RpcMethod CommandEvent _ _ _).run s.asked).outcome
      = .panicked := by
    refine (outcome_bind_eq_panicked _ _ _).mpr (Or.inl ?_)
    rw [run_attempt, mineToFunding_panicked W.drawn 0 s.asked checksum address hreport hhashes]
    rfl
  -- The task notes its panic, and the command goes on.
  have htask : .taskPanicked ∈ ((spawnBlocking L (mine L B W.drawn 0)
      : CommandMethod S _ _).run s).trace := by
    have hzoom : ((zoom Server.asked (fun asked s => { s with asked }) (mine L B W.drawn 0)
        : Method _ (Server S L.Address) _ _).run s).outcome = .panicked := hpanic
    unfold spawnBlocking
    rw [run_spawn, hzoom]
    exact List.mem_append_right _ (List.mem_singleton.mpr rfl)
  have hrun : runCommand C W P E L B nodeId (splitWhitespace line)
      = cmdMine C W L B (splitWhitespace line) := by
    unfold runCommand
    rw [List.head?_eq_getElem?, hcommand]
    rfl
  refine mem_trace_bind _ _ _ _ ?_
  rw [run_attempt, hrun]
  unfold cmdMine orReturn
  rw [hword, Option.bind_some, hparse, Outcome.okOr_some, run_lift_ok_bind]
  exact mem_trace_bind _ _ _ _ htask

/-- When a command is free of panics. For every line, every state of the peers map,
    whatever bitcoind answers within its contract and whatever the other tasks do, a
    command ends in a reply and no task panics, exactly if it does not ask for no
    blocks to be mined to an address that could be made. -/
theorem panic_free_iff (hseal : P.OpensSealed) (hopen : P.OpensShorter) (hC : C.AcceptsSecrets)
    (hB : B.KeepsContract) (nodeId : S.PublicKey) (line : String) (s : Server S L.Address) :
    PanicFree ((handleCommand C W P E L B nodeId line).run s)
      ↔ ¬ MinesNothing W L B line s.asked := by
  constructor
  · intro hfree hmines
    exact hfree.2 (panic_of_minesNothing hB nodeId line s hmines)
  · intro h
    have hcommand : Triple IsPanic (fun s' : Server S L.Address => s'.asked = s.asked)
        (handleCommand C W P E L B nodeId line) fun _ _ => True := by
      refine triple_bind _ _ _ (triple_attempt _ _
        (triple_runCommand hseal hopen hC hB nodeId line s.asked h)) fun r => ?_
      cases r with
      | ok reply => exact (safe_pure _ _).triple
      | error reply => exact (safe_pure _ _).triple
    rcases hcommand s rfl with ⟨hsettles, htrace, -⟩
    refine ⟨?_, fun hmem => htrace _ hmem rfl⟩
    cases ho : ((handleCommand C W P E L B nodeId line).run s).outcome with
    | ok reply => exact ⟨reply, rfl⟩
    | err e => exact nomatch e
    | panicked => exact absurd ho hsettles.1
    | diverged => exact absurd ho hsettles.2

end

end

/-- The value of a hexadecimal digit. -/
def hexDigit (c : Char) : Option UInt8 :=
  if c.isDigit then some (UInt8.ofNat (c.toNat - 48))
  else if 'a' ≤ c ∧ c ≤ 'f' then some (UInt8.ofNat (c.toNat - 87))
  else if 'A' ≤ c ∧ c ≤ 'F' then some (UInt8.ofNat (c.toNat - 55))
  else none

/-- The bytes that pairs of hexadecimal digits stand for. -/
def hexBytes : List Char → Option Bytes
  | [] => some []
  | hi :: lo :: rest => do
    let h ← hexDigit hi
    let l ← hexDigit lo
    let bytes ← hexBytes rest
    return (h * 16 + l) :: bytes
  | [_] => none

/-- Two hexadecimal digits for each byte. -/
def hexText (bytes : Bytes) : String :=
  String.ofList (bytes.flatMap fun b => [Nat.digitChar (b.toNat / 16), Nat.digitChar (b.toNat % 16)])

/-- Libraries that accept exactly the secrets they should. -/
def ControlCrates.transparent : ControlCrates .transparent where
  hexDecode word := hexBytes word.toList
  hexEncode := hexText
  SocketAddr := String
  parseSocketAddr word := some word
  keyText key := hexText key.toList
  secretFromSlice b := if 0 < beNat b.toList ∧ beNat b.toList < curveOrder then some b else none
  joinError := "task 1 panicked"

theorem ControlCrates.transparent_acceptsSecrets : transparent.AcceptsSecrets := by
  intro b hpos hlt
  simp only [transparent, hpos, hlt, and_self, if_true]
  exact Option.some_ne_none b

theorem Bitcoind.sample_keepsContract : sample.KeepsContract := by
  intro asked blocks address hashes h
  rw [← Except.ok.inj h, List.length_replicate]

/-- Surroundings in which nothing else happens. -/
def Surroundings.quiet : Surroundings ControlCrates.transparent where
  dial _ _ := { ephemeral := List.Vector.replicate 32 3, connected := .error "refused",
                writeActOne := .whole, writeActThree := .whole, writeInit := .whole }
  drawn := (List.Vector.replicate 32 1, List.Vector.replicate 32 2)
  written := .whole
  others _ shared := shared

/-- A server without peers that has made no request. -/
def Server.idle : Server .transparent String where
  shared := { peers := ⟨[], List.nodup_nil⟩,
              writers := fun _ => ⟨[], ⟨List.Vector.replicate 32 1, 0, List.Vector.replicate 32 2⟩⟩,
              connections := [], stopped := false }
  asked := []

/-- A line for one block. -/
theorem panic_free_iff_one :
    PanicFree ((handleCommand .transparent .quiet .transparent .transparent .transparent .sample
      (List.Vector.replicate 33 2) "mine 1").run Server.idle) := by
  refine (panic_free_iff Primitives.transparent_opensSealed Primitives.transparent_opensShorter
    ControlCrates.transparent_acceptsSecrets Bitcoind.sample_keepsContract _ _ _).mpr ?_
  rintro ⟨word, _, _, _, -, hword, hparse, -⟩
  have hone : (splitWhitespace "mine 1")[1]? = some "1" := by decide
  rw [hone, Option.some.injEq] at hword
  rw [← hword] at hparse
  exact absurd hparse (by decide)

/-- The line for no block panics. -/
theorem mine_zero_panics :
    Bitcoind.sample.KeepsContract
      ∧ ¬ PanicFree ((handleCommand .transparent .quiet .transparent .transparent .transparent
        .sample (List.Vector.replicate 33 2) "mine 0").run Server.idle) := by
  refine ⟨Bitcoind.sample_keepsContract, fun hfree => hfree.2 ?_⟩
  refine panic_of_minesNothing Bitcoind.sample_keepsContract _ _ _
    ⟨"0", "8fhd9pwu", "bcrt1q", [], by decide, by decide, by decide, ?_, rfl⟩
  refine ⟨⟨_, rfl, rfl⟩, ⟨_, "bcrt1q", rfl, rfl, rfl⟩, ⟨_, rfl, ?_⟩⟩
  simp [Json.item, Json.field]

end Simd

end LnGossipSim
