import LnGossipSim.Library.Results
import LnGossipSim.Simd.Command

/-!
# The Texts of Replies

The replies of a session are written one after the other, with nothing in between, so
each has to end in a line break of its own. Every reply of a command does, whether the
command was carried out or refused, and whatever the texts of the errors are that it
passes on. The one line without a reply is the line without words.

## Main definitions

* `EndsLine`: A text ends in a line break.

## Theorems

* `replies_runCommand`: Every reply ends in a line break.
-/

namespace LnGossipSim

namespace Simd

open Bolt Method Noise

/-- The text ends in a line break. -/
def EndsLine (reply : String) : Prop := ∃ front, reply = front ++ "\n"

theorem EndsLine.append (front reply : String) (h : EndsLine reply) :
    EndsLine (front ++ reply) := by
  rcases h with ⟨middle, rfl⟩
  exact ⟨front ++ middle, by rw [String.append_assoc]⟩

/-- Texts that all end in a line break, written one after the other. The induction is on
    those behind the first. -/
theorem endsLine_join (reply : String) (replies : List String) (h : EndsLine reply)
    (hreplies : ∀ reply ∈ replies, EndsLine reply) : EndsLine (String.join (reply :: replies)) := by
  induction replies generalizing reply with
  | nil =>
      rw [String.join_cons, String.join_nil, String.append_empty]
      exact h
  | cons next replies ih =>
      rw [String.join_cons]
      refine EndsLine.append reply _ (ih next (hreplies next List.mem_cons_self) ?_)
      exact fun reply' hreply' => hreplies reply' (List.mem_cons_of_mem next hreply')

section

variable {S : Secp256k1} {Address α : Type} {C : ControlCrates S} {W : Surroundings C}
  {Good : α → Prop}

theorem refuses_orReturn (reply : String) (x : Option α) (h : EndsLine reply) :
    Results (fun _ => True) EndsLine (orReturn reply x : CommandMethod S Address α) := by
  refine results_lift _ ?_
  cases x with
  | some a => trivial
  | none => exact h

theorem refuses_rejectIf (c : Prop) [Decidable c] (reply : String) (h : EndsLine reply) :
    Results (fun _ => True) EndsLine
      (Method.lift (Outcome.rejectIf c reply) : CommandMethod S Address Unit) := by
  refine results_lift _ ?_
  unfold Outcome.rejectIf
  by_cases hc : c
  · rw [if_pos hc]
    exact h
  · rw [if_neg hc]
    trivial

theorem refuses_expect (x : Option α) :
    Results (fun _ => True) EndsLine
      (Method.lift (Outcome.expect x) : CommandMethod S Address α) := by
  refine results_lift _ ?_
  cases x with
  | some a => trivial
  | none => trivial

theorem refuses_toWire (m : Message S) :
    Results (fun _ => True) EndsLine
      (Method.lift (toWire m) : CommandMethod S Address Bytes) := by
  refine results_lift _ ?_
  unfold toWire
  cases m.encode with
  | ok wire => trivial
  | err e => trivial
  | panicked => trivial
  | diverged => trivial

/-- A command that starts with the key of a peer. -/
theorem refuses_keyArgument (parts : List String) (n : Nat) (usage : String)
    (f : S.PublicKey → CommandMethod S Address α) (husage : EndsLine usage)
    (hf : ∀ key, Results Good EndsLine (f key)) :
    Results Good EndsLine (Method.lift (Outcome.rejectIf (parts.length ≠ n) usage) >>= fun _ =>
      Method.lift (Outcome.expect parts[1]?) >>= fun keyWord =>
        orReturn "Invalid pubkey\n" (parsePubkey C keyWord) >>= f) := by
  refine results_bind _ _ (refuses_rejectIf _ usage husage) fun _ _ => ?_
  refine results_bind _ _ (refuses_expect _) fun keyWord _ => ?_
  exact results_bind _ _ (refuses_orReturn _ _ ⟨"Invalid pubkey", rfl⟩) fun key _ => hf key

theorem refuses_connectedPeer [DecidableEq S.PublicKey] (peerPubkey : S.PublicKey) :
    Results (fun _ => True) EndsLine
      (connectedPeer C W peerPubkey : CommandMethod S Address Nat) := by
  refine results_bind _ _ (results_modify _) fun _ _ => ?_
  exact results_bind _ _ results_get fun s _ => refuses_orReturn _ _ ⟨_, rfl⟩

theorem refuses_sendToPeer (P : Primitives) (connection : Nat) (wire : Bytes) :
    Results (fun _ => True) EndsLine
      (sendToPeer C W P connection wire : CommandMethod S Address Unit) := by
  refine results_bind _ _ (results_modify _) fun _ _ => ?_
  exact results_mapErr _ _ fun e => ⟨_, rfl⟩

end

section

variable {S : Secp256k1} {C : ControlCrates S} {W : Surroundings C} {P : Primitives}
  {E : Signing S} {L : BitcoinCrate S} {B : Bitcoind L.Address}

theorem refuses_fundChannel : Results (fun _ => True) EndsLine (fundChannel C W L B) := by
  refine results_bind _ _ (results_spawn _ _ (results_true _)) fun result _ => ?_
  refine results_bind _ _ (results_modify _) fun _ _ => ?_
  rcases result with _ | _ | ⟨_, funding, scid⟩
  · exact results_lift _ ⟨_, rfl⟩
  · exact results_lift _ ⟨_, rfl⟩
  · exact results_pure _ trivial

theorem refuses_orderedNodeSecrets : Results (fun _ => True) EndsLine (orderedNodeSecrets C L) := by
  refine results_bind _ _ (refuses_expect _) fun skA _ => ?_
  refine results_bind _ _ (refuses_expect _) fun skB _ => ?_
  exact results_ite _ _ _ (results_pure _ trivial) (results_pure _ trivial)

/-- The text that mining returns. -/
theorem results_mineToFunding {τ : Type} (drawn : S.SecretKey × S.SecretKey) (blocks : Nat) :
    Results (fun mined => EndsLine mined.1) (fun _ => True)
      (mineToFunding L B drawn blocks : RpcMethod τ L.Address Error _) := by
  refine results_bind _ _ (results_true _) fun funding _ => ?_
  refine results_bind _ _ (results_true _) fun hashes _ => ?_
  refine results_bind _ _ (results_true _) fun firstHash _ => ?_
  exact results_bind _ _ (results_true _) fun scid _ => results_pure _ ⟨_, rfl⟩

theorem results_mine {τ : Type} (drawn : S.SecretKey × S.SecretKey) (blocks : Nat) :
    Results EndsLine (fun _ => True) (mine L B drawn blocks : RpcMethod τ L.Address Empty _) := by
  refine results_bind _ _ (results_attempt _ (results_mineToFunding drawn blocks))
    fun result hresult => ?_
  cases result with
  | ok mined => exact results_pure _ (hresult.1 mined rfl)
  | error e => exact results_pure _ ⟨_, rfl⟩

theorem replies_cmdMine (parts : List String) :
    Results EndsLine EndsLine (cmdMine C W L B parts) := by
  refine results_bind _ _ (refuses_orReturn _ _ ⟨"Usage: mine <blocks>", rfl⟩) fun blocks _ => ?_
  refine results_bind _ _ (results_spawn _ _ (results_zoom _ _ _ (results_mine _ _)))
    fun result hresult => ?_
  rcases result with _ | _ | reply
  · exact results_pure _ ⟨_, rfl⟩
  · exact results_pure _ ⟨_, rfl⟩
  · exact results_pure _ (hresult reply rfl)

theorem replies_cmdInfo (nodeId : S.PublicKey) :
    Results EndsLine EndsLine (cmdInfo C W L B nodeId) := by
  refine results_bind _ _ (results_spawn _ _ (results_true _)) fun result _ => ?_
  rcases result with _ | _ | ⟨blocks, hash, balance⟩
  · exact results_pure _ ⟨"Failed to query bitcoind", rfl⟩
  · exact results_pure _ ⟨"Failed to query bitcoind", rfl⟩
  · refine results_bind _ _ (results_modify _) fun _ _ => ?_
    exact results_bind _ _ results_get fun s _ => results_pure _ ⟨_, rfl⟩

/-- The listed peers have a line each. -/
theorem replies_cmdPeers : Results EndsLine EndsLine (cmdPeers C W L) := by
  refine results_bind _ _ (results_modify _) fun _ _ => ?_
  refine results_bind _ _ results_get fun s _ => ?_
  cases hentries : s.shared.peers.entries with
  | nil => exact results_pure _ ⟨"No connected peers", rfl⟩
  | cons e entries =>
      refine results_pure _ ?_
      rw [List.map_cons]
      exact endsLine_join (C.keyText e.1 ++ "\n") _ ⟨_, rfl⟩ fun reply hreply => by
        rcases List.mem_map.mp hreply with ⟨e', -, rfl⟩
        exact ⟨_, rfl⟩

section

variable [DecidableEq S.PublicKey]

theorem replies_cmdConnect (parts : List String) :
    Results EndsLine EndsLine (cmdConnect C W P L parts) := by
  refine refuses_keyArgument _ _ _ _ ⟨"Usage: connect <pubkey_hex> <host:port>", rfl⟩ fun key => ?_
  refine results_bind _ _ (refuses_expect _) fun addrWord _ => ?_
  refine results_bind _ _ (refuses_orReturn _ _ ⟨"Invalid address", rfl⟩) fun addr _ => ?_
  refine results_bind _ _ (refuses_expect _) fun secret _ => ?_
  refine results_bind _ _ (results_mapErr _ _ fun e => ⟨_, rfl⟩) fun halves _ => ?_
  refine results_bind _ _ (results_modify _) fun _ _ => ?_
  refine results_bind _ _ results_get fun s _ => ?_
  refine results_bind _ _ (results_modify _) fun _ _ => ?_
  refine results_bind _ _ (results_record _) fun _ _ => ?_
  refine results_bind _ _ (results_modify _) fun _ _ => ?_
  exact results_bind _ _ (results_modify _) fun _ _ => results_pure _ ⟨_, rfl⟩

theorem replies_cmdDisconnect (parts : List String) :
    Results EndsLine EndsLine (cmdDisconnect C W L parts) := by
  refine refuses_keyArgument _ _ _ _ ⟨"Usage: disconnect <pubkey_hex>", rfl⟩ fun key => ?_
  refine results_bind _ _ (results_modify _) fun _ _ => ?_
  refine results_bind _ _ results_get fun s _ => ?_
  refine results_bind _ _ (refuses_orReturn _ _ ⟨_, rfl⟩) fun connection _ => ?_
  refine results_bind _ _ (results_modify _) fun _ _ => ?_
  exact results_bind _ _ (results_record _) fun _ _ => results_pure _ ⟨_, rfl⟩

theorem replies_announceChannel (usage note : String)
    (nodeSecrets : CommandMethod S L.Address (S.SecretKey × S.SecretKey)) (parts : List String)
    (husage : EndsLine usage) (hsecrets : Results (fun _ => True) EndsLine nodeSecrets) :
    Results EndsLine EndsLine (announceChannel C W P E L B usage note nodeSecrets parts) := by
  refine refuses_keyArgument _ _ _ _ husage fun key => ?_
  refine results_bind _ _ (refuses_connectedPeer key) fun connection _ => ?_
  refine results_bind _ _ refuses_fundChannel fun funded _ => ?_
  refine results_bind _ _ hsecrets fun nodeSks _ => ?_
  refine results_bind _ _ (refuses_toWire _) fun wire _ => ?_
  exact results_bind _ _ (refuses_sendToPeer _ _ _) fun _ _ => results_pure _ ⟨_, rfl⟩

theorem replies_cmdSendChannelUpdate (parts : List String) :
    Results EndsLine EndsLine (cmdSendChannelUpdate C W P E L parts) := by
  refine refuses_keyArgument _ _ _ _ ⟨"Usage: sendchannelupdate <pubkey_hex> <scid>", rfl⟩
    fun key => ?_
  refine results_bind _ _ (refuses_expect _) fun scidWord _ => ?_
  refine results_bind _ _
    (refuses_orReturn _ _ ⟨"Invalid scid (expected block x tx x output)", rfl⟩) fun scid _ => ?_
  refine results_bind _ _ (refuses_connectedPeer key) fun connection _ => ?_
  refine results_bind _ _ refuses_orderedNodeSecrets fun nodeSks _ => ?_
  refine results_bind _ _ (refuses_toWire _) fun wire _ => ?_
  exact results_bind _ _ (refuses_sendToPeer _ _ _) fun _ _ => results_pure _ ⟨_, rfl⟩

theorem replies_cmdSendNodeAnnouncement (parts : List String) :
    Results EndsLine EndsLine (cmdSendNodeAnnouncement C W P E L parts) := by
  refine refuses_keyArgument _ _ _ _ ⟨"Usage: sendnodeannouncement <pubkey_hex>", rfl⟩
    fun key => ?_
  refine results_bind _ _ (refuses_connectedPeer key) fun connection _ => ?_
  refine results_bind _ _ refuses_orderedNodeSecrets fun nodeSks _ => ?_
  refine results_bind _ _ (refuses_toWire _) fun wire _ => ?_
  exact results_bind _ _ (refuses_sendToPeer _ _ _) fun _ _ => results_pure _ ⟨_, rfl⟩

theorem replies_cmdSendMessage (parts : List String) :
    Results EndsLine EndsLine (cmdSendMessage C W P L parts) := by
  refine refuses_keyArgument _ _ _ _ ⟨"Usage: sendmessage <pubkey_hex> <message_hex>", rfl⟩
    fun key => ?_
  refine results_bind _ _ (refuses_expect _) fun hexWord _ => ?_
  refine results_bind _ _ (refuses_orReturn _ _ ⟨"Invalid message hex", rfl⟩) fun bytes _ => ?_
  have hwire : Results (fun _ => True) EndsLine
      (Method.lift ((sendMessageWire S bytes).mapErr (refusal C)) :
        CommandMethod S L.Address Bytes) := by
    refine results_mapErr (refusal C) (Method.lift (sendMessageWire S bytes)) fun e => ?_
    -- A message that is not sent is refused for its type or for its content.
    cases e with
    | unknownMessageType msgType =>
        exact EndsLine.append s!"Unknown message type {msgType}"
          ": add the corresponding codec for it\n" ⟨": add the corresponding codec for it", rfl⟩
    | decodeFailed e => exact ⟨_, rfl⟩
  refine results_bind _ _ hwire fun wire _ => ?_
  refine results_bind _ _ (refuses_connectedPeer key) fun connection _ => ?_
  refine results_bind _ _ (refuses_sendToPeer _ _ _) fun _ _ => ?_
  refine results_bind _ _ (refuses_expect _) fun hi _ => ?_
  exact results_bind _ _ (refuses_expect _) fun lo _ => results_pure _ ⟨_, rfl⟩

/-- Every reply to a line with words ends in a line break. -/
theorem replies_runCommand (nodeId : S.PublicKey) (parts : List String) (hparts : parts ≠ []) :
    Results EndsLine EndsLine (runCommand C W P E L B nodeId parts) := by
  unfold runCommand
  split
  · exact replies_cmdConnect parts
  · exact replies_cmdDisconnect parts
  · refine replies_announceChannel _ _ _ _ ⟨"Usage: sendchannelannouncement <pubkey_hex>", rfl⟩ ?_
    exact results_bind _ _ (refuses_expect _) fun ourSk _ => results_pure _ trivial
  · exact replies_announceChannel _ _ _ _ ⟨"Usage: sendchannelannouncement2 <pubkey_hex>", rfl⟩
      refuses_orderedNodeSecrets
  · exact replies_cmdSendChannelUpdate parts
  · exact replies_cmdSendNodeAnnouncement parts
  · exact replies_cmdSendMessage parts
  · exact replies_cmdPeers
  · exact replies_cmdInfo nodeId
  · exact replies_cmdMine parts
  -- `stop`, and below it a first word that names no command.
  · exact results_bind _ _ (results_modify _) fun _ _ => results_pure _ ⟨"Stopping daemon", rfl⟩
  · exact results_pure _ ⟨_, rfl⟩
  · next hhead => exact absurd (List.head?_eq_none_iff.mp hhead) hparts

end

end

end Simd

end LnGossipSim
