import LnGossipSim.Simd.Command
import LnGossipSim.Simd.Peers

/-!
# Commands as Steps of the Peers Map

The peers map was modelled twice: once as a system of events, and once as what
the commands read and change. Here the commands are shown to take the steps of
that system. A shared state is in the state of the system that has its map and its
connections.

Two commands change the map. A `disconnect` command takes the step of that name, and
aborts the reader whose entry it found. A `connect` command with a connection spawns
its reader, waits for the lock, and inserts its entry, which is a step as long as no
other task did that meanwhile. When they are refused they do not change the map.

What any command does is put together from a few changes: what the other tasks do
while it waits, sending on a connection, the request to stop, the changes of those
two commands, and requests to bitcoind. A relation that holds of these holds of
every command. A command makes its requests at one place, so a relation need not
compose with itself to hold across them, as long as it absorbs the other changes.

## Main definitions

* `Shared.daemon`: The state of the system that a shared state is in.
* `Shared.send`, `Shared.connected`: Two of the changes.
* `Respects`, `RespectsRequests`: A relation that holds of the changes that every
  command may make, and of its requests.

## Theorems

* `disconnect_refines`, `connect_refines`: The commands that change the map.
* `movesUnlessOk_cmdConnect`, `movesUnlessOk_cmdDisconnect`: When they are refused.
* `moves_cmdConnect`, `moves_cmdDisconnect`: All that they change.
* `moves_handleCommand`: All that any command changes.
-/

namespace LnGossipSim

namespace Simd

open Bolt Method Noise

/-- The state of the system that a shared state is in. -/
def Shared.daemon {S : Secp256k1} [DecidableEq S.PublicKey] (sh : Shared S) :
    Daemon S.PublicKey where
  peers := sh.peers.get
  connections := sh.connections

section

variable {S : Secp256k1} [DecidableEq S.PublicKey] (sh : Shared S) (pubkey : S.PublicKey)

/-- A new connection is the step that spawns its reader. -/
theorem Shared.step_spawn (writer : NoiseWriter) :
    sh.daemon.step (.spawn pubkey) = some (sh.spawn pubkey writer).daemon := rfl

/-- Inserting an entry is a step as long as that was not done. -/
theorem Shared.step_insert (i : Nat) (c : Connection S.PublicKey)
    (hc : sh.connections[i]? = some c) (hkey : c.key = pubkey) (hpending : c.inserted = false) :
    sh.daemon.step (.insert i) = some (sh.insert pubkey i).daemon := by
  refine (Daemon.step_insert _ _ _).mpr ⟨c, hc, hpending, ?_⟩
  have hpeers : (sh.insert pubkey i).daemon.peers
      = Function.update sh.peers.get c.key (some i) := by
    rw [hkey]
    exact sh.get_insert pubkey i
  exact congrArg (Daemon.mk · _) hpeers

/-- Removing an entry is the step that disconnects its peer. -/
theorem Shared.step_disconnect (i : Nat) (hentry : sh.peers.get pubkey = some i) :
    sh.daemon.step (.disconnect pubkey) = some (sh.disconnect pubkey i).daemon := by
  refine (Daemon.step_disconnect _ _ _).mpr (Or.inr ⟨i, hentry, ?_⟩)
  exact congrArg (Daemon.mk · _) (sh.get_disconnect pubkey i)

end

/-- Connecting happens on local variables, so the state of the caller stays as it
    is. -/
theorem moves_connect {S : Secp256k1} {σ : Type} (R : σ → σ → Prop) [IsPreorder σ R]
    (P : Primitives) (hexEncode : Bytes → String) (theirNodeId : S.PublicKey)
    (ourStatic : S.SecretKey) (dial : Dial S) :
    Moves R (connect P hexEncode theirNodeId ourStatic dial : NoiseMethod σ _ _) := by
  refine moves_bind _ _ _ ?_ fun halves => ?_
  · refine moves_bind _ _ _ (moves_lift _ _) fun stream => ?_
    refine moves_bind _ _ _ (moves_withLocal _ _ _) fun actOne => ?_
    refine moves_bind _ _ _ (moves_withLocal _ _ _) fun written => ?_
    refine moves_bind _ _ _ (moves_withLocal _ _ _) fun actTwo => ?_
    refine moves_bind _ _ _ (moves_withLocal _ _ _) fun actThree => ?_
    refine moves_bind _ _ _ (moves_withLocal _ _ _) fun written => ?_
    exact moves_bind _ _ _ (moves_withLocal _ _ _) fun cipher => moves_pure _ _
  · refine moves_bind _ _ _ (moves_withLocal _ _ _) fun raw => ?_
    refine moves_bind _ _ _ (moves_lift _ _) fun received => ?_
    refine moves_bind _ _ _ (moves_lift _ _) fun wire => ?_
    exact moves_bind _ _ _ (moves_withLocal _ _ _) fun sent => moves_pure _ _

/-- A connection that is made, as the command calls for it. -/
theorem run_established {S : Secp256k1} {σ : Type} (failed : NoiseError → String) (P : Primitives)
    (hexEncode : Bytes → String) (theirNodeId : S.PublicKey) (ourStatic : S.SecretKey)
    (dial : Dial S) (s : σ) (halves : NoiseWriter × NoiseReader × S.PublicKey)
    (h : ((connect P hexEncode theirNodeId ourStatic dial).run s).outcome = .ok halves) :
    (mapErr failed (noting CommandEvent.primitive
      (connect P hexEncode theirNodeId ourStatic dial))).run s
        = ⟨.ok halves, s, ((connect P hexEncode theirNodeId ourStatic dial).run s).trace.map
          .primitive⟩ := by
  have hstate := moves_connect Eq P hexEncode theirNodeId ourStatic dial s
  rw [run_mapErr_noting, h, Outcome.mapErr_ok, ← hstate]

section

variable {S : Secp256k1} {Address α : Type} (C : ControlCrates S)
  (R : Server S Address → Server S Address → Prop) [IsPreorder _ R]

theorem moves_orReturn (reply : String) (x : Option α) :
    Moves R (orReturn reply x : CommandMethod S Address α) := moves_lift _ _

theorem moves_nodeSecret : Moves R (nodeSecret C : CommandMethod S Address S.SecretKey) :=
  moves_lift _ _

theorem moves_nodeSecret2 : Moves R (nodeSecret2 C : CommandMethod S Address S.SecretKey) :=
  moves_lift _ _

end

/-- The key that the second word stands for is read without a change. -/
theorem moves_keyArgument {S : Secp256k1} {Address α : Type} (C : ControlCrates S)
    (R : Server S Address → Server S Address → Prop) [Std.Refl R] (parts : List String) (n : Nat)
    (usage : String) (f : S.PublicKey → CommandMethod S Address α) (hf : ∀ key, Moves R (f key)) :
    Moves R (Method.lift (Outcome.rejectIf (parts.length ≠ n) usage) >>= fun _ =>
      Method.lift (Outcome.expect parts[1]?) >>= fun keyWord =>
        orReturn "Invalid pubkey\n" (parsePubkey C keyWord) >>= f) := by
  refine moves_lift_bind _ _ _ fun _ _ => ?_
  exact moves_lift_bind _ _ _ fun _ _ => moves_lift_bind _ _ _ fun key _ => hf key

theorem moves_orderedNodeSecrets {S : Secp256k1} (C : ControlCrates S) (L : BitcoinCrate S)
    (R : Server S L.Address → Server S L.Address → Prop) [IsPreorder _ R] :
    Moves R (orderedNodeSecrets C L) := by
  refine moves_bind _ _ _ (moves_nodeSecret C _) fun skA => ?_
  refine moves_bind _ _ _ (moves_nodeSecret2 C _) fun skB => ?_
  exact moves_ite _ _ _ _ (moves_pure _ _) (moves_pure _ _)

/-- A command with the right number of words goes on with the key that the second
    one stands for. -/
theorem run_keyArgument {S : Secp256k1} {C : ControlCrates S} {Address α : Type}
    (parts : List String) (n : Nat) (usage keyWord : String) (pubkey : S.PublicKey)
    (f : S.PublicKey → CommandMethod S Address α) (s : Server S Address)
    (hlen : parts.length = n) (hword : parts[1]? = some keyWord)
    (hkey : parsePubkey C keyWord = some pubkey) :
    (Method.lift (Outcome.rejectIf (parts.length ≠ n) usage) >>= fun _ =>
      Method.lift (Outcome.expect parts[1]?) >>= fun keyWord =>
        orReturn "Invalid pubkey\n" (parsePubkey C keyWord) >>= f).run s = (f pubkey).run s := by
  rw [Outcome.rejectIf_of_not _ _ (not_not.mpr hlen), run_lift_ok_bind, hword, Outcome.expect_some,
    run_lift_ok_bind, hkey]
  exact run_lift_ok_bind pubkey f s

section

variable {S : Secp256k1} [DecidableEq S.PublicKey] {C : ControlCrates S} {W : Surroundings C}
  {P : Primitives} {L : BitcoinCrate S}

/-- A `disconnect` command takes the step of that name from what the other tasks
    left, and aborts the reader whose entry it found. -/
theorem disconnect_refines (s : Server S L.Address) (command keyWord : String)
    (pubkey : S.PublicKey) (hkey : parsePubkey C keyWord = some pubkey) :
    let r := (cmdDisconnect C W L [command, keyWord]).run s
    let found := W.others 0 s.shared
    found.daemon.step (.disconnect pubkey) = some r.state.shared.daemon
      ∧ r.trace = (found.peers.get pubkey).toList.map .readerAborted := by
  intro r found
  have hr : r = (cmdDisconnect C W L [command, keyWord]).run s := rfl
  unfold cmdDisconnect at hr
  rw [run_keyArgument [command, keyWord] 2 _ keyWord pubkey _ s rfl rfl hkey] at hr
  unfold waiting orReturn at hr
  rw [run_modify_bind, run_get_bind] at hr
  cases hentry : found.peers.get pubkey with
  | none =>
      -- The step of the system leaves everything as it is, and so does the command.
      simp only [show (W.others 0 s.shared).peers.get pubkey = none from hentry,
        Outcome.okOr_none, run_lift_err_bind] at hr
      rw [hr]
      exact ⟨(Daemon.step_disconnect _ _ _).mpr (Or.inl ⟨hentry, rfl⟩), rfl⟩
  | some i =>
      simp only [show (W.others 0 s.shared).peers.get pubkey = some i from hentry,
        Outcome.okOr_some, run_lift_ok_bind, run_modify_bind, run_record_bind] at hr
      rw [hr]
      exact ⟨found.step_disconnect pubkey i hentry, rfl⟩

/-- A `connect` command that gets a connection takes two steps: it spawns its reader
    in what the other tasks left, and inserts its entry in what they left next, as long
    as they did not do that. -/
theorem connect_refines (s : Server S L.Address) (command keyWord addrWord : String)
    (pubkey : S.PublicKey) (addr : C.SocketAddr) (secret : S.SecretKey)
    (halves : NoiseWriter × NoiseReader × S.PublicKey) (hkey : parsePubkey C keyWord = some pubkey)
    (haddr : C.parseSocketAddr addrWord = some addr)
    (hsecret : C.secretFromSlice seed = some secret)
    (hconnect : ((connect P C.hexEncode pubkey secret (W.dial addr pubkey)).run s).outcome
      = .ok halves) :
    let r := (cmdConnect C W P L [command, keyWord, addrWord]).run s
    let found := W.others 0 s.shared
    let i := found.connections.length
    let spawned := found.spawn pubkey halves.1
    let later := W.others 1 spawned
    .readerSpawned i ∈ r.trace ∧ found.daemon.step (.spawn pubkey) = some spawned.daemon
      ∧ ∀ c, later.connections[i]? = some c → c.key = pubkey → c.inserted = false →
        later.daemon.step (.insert i) = some r.state.shared.daemon := by
  intro r found i spawned later
  have hr : r = (cmdConnect C W P L [command, keyWord, addrWord]).run s := rfl
  unfold cmdConnect at hr
  rw [run_keyArgument [command, keyWord, addrWord] 3 _ keyWord pubkey _ s rfl rfl hkey] at hr
  unfold orReturn nodeSecret waiting at hr
  simp only [List.getElem?_cons_succ, List.getElem?_cons_zero, Outcome.expect_some, haddr, hsecret,
    Outcome.okOr_some, run_lift_ok_bind] at hr
  rw [run_bind_of_ok _ _ s s halves _ (run_established _ P _ _ _ _ s halves hconnect)] at hr
  simp only [run_modify_bind, run_get_bind, run_record_bind, run_pure] at hr
  refine ⟨?_, found.step_spawn pubkey halves.1, fun c hc hkey' hpending => ?_⟩
  · rw [hr]
    exact List.mem_append_right _ (List.mem_singleton.mpr rfl)
  · rw [hr]
    exact later.step_insert pubkey i c hc hkey' hpending

/-- A `connect` command that gets no connection changes nothing. -/
theorem movesUnlessOk_cmdConnect (parts : List String) :
    MovesUnlessOk Eq (cmdConnect C W P L parts) := by
  refine movesUnlessOk_bind _ _ _ (moves_lift _ _) fun _ => ?_
  refine movesUnlessOk_bind _ _ _ (moves_lift _ _) fun keyWord => ?_
  refine movesUnlessOk_bind _ _ _ (moves_orReturn _ _ _) fun pubkey => ?_
  refine movesUnlessOk_bind _ _ _ (moves_lift _ _) fun addrWord => ?_
  refine movesUnlessOk_bind _ _ _ (moves_orReturn _ _ _) fun addr => ?_
  refine movesUnlessOk_bind _ _ _ (moves_nodeSecret C _) fun secret => ?_
  refine movesUnlessOk_bind _ _ _ (moves_mapErr _ _ _ (moves_noting _ _ _ ?_)) fun halves => ?_
  · exact moves_connect _ _ _ _ _ _
  · -- With a connection nothing is refused any more.
    refine movesUnlessOk_of_ok _ _ fun s => ?_
    unfold waiting
    simp only [run_modify_bind, run_get_bind, run_record_bind]
    exact ⟨_, rfl⟩

end

/-- The relation of the shared states. -/
def OnShared {S : Secp256k1} {Address : Type} (R : Shared S → Shared S → Prop)
    (s s' : Server S Address) : Prop := R s.shared s'.shared

instance {S : Secp256k1} {Address : Type} (R : Shared S → Shared S → Prop) [IsPreorder _ R] :
    IsPreorder (Server S Address) (OnShared R) where
  refl s := refl_of R s.shared
  trans _ _ _ h h' := trans_of R h h'

/-- What sending on a connection leaves. -/
def Shared.send {S : Secp256k1} (P : Primitives) (result : WriteResult) (connection : Nat)
    (wire : Bytes) (sh : Shared S) : Shared S :=
  { sh with
    writers := Function.update sh.writers connection
      ((NoiseWriter.send P result wire).run (sh.writers connection)).state }

/-- What a new connection leaves, with what the other tasks do before its entry is
    inserted. -/
def Shared.connected {S : Secp256k1} [DecidableEq S.PublicKey] (others : Shared S → Shared S)
    (pubkey : S.PublicKey) (writer : NoiseWriter) (sh : Shared S) : Shared S :=
  (others (sh.spawn pubkey writer)).insert pubkey sh.connections.length

/-- The relation holds of what the other tasks do, of sending on a connection, and of
    the request to stop. -/
structure Respects {S : Secp256k1} {C : ControlCrates S} {Address : Type} (W : Surroundings C)
    (P : Primitives) (R : Server S Address → Server S Address → Prop) : Prop where
  others : ∀ n s, R s { s with shared := W.others n s.shared }
  sends : ∀ connection wire s, R s { s with shared := s.shared.send P W.written connection wire }
  stops : ∀ s, R s { s with shared := { s.shared with stopped := true } }

/-- The relation holds of what the command with these words requests of bitcoind. -/
structure RespectsRequests {S : Secp256k1} {C : ControlCrates S} {L : BitcoinCrate S}
    (W : Surroundings C) (B : Bitcoind L.Address) (parts : List String)
    (Q : Server S L.Address → Server S L.Address → Prop) : Prop where
  informs : parts.head? = some "info" → Moves Q (spawnBlocking L (chainInfo B))
  mines : parts.head? = some "mine" → ∀ blocks, parts[1]?.bind parseUsize = some blocks →
    Moves Q (spawnBlocking L (mine L B W.drawn blocks))
  funds : parts.head? = some "sendchannelannouncement"
      ∨ parts.head? = some "sendchannelannouncement2" →
    Moves Q (spawnBlocking L (mineToFunding L B W.drawn 6))

/-- Requests to bitcoind change nothing that is shared. -/
theorem respectsRequests_onShared {S : Secp256k1} {C : ControlCrates S} {L : BitcoinCrate S}
    {B : Bitcoind L.Address} (R : Shared S → Shared S → Prop) [IsPreorder _ R] (W : Surroundings C)
    (parts : List String) : RespectsRequests W B parts (OnShared R) where
  informs _ s := refl_of R s.shared
  mines _ _ _ s := refl_of R s.shared
  funds _ s := refl_of R s.shared

section

variable {S : Secp256k1} {C : ControlCrates S} {W : Surroundings C} {P : Primitives}
  {Address : Type} {R : Server S Address → Server S Address → Prop} (hR : Respects W P R)

include hR

theorem moves_waiting (n : Nat) : Moves R (waiting C W n : CommandMethod S Address Unit) :=
  moves_modify _ _ fun s => hR.others n s

variable [IsPreorder _ R]

theorem moves_sendToPeer (connection : Nat) (wire : Bytes) :
    Moves R (sendToPeer C W P connection wire : CommandMethod S Address Unit) := by
  refine moves_bind _ _ _ (moves_waiting hR 2) fun _ => moves_mapErr _ _ _ ?_
  exact fun s => hR.sends connection wire s

theorem moves_connectedPeer [DecidableEq S.PublicKey] (peerPubkey : S.PublicKey) :
    Moves R (connectedPeer C W peerPubkey : CommandMethod S Address Nat) := by
  refine moves_bind _ _ _ (moves_waiting hR 0) fun _ => ?_
  exact moves_bind _ _ _ (moves_get _) fun s => moves_orReturn _ _ _

end

section

variable {S : Secp256k1} {C : ControlCrates S} {W : Surroundings C} {P : Primitives}
  {E : Signing S} {L : BitcoinCrate S} {B : Bitcoind L.Address}
  {R Q : Server S L.Address → Server S L.Address → Prop} [IsPreorder _ R] (hR : Respects W P R)

include hR

section

variable (hQ : Absorbs R Q)

include hQ

theorem moves_fundChannel (hfund : Moves Q (spawnBlocking L (mineToFunding L B W.drawn 6))) :
    Moves Q (fundChannel C W L B) := by
  refine moves_bind_after R Q hQ _ _ hfund fun result => ?_
  refine moves_bind _ _ _ (moves_waiting hR 1) fun _ => ?_
  rcases result with _ | _ | ⟨_, funding, scid⟩
  · exact moves_lift _ _
  · exact moves_lift _ _
  · exact moves_pure _ _

theorem moves_announceChannel [DecidableEq S.PublicKey] (usage note : String)
    (nodeSecrets : CommandMethod S L.Address (S.SecretKey × S.SecretKey))
    (hsecrets : Moves R nodeSecrets) (parts : List String)
    (hfund : Moves Q (spawnBlocking L (mineToFunding L B W.drawn 6))) :
    Moves Q (announceChannel C W P E L B usage note nodeSecrets parts) := by
  have := hQ.refl
  refine moves_keyArgument C _ _ _ _ _ fun pubkey => ?_
  refine moves_bind_before R Q hQ _ _ (moves_connectedPeer hR pubkey) fun connection => ?_
  refine moves_bind_after R Q hQ _ _ (moves_fundChannel hR hQ hfund) fun funded => ?_
  refine moves_bind _ _ _ hsecrets fun nodeSks => ?_
  refine moves_bind _ _ _ (moves_lift _ _) fun wire => ?_
  exact moves_bind _ _ _ (moves_sendToPeer hR _ _) fun _ => moves_pure _ _

theorem moves_cmdInfo (nodeId : S.PublicKey) (hinfo : Moves Q (spawnBlocking L (chainInfo B))) :
    Moves Q (cmdInfo C W L B nodeId) := by
  refine moves_bind_after R Q hQ _ _ hinfo fun result => ?_
  rcases result with _ | _ | ⟨blocks, hash, balance⟩
  · exact moves_pure _ _
  · exact moves_pure _ _
  · refine moves_bind _ _ _ (moves_waiting hR 0) fun _ => ?_
    exact moves_bind _ _ _ (moves_get _) fun s => moves_pure _ _

omit hR in
theorem moves_cmdMine (W : Surroundings C) (parts : List String)
    (hmine : ∀ blocks, parts[1]?.bind parseUsize = some blocks →
      Moves Q (spawnBlocking L (mine L B W.drawn blocks))) :
    Moves Q (cmdMine C W L B parts) := by
  have := hQ.refl
  refine moves_lift_bind _ _ _ fun blocks hblocks => ?_
  have hmined := hmine blocks ((Outcome.okOr_eq_ok _ _ _).mp hblocks)
  refine moves_bind_after R Q hQ _ _ hmined fun result => ?_
  rcases result with _ | _ | reply
  · exact moves_pure _ _
  · exact moves_pure _ _
  · exact moves_pure _ _

end

section

variable [DecidableEq S.PublicKey]

theorem moves_cmdSendChannelUpdate (parts : List String) :
    Moves R (cmdSendChannelUpdate C W P E L parts) := by
  refine moves_keyArgument C _ _ _ _ _ fun pubkey => ?_
  refine moves_bind _ _ _ (moves_lift _ _) fun scidWord => ?_
  refine moves_bind _ _ _ (moves_orReturn _ _ _) fun scid => ?_
  refine moves_bind _ _ _ (moves_connectedPeer hR pubkey) fun connection => ?_
  refine moves_bind _ _ _ (moves_orderedNodeSecrets C L _) fun nodeSks => ?_
  refine moves_bind _ _ _ (moves_lift _ _) fun wire => ?_
  exact moves_bind _ _ _ (moves_sendToPeer hR _ _) fun _ => moves_pure _ _

theorem moves_cmdSendNodeAnnouncement (parts : List String) :
    Moves R (cmdSendNodeAnnouncement C W P E L parts) := by
  refine moves_keyArgument C _ _ _ _ _ fun pubkey => ?_
  refine moves_bind _ _ _ (moves_connectedPeer hR pubkey) fun connection => ?_
  refine moves_bind _ _ _ (moves_orderedNodeSecrets C L _) fun nodeSks => ?_
  refine moves_bind _ _ _ (moves_lift _ _) fun wire => ?_
  exact moves_bind _ _ _ (moves_sendToPeer hR _ _) fun _ => moves_pure _ _

theorem moves_cmdSendMessage (parts : List String) :
    Moves R (cmdSendMessage C W P L parts) := by
  refine moves_keyArgument C _ _ _ _ _ fun pubkey => ?_
  refine moves_bind _ _ _ (moves_lift _ _) fun hexWord => ?_
  refine moves_bind _ _ _ (moves_orReturn _ _ _) fun bytes => ?_
  refine moves_bind _ _ _ (moves_lift _ _) fun wire => ?_
  refine moves_bind _ _ _ (moves_connectedPeer hR pubkey) fun connection => ?_
  refine moves_bind _ _ _ (moves_sendToPeer hR _ _) fun _ => ?_
  refine moves_bind _ _ _ (moves_lift _ _) fun hi => ?_
  exact moves_bind _ _ _ (moves_lift _ _) fun lo => moves_pure _ _

end

theorem moves_cmdPeers : Moves R (cmdPeers C W L) := by
  refine moves_bind _ _ _ (moves_waiting hR 0) fun _ => ?_
  refine moves_bind _ _ _ (moves_get _) fun s => ?_
  exact moves_ite _ _ _ _ (moves_pure _ _) (moves_pure _ _)

section

variable [DecidableEq S.PublicKey]

/-- A `disconnect` command that is refused leaves the map to the other tasks. -/
theorem movesUnlessOk_cmdDisconnect (parts : List String) :
    MovesUnlessOk R (cmdDisconnect C W L parts) := by
  refine movesUnlessOk_bind _ _ _ (moves_lift _ _) fun _ => ?_
  refine movesUnlessOk_bind _ _ _ (moves_lift _ _) fun keyWord => ?_
  refine movesUnlessOk_bind _ _ _ (moves_orReturn _ _ _) fun pubkey => ?_
  refine movesUnlessOk_bind _ _ _ (moves_waiting hR 0) fun _ => ?_
  refine movesUnlessOk_bind _ _ _ (moves_get _) fun s => ?_
  refine movesUnlessOk_bind _ _ _ (moves_orReturn _ _ _) fun connection => ?_
  -- With an entry the command is not refused any more.
  refine movesUnlessOk_of_ok _ _ fun s' => ?_
  rw [run_modify_bind, run_record_bind]
  exact ⟨_, rfl⟩

/-- A `disconnect` command removes an entry at most. -/
theorem moves_cmdDisconnect
    (hremoves : ∀ pubkey connection (s : Server S L.Address),
      s.shared.peers.get pubkey = some connection →
        R s { s with shared := s.shared.disconnect pubkey connection })
    (parts : List String) : Moves R (cmdDisconnect C W L parts) := by
  refine moves_keyArgument C _ _ _ _ _ fun pubkey => ?_
  refine moves_bind _ _ _ (moves_waiting hR 0) fun _ s => ?_
  rw [run_get_bind]
  unfold orReturn
  cases hentry : s.shared.peers.get pubkey with
  | none =>
      simp only [Outcome.okOr_none, run_lift_err_bind]
      exact refl_of R s
  | some connection =>
      simp only [Outcome.okOr_some, run_lift_ok_bind, run_modify_bind, run_record_bind]
      exact hremoves pubkey connection s hentry

/-- A `connect` command makes a connection at most. -/
theorem moves_cmdConnect
    (hconnects : ∀ pubkey writer (s : Server S L.Address),
      R s { s with shared := s.shared.connected (W.others 1) pubkey writer })
    (parts : List String) : Moves R (cmdConnect C W P L parts) := by
  refine moves_keyArgument C _ _ _ _ _ fun pubkey => ?_
  refine moves_bind _ _ _ (moves_lift _ _) fun addrWord => ?_
  refine moves_bind _ _ _ (moves_orReturn _ _ _) fun addr => ?_
  refine moves_bind _ _ _ (moves_nodeSecret C _) fun secret => ?_
  refine moves_bind _ _ _ (moves_mapErr _ _ _ (moves_noting _ _ _ ?_)) fun halves => ?_
  · exact moves_connect _ _ _ _ _ _
  refine moves_bind _ _ _ (moves_waiting hR 0) fun _ s => ?_
  -- From here on the command is not refused any more.
  have hdone := hconnects pubkey halves.1 s
  unfold waiting
  simp only [run_get_bind, run_modify_bind, run_record_bind]
  exact hdone

/-- Whatever relates what the other tasks do, and what sending, connecting,
    disconnecting and requests to bitcoind do, relates what any command and they do
    together. A command makes its requests at one place, so what these do may be more
    than what all else does. -/
theorem moves_handleCommand (hQ : Absorbs R Q) (nodeId : S.PublicKey) (line : String)
    (hconnect : (splitWhitespace line).head? = some "connect" →
      Moves R (cmdConnect C W P L (splitWhitespace line)))
    (hdisconnect : (splitWhitespace line).head? = some "disconnect" →
      Moves R (cmdDisconnect C W L (splitWhitespace line)))
    (hrequests : RespectsRequests W B (splitWhitespace line) Q) :
    Moves Q (handleCommand C W P E L B nodeId line) := by
  refine moves_bind_after R Q hQ _ _ (moves_attempt _ _ ?_) fun result => ?_
  · unfold runCommand
    split
    · next hcommand => exact moves_mono R Q hQ.only _ (hconnect hcommand)
    · next hcommand => exact moves_mono R Q hQ.only _ (hdisconnect hcommand)
    · next hcommand =>
        exact moves_announceChannel hR hQ _ _ _
          (moves_bind _ _ _ (moves_nodeSecret C _) fun _ => moves_pure _ _) _
          (hrequests.funds (Or.inl hcommand))
    · next hcommand =>
        exact moves_announceChannel hR hQ _ _ _ (moves_orderedNodeSecrets C L _) _
          (hrequests.funds (Or.inr hcommand))
    · exact moves_mono R Q hQ.only _ (moves_cmdSendChannelUpdate hR _)
    · exact moves_mono R Q hQ.only _ (moves_cmdSendNodeAnnouncement hR _)
    · exact moves_mono R Q hQ.only _ (moves_cmdSendMessage hR _)
    · exact moves_mono R Q hQ.only _ (moves_cmdPeers hR)
    · next hcommand => exact moves_cmdInfo hR hQ nodeId (hrequests.informs hcommand)
    · next hcommand => exact moves_cmdMine hQ W _ (hrequests.mines hcommand)
    · exact moves_mono R Q hQ.only _
        (moves_bind _ _ _ (moves_modify _ _ fun s => hR.stops s) fun _ => moves_pure _ _)
    · exact moves_mono R Q hQ.only _ (moves_pure _ _)
    · exact moves_mono R Q hQ.only _ (moves_pure _ _)
  · cases result with
    | ok reply => exact moves_pure _ _
    | error reply => exact moves_pure _ _

end

end

end Simd

end LnGossipSim
