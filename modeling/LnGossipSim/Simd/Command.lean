import Mathlib.Data.List.Nodup
import Mathlib.Logic.Function.Basic
import LnGossipSim.Bolt.Canonical
import LnGossipSim.Bolt.Signing
import LnGossipSim.Simd.Connect
import LnGossipSim.Simd.Funding
import LnGossipSim.Simd.ParseScid
import LnGossipSim.Simd.Peers

/-!
# Control Commands

What the daemon does with a line of its control socket. The line is split into
words, the first word names the command, and the command returns a reply. Early
returns are modelled as errors that carry the reply.

A command shares the peers map and the writers with the tasks of the other
connections. What those do while the command waits is an input of the model, and
so are the answers of bitcoind, the keys that are drawn and how writing to a peer
ends. A writer is reached by the number of its connection, so it stays in reach
when its entry is removed from the map meanwhile. What became of each connection is
kept besides the map. Commands only take the number of a new one from it, but what the
other tasks can do next depends on it.

The blocking requests run as tasks of their own. A panic of such a task is a
reply to the command, and it is noted as what it is.

## Main definitions

* `PeersMap`: The map from keys to connections.
* `Shared`, `Server`: What commands read and change.
* `ControlCrates`, `Surroundings`: What the libraries and the rest of the world
  contribute.
* `cmdConnect` and the other commands, `handleCommand`: The commands.

## Theorems

* `PeersMap.get_insert`, `PeersMap.get_remove`: The map as a function.
-/

namespace LnGossipSim

namespace Simd

open BigEndian Bolt Decimal Noise

/-- The map from public keys to peers, each given by the number of its connection.
    The entries are in the order in which the map lists them. -/
structure PeersMap (K : Type) where
  entries : List (K × Nat)
  distinct : (entries.map Prod.fst).Nodup

namespace PeersMap

variable {K : Type} [DecidableEq K]

/-- The connection of a peer. -/
def get (m : PeersMap K) (key : K) : Option Nat := m.entries.lookup key

/-- The map without an entry for the key. -/
def remove (m : PeersMap K) (key : K) : PeersMap K where
  entries := m.entries.filter fun e => e.1 ≠ key
  distinct := m.distinct.sublist (List.filter_sublist.map Prod.fst)

/-- The map with an entry for the key, in place of the one it may have. -/
def insert (m : PeersMap K) (key : K) (connection : Nat) : PeersMap K where
  entries := (key, connection) :: (m.remove key).entries
  distinct := by
    refine List.nodup_cons.mpr ⟨fun hmem => ?_, (m.remove key).distinct⟩
    rcases List.mem_map.mp hmem with ⟨e, he, hkey⟩
    exact of_decide_eq_true (List.mem_filter.mp he).2 hkey

/-- A list of entries without those under one key. -/
theorem lookup_filter_ne (entries : List (K × Nat)) (key key' : K) :
    (entries.filter fun e => e.1 ≠ key).lookup key'
      = if key' = key then none else entries.lookup key' := by
  induction entries with
  | nil => simp
  | cons e entries ih =>
      by_cases he : e.1 = key
      · rw [List.filter_cons_of_neg (by simpa using he), ih, List.lookup_cons, he]
        by_cases h : key' = key
        · rw [if_pos h, if_pos h]
        · rw [if_neg h, if_neg h, beq_false_of_ne h]
      · rw [List.filter_cons_of_pos (by simpa using he), List.lookup_cons, List.lookup_cons, ih]
        by_cases h : key' = key
        · rw [if_pos h, if_pos h, h, beq_false_of_ne (Ne.symm he)]
        · rw [if_neg h, if_neg h]

/-- Removing an entry changes what is found under its key, and nothing else. -/
theorem get_remove (m : PeersMap K) (key : K) :
    (m.remove key).get = Function.update m.get key none := by
  funext key'
  rw [Function.update_apply]
  exact lookup_filter_ne m.entries key key'

/-- So does inserting one. -/
theorem get_insert (m : PeersMap K) (key : K) (connection : Nat) :
    (m.insert key connection).get = Function.update m.get key (some connection) := by
  funext key'
  rw [Function.update_apply]
  change List.lookup key' ((key, connection) :: m.entries.filter fun e => e.1 ≠ key) = _
  rw [List.lookup_cons, lookup_filter_ne]
  by_cases h : key' = key
  · rw [h, beq_self_eq_true, if_pos rfl, if_pos rfl]
  · rw [if_neg h, if_neg h, beq_false_of_ne h]
    rfl

end PeersMap

/-- What the tasks of the daemon share: the peers map, the writers of the
    connections made so far, what became of those, and whether the daemon is to
    stop. -/
structure Shared (S : Secp256k1) where
  peers : PeersMap S.PublicKey
  writers : Nat → NoiseWriter
  connections : List (Connection S.PublicKey)
  stopped : Bool

namespace Shared

variable {S : Secp256k1}

/-- Makes a connection, whose reader is spawned and whose entry is not inserted yet. -/
def spawn (sh : Shared S) (pubkey : S.PublicKey) (writer : NoiseWriter) : Shared S :=
  { sh with
    writers := Function.update sh.writers sh.connections.length writer
    connections := sh.connections
      ++ [{ key := pubkey, inserted := false, disconnected := false, reader := .running }] }

@[simp] theorem length_spawn (sh : Shared S) (pubkey : S.PublicKey) (writer : NoiseWriter) :
    (sh.spawn pubkey writer).connections.length = sh.connections.length + 1 := List.length_append

variable [DecidableEq S.PublicKey]

/-- Inserts the entry of a connection. -/
def insert (sh : Shared S) (pubkey : S.PublicKey) (connection : Nat) : Shared S :=
  { sh with
    peers := sh.peers.insert pubkey connection
    connections := sh.connections.modify connection fun c => { c with inserted := true } }

/-- Removes the entry of a connection, whose reader is aborted. -/
def disconnect (sh : Shared S) (pubkey : S.PublicKey) (connection : Nat) : Shared S :=
  { sh with
    peers := sh.peers.remove pubkey
    connections := sh.connections.modify connection fun c => { c with disconnected := true } }

@[simp] theorem length_insert (sh : Shared S) (pubkey : S.PublicKey) (connection : Nat) :
    (sh.insert pubkey connection).connections.length = sh.connections.length :=
  List.length_modify _ _ _

@[simp] theorem get_insert (sh : Shared S) (pubkey : S.PublicKey) (connection : Nat) :
    (sh.insert pubkey connection).peers.get
      = Function.update sh.peers.get pubkey (some connection) := PeersMap.get_insert _ _ _

@[simp] theorem get_disconnect (sh : Shared S) (pubkey : S.PublicKey) (connection : Nat) :
    (sh.disconnect pubkey connection).peers.get = Function.update sh.peers.get pubkey none :=
  PeersMap.get_remove _ _

@[simp] theorem length_disconnect (sh : Shared S) (pubkey : S.PublicKey) (connection : Nat) :
    (sh.disconnect pubkey connection).connections.length = sh.connections.length :=
  List.length_modify _ _ _

end Shared

/-- What a command reads and changes: what is shared, and the requests made to
    bitcoind. -/
structure Server (S : Secp256k1) (Address : Type) where
  shared : Shared S
  asked : List (Request Address)

/-- What a command does besides: the primitives it calls, the readers it spawns and
    aborts, and the panics of its tasks. -/
inductive CommandEvent where
  | primitive (call : PrimitiveCall)
  | readerSpawned (connection : Nat)
  | readerAborted (connection : Nat)
  | taskPanicked
  deriving DecidableEq

/-- What the libraries contribute: hexadecimal and socket addresses, the text of a
    key, the parsing of a secret, and the text of the error for a task that
    panicked. -/
structure ControlCrates (S : Secp256k1) where
  hexDecode : String → Option Bytes
  hexEncode : Bytes → String
  SocketAddr : Type
  parseSocketAddr : String → Option SocketAddr
  keyText : S.PublicKey → String
  secretFromSlice : ByteArr 32 → Option S.SecretKey
  joinError : String

/-- What the rest of the world contributes to one command: what connecting finds,
    the keys that are drawn, how writing to a peer ends, and what the other tasks do
    while the command waits for the nth time. -/
structure Surroundings {S : Secp256k1} (C : ControlCrates S) where
  dial : C.SocketAddr → S.PublicKey → Dial S
  drawn : S.SecretKey × S.SecretKey
  written : WriteResult
  others : Nat → Shared S → Shared S

/-- Bitcoin regtest genesis block hash (little-endian, as used in BOLT messages). -/
def regtestChainHash : ByteArr chainHashSize :=
  ⟨[0x06, 0x22, 0x6e, 0x46, 0x11, 0x1a, 0x0b, 0x59, 0xca, 0xaf, 0x12, 0x60, 0x43, 0xeb, 0x5b, 0xbf,
    0x28, 0xc3, 0x4f, 0x3a, 0x5e, 0x33, 0x2a, 0x1f, 0xc7, 0xb2, 0xb7, 0x3c, 0xf1, 0x88, 0x91, 0x0f],
    rfl⟩

/-- Seed used to derive node keys. -/
def seed : ByteArr 32 := List.Vector.replicate 32 0x11

/-- Seed used to derive a second, distinct node identity. -/
def seed2 : ByteArr 32 := List.Vector.replicate 32 0x22

/-- The characters that separate words: the Unicode property `White_Space`. -/
def isWhiteSpace (c : Char) : Bool :=
  let n := c.toNat
  (9 ≤ n ∧ n ≤ 13) ∨ n = 0x20 ∨ n = 0x85 ∨ n = 0xA0 ∨ n = 0x1680 ∨ (0x2000 ≤ n ∧ n ≤ 0x200A)
    ∨ n = 0x2028 ∨ n = 0x2029 ∨ n = 0x202F ∨ n = 0x205F ∨ n = 0x3000

/-- The words of a line. -/
def splitWhitespace (line : String) : List String :=
  ((line.toList.splitOnP isWhiteSpace).filter fun word => word ≠ []).map String.ofList

/-- Parses an unsigned 64-bit count. -/
def parseUsize (word : String) : Option Nat := parseUnsigned (2 ^ 64) word.toList

section

variable {S : Secp256k1} {Address : Type}

/-- A command, whose errors are early returns. -/
abbrev CommandMethod (S : Secp256k1) (Address α : Type) :=
  Method CommandEvent (Server S Address) String α

/-- Returns early when there is no value. -/
def orReturn {α : Type} (reply : String) (x : Option α) : CommandMethod S Address α :=
  Method.lift (Outcome.okOr reply x)

variable (C : ControlCrates S) (W : Surroundings C)

/-- Parses a public key. -/
def parsePubkey (word : String) : Option S.PublicKey := do
  let bytes ← C.hexDecode word
  S.fromSlice bytes

/-- The node's static secret key. Panics if the seed is not a valid key. -/
def nodeSecret : CommandMethod S Address S.SecretKey :=
  Method.lift (Outcome.expect (C.secretFromSlice seed))

/-- A second, distinct static secret key. Panics if the seed is not a valid
    key. -/
def nodeSecret2 : CommandMethod S Address S.SecretKey :=
  Method.lift (Outcome.expect (C.secretFromSlice seed2))

/-- Waits, for the nth time. -/
def waiting (n : Nat) : CommandMethod S Address Unit :=
  Method.modify fun s => { s with shared := W.others n s.shared }

/-- The connection of a peer, or an early return. -/
def connectedPeer [DecidableEq S.PublicKey] (peerPubkey : S.PublicKey) :
    CommandMethod S Address Nat := do
  waiting C W 0
  let s ← Method.get
  let key := C.keyText peerPubkey
  orReturn s!"Not connected to {key}\n" (s.shared.peers.get peerPubkey)

/-- Sends a message to a peer, or returns early. -/
def sendToPeer (P : Primitives) (connection : Nat) (wire : Bytes) :
    CommandMethod S Address Unit := do
  waiting C W 2
  let failed (e : NoiseError) : String :=
    let text := e.text
    s!"Send failed: {text}\n"
  Method.mapErr failed (Method.zoom (fun s => s.shared.writers connection)
    (fun w s => { s with shared := { s.shared with
      writers := Function.update s.shared.writers connection w } })
    (Method.noting .primitive (NoiseWriter.send P W.written wire)))

end

section

variable {S : Secp256k1} [DecidableEq S.PublicKey] (C : ControlCrates S) (W : Surroundings C)
  (P : Primitives) (E : Signing S) (L : BitcoinCrate S) (B : Bitcoind L.Address)

/-- A blocking task that makes requests to bitcoind. -/
def spawnBlocking {ε α : Type} (m : RpcMethod CommandEvent L.Address ε α) :
    CommandMethod S L.Address (Option (Except ε α)) :=
  Method.spawn .taskPanicked (Method.zoom Server.asked (fun asked s => { s with asked }) m)

/-- Mines six blocks to a fresh address, or returns early. -/
def fundChannel : CommandMethod S L.Address (FundingKeys L × UInt64) := do
  let fundResult ← spawnBlocking L (mineToFunding L B W.drawn 6)
  waiting C W 1
  match fundResult with
  | some (.ok (_, funding, scid)) => return (funding, scid)
  | some (.error e) =>
    let text := e.text
    Method.lift (.err s!"Funding failed: {text}\n")
  | none =>
    let text := C.joinError
    Method.lift (.err s!"Task failed: {text}\n")

/-- The secrets of the two node identities, the lesser public key first. -/
def orderedNodeSecrets : CommandMethod S L.Address (S.SecretKey × S.SecretKey) := do
  let skA ← nodeSecret C
  let skB ← nodeSecret2 C
  if L.keyLt (S.publicKey skA) (S.publicKey skB) then return (skA, skB) else return (skB, skA)

/-- The `connect` command. -/
def cmdConnect (parts : List String) : CommandMethod S L.Address String := do
  Method.lift (Outcome.rejectIf (parts.length ≠ 3) "Usage: connect <pubkey_hex> <host:port>\n")
  let keyWord ← Method.lift (Outcome.expect parts[1]?)
  let pubkey ← orReturn "Invalid pubkey\n" (parsePubkey C keyWord)
  let addrWord ← Method.lift (Outcome.expect parts[2]?)
  let addr ← orReturn "Invalid address\n" (C.parseSocketAddr addrWord)
  let secret ← nodeSecret C
  let failed (e : NoiseError) : String :=
    let text := e.text
    s!"Connection failed: {text}\n"
  let (writer, _, _) ← Method.mapErr failed
    (Method.noting .primitive (connect P C.hexEncode pubkey secret (W.dial addr pubkey)))
  waiting C W 0
  -- The reader is spawned before the entry is inserted.
  let s ← Method.get
  let connection := s.shared.connections.length
  Method.modify fun s => { s with shared := s.shared.spawn pubkey writer }
  Method.record (.readerSpawned connection)
  waiting C W 1
  Method.modify fun s => { s with shared := s.shared.insert pubkey connection }
  let key := C.keyText pubkey
  return s!"Connected to {key}\n"

/-- The `disconnect` command. -/
def cmdDisconnect (parts : List String) : CommandMethod S L.Address String := do
  Method.lift (Outcome.rejectIf (parts.length ≠ 2) "Usage: disconnect <pubkey_hex>\n")
  let keyWord ← Method.lift (Outcome.expect parts[1]?)
  let pubkey ← orReturn "Invalid pubkey\n" (parsePubkey C keyWord)
  waiting C W 0
  let s ← Method.get
  let key := C.keyText pubkey
  let connection ← orReturn s!"Not connected to {key}\n" (s.shared.peers.get pubkey)
  Method.modify fun s => { s with shared := s.shared.disconnect pubkey connection }
  Method.record (.readerAborted connection)
  return s!"Disconnected {key}\n"

/-- Mines to a fresh address and announces the channel to a peer, with the given
    node secrets and a note in the reply. -/
def announceChannel (usage note : String)
    (nodeSecrets : CommandMethod S L.Address (S.SecretKey × S.SecretKey)) (parts : List String) :
    CommandMethod S L.Address String := do
  Method.lift (Outcome.rejectIf (parts.length ≠ 2) usage)
  let keyWord ← Method.lift (Outcome.expect parts[1]?)
  let peerPubkey ← orReturn "Invalid pubkey\n" (parsePubkey C keyWord)
  let connection ← connectedPeer C W peerPubkey
  let (funding, scid) ← fundChannel C W L B
  let (nodeSk1, nodeSk2) ← nodeSecrets
  let ann := ChannelAnnouncement.newSigned E [] regtestChainHash scid nodeSk1 nodeSk2 funding.sk1
    funding.sk2
  let wire ← Method.lift (toWire (Message.channelAnnouncement ann))
  sendToPeer C W P connection wire
  let scidText := ann.scidStr
  let key := C.keyText peerPubkey
  return s!"Sent channel_announcement {note}scid={scidText} to {key}\n"

/-- The `sendchannelannouncement` command: both node identities are ours, and the
    same. -/
def cmdSendChannelAnnouncement : List String → CommandMethod S L.Address String :=
  announceChannel C W P E L B "Usage: sendchannelannouncement <pubkey_hex>\n" "" do
    let ourSk ← nodeSecret C
    return (ourSk, ourSk)

/-- The `sendchannelannouncement2` command: two distinct node identities. -/
def cmdSendChannelAnnouncement2 : List String → CommandMethod S L.Address String :=
  announceChannel C W P E L B "Usage: sendchannelannouncement2 <pubkey_hex>\n"
    "(distinct node IDs) " (orderedNodeSecrets C L)

/-- The `sendchannelupdate` command. -/
def cmdSendChannelUpdate (parts : List String) : CommandMethod S L.Address String := do
  Method.lift (Outcome.rejectIf (parts.length ≠ 3) "Usage: sendchannelupdate <pubkey_hex> <scid>\n")
  let keyWord ← Method.lift (Outcome.expect parts[1]?)
  let peerPubkey ← orReturn "Invalid pubkey\n" (parsePubkey C keyWord)
  let scidWord ← Method.lift (Outcome.expect parts[2]?)
  let scid ← orReturn "Invalid scid (expected block x tx x output)\n" (parseScid scidWord)
  let connection ← connectedPeer C W peerPubkey
  let (nodeSk1, _) ← orderedNodeSecrets C L
  let update := ChannelUpdate.newSigned E regtestChainHash scid 0 1 0 40 1 1000 1 4294967295 nodeSk1
  let wire ← Method.lift (toWire (Message.channelUpdate update))
  sendToPeer C W P connection wire
  let scidText := update.scidStr
  let key := C.keyText peerPubkey
  return s!"Sent channel_update scid={scidText} to {key}\n"

/-- The `sendnodeannouncement` command. -/
def cmdSendNodeAnnouncement (parts : List String) : CommandMethod S L.Address String := do
  Method.lift (Outcome.rejectIf (parts.length ≠ 2) "Usage: sendnodeannouncement <pubkey_hex>\n")
  let keyWord ← Method.lift (Outcome.expect parts[1]?)
  let peerPubkey ← orReturn "Invalid pubkey\n" (parsePubkey C keyWord)
  let connection ← connectedPeer C W peerPubkey
  let (nodeSk1, _) ← orderedNodeSecrets C L
  let ann := NodeAnnouncement.defaultSigned E nodeSk1
  let wire ← Method.lift (toWire (Message.nodeAnnouncement ann))
  sendToPeer C W P connection wire
  let nodeId := C.keyText ann.nodeId
  let key := C.keyText peerPubkey
  return s!"Sent node_announcement node_id={nodeId} to {key}\n"

/-- The reply to a message that is not forwarded. -/
def refusal : SendMessageError → String
  | .unknownMessageType msgType =>
    s!"Unknown message type {msgType}: add the corresponding codec for it\n"
  | .decodeFailed e =>
    let text := e.text C.hexEncode
    s!"Decode failed: {text}\n"

/-- The `sendmessage` command. -/
def cmdSendMessage (parts : List String) : CommandMethod S L.Address String := do
  Method.lift (Outcome.rejectIf (parts.length ≠ 3)
    "Usage: sendmessage <pubkey_hex> <message_hex>\n")
  let keyWord ← Method.lift (Outcome.expect parts[1]?)
  let peerPubkey ← orReturn "Invalid pubkey\n" (parsePubkey C keyWord)
  let hexWord ← Method.lift (Outcome.expect parts[2]?)
  let bytes ← orReturn "Invalid message hex\n" (C.hexDecode hexWord)
  let wire ← Method.lift ((sendMessageWire S bytes).mapErr (refusal C))
  let connection ← connectedPeer C W peerPubkey
  sendToPeer C W P connection wire
  let hi ← Method.lift (Outcome.expect wire[0]?)
  let lo ← Method.lift (Outcome.expect wire[1]?)
  let msgType := UInt16.ofNat (beNat [hi, lo])
  let key := C.keyText peerPubkey
  return s!"Sent message type {msgType} to {key}\n"

/-- The `peers` command. -/
def cmdPeers : CommandMethod S L.Address String := do
  waiting C W 0
  let s ← Method.get
  if s.shared.peers.entries = [] then return "No connected peers\n"
  else return String.join (s.shared.peers.entries.map fun e => C.keyText e.1 ++ "\n")

/-- The number of blocks, the best block and the balance. -/
def chainInfo {Address τ : Type} (B : Bitcoind Address) :
    RpcMethod τ Address Empty (UInt64 × String × String) := do
  let blocks ← blockCount B
  let hash ← bestBlockHash B
  let balance ← balance B
  return (blocks, hash, balance)

/-- The `info` command. -/
def cmdInfo (nodeId : S.PublicKey) : CommandMethod S L.Address String := do
  match ← spawnBlocking L (chainInfo B) with
  | some (.ok (blocks, hash, balance)) =>
    waiting C W 0
    let s ← Method.get
    let node := C.keyText nodeId
    let peers := s.shared.peers.entries.length
    return s!"[LN] node={node} peers={peers}\n[Bitcoin] chain=regtest blocks={blocks} best={hash} balance={balance}\n"
  | _ => return "Failed to query bitcoind\n"

/-- The `mine` command. -/
def cmdMine (parts : List String) : CommandMethod S L.Address String := do
  let blocks ← orReturn "Usage: mine <blocks>\n" (parts[1]?.bind parseUsize)
  match ← spawnBlocking L (mine L B W.drawn blocks) with
  | some (.ok reply) => return reply
  | _ =>
    let text := C.joinError
    return s!"Task failed: {text}\n"

/-- The reply to a command, by its words. -/
def runCommand (nodeId : S.PublicKey) (parts : List String) : CommandMethod S L.Address String :=
  match parts.head? with
  | some "connect" => cmdConnect C W P L parts
  | some "disconnect" => cmdDisconnect C W L parts
  | some "sendchannelannouncement" => cmdSendChannelAnnouncement C W P E L B parts
  | some "sendchannelannouncement2" => cmdSendChannelAnnouncement2 C W P E L B parts
  | some "sendchannelupdate" => cmdSendChannelUpdate C W P E L parts
  | some "sendnodeannouncement" => cmdSendNodeAnnouncement C W P E L parts
  | some "sendmessage" => cmdSendMessage C W P L parts
  | some "peers" => cmdPeers C W L
  | some "info" => cmdInfo C W L B nodeId
  | some "mine" => cmdMine C W L B parts
  | some "stop" => do
    Method.modify fun s => { s with shared := { s.shared with stopped := true } }
    return "Stopping daemon\n"
  | some other => return s!"Unknown command: {other}\n"
  | none => return ""

/-- Handles a line of the control socket. -/
def handleCommand (nodeId : S.PublicKey) (line : String) :
    Method CommandEvent (Server S L.Address) Empty String := do
  match ← Method.attempt (runCommand C W P E L B nodeId (splitWhitespace line)) with
  | .ok reply => return reply
  | .error reply => return reply

end

end Simd

end LnGossipSim
