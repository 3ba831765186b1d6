import LnGossipSim.Simd.CommandSafety
import LnGossipSim.Simd.CommandSteps
import LnGossipSim.Simd.Session

/-!
# The Server

The daemon as its control sessions see it. Lines are handled one after the other,
and between them, and whenever a command waits, the tasks of the other connections
and sessions do what they do. A statement about a session relies on what the others
do and guarantees the same of its own commands, so it holds of all sessions together.

The first relation is that of the peers map. What the others do are steps of the
system of events that was modelled for it, taken in the state that the system is in
then, and so is what a session does. Another session may spawn a reader in one wait and
insert its entry in a later one. Only the entry that the waiting command itself is
about to insert is left to it. Then whatever lines are handled, the map is one that
the system reaches, and what holds of every state it reaches holds of the server.

The second is that of the writers. A writer only has messages sent on it, also when
the entry of its connection is removed. So no command disturbs what was written on
another connection, or what was written on its own before.

## Main definitions

* `Turn`: A line of a session, with all that it meets.
* `Refines`: Some steps of the system lead from one state to the other.
* `Turn.TakesSteps`: What a line relies on for the map.
* `SentOn`, `SendsOnly`: A writer, and all of them, were only sent on.
* `Turn.KeepsWriters`: What a line relies on for the writers.

## Theorems

* `run_keeps_pending`: A connection waits for its own command.
* `refines_connected`: Making a connection takes two steps.
* `server_refines_daemon`: The server is in a state that the system reaches.
* `sentOn_reads`: What was sent whole is read.
* `server_sends_only`: A writer is only sent on.
-/

namespace LnGossipSim

namespace Simd

open Bolt Method Noise

/-- A line of a control session: what the other tasks did before it, the line, and
    what the rest of the world contributes while it is handled. -/
structure Turn {S : Secp256k1} (C : ControlCrates S) (Address : Type) where
  idle : Shared S → Shared S
  line : String
  surroundings : Surroundings C
  bitcoind : Bitcoind Address

section

variable {S : Secp256k1} [DecidableEq S.PublicKey] {C : ControlCrates S} (P : Primitives)
  (E : Signing S) (L : BitcoinCrate S)

/-- Handles the line. -/
def Turn.act (nodeId : S.PublicKey) (turn : Turn C L.Address) :
    Method CommandEvent (Server S L.Address) Empty String := do
  Method.modify fun s => { s with shared := turn.idle s.shared }
  handleCommand C turn.surroundings P E L turn.bitcoind nodeId turn.line

end

section

variable {S : Secp256k1} [DecidableEq S.PublicKey]

/-- Some steps of the system, none of them one that is ruled out, lead from the one
    state to the other. -/
def RefinesWithout (ruledOut : DaemonEvent S.PublicKey → Prop) (sh sh' : Shared S) : Prop :=
  ∃ events, Transition.run Daemon.step sh.daemon events = some sh'.daemon
    ∧ ∀ e ∈ events, ¬ ruledOut e

/-- Some steps of the system lead from the one state to the other. -/
def Refines (sh sh' : Shared S) : Prop :=
  ∃ events, Transition.run Daemon.step sh.daemon events = some sh'.daemon

instance : IsPreorder (Shared S) Refines where
  refl _ := ⟨[], rfl⟩
  trans _ _ _ h h' := by
    rcases h with ⟨events, hrun⟩
    rcases h' with ⟨more, hmore⟩
    exact ⟨events ++ more, (Transition.run_append _ _ _ _ hrun).trans hmore⟩

/-- What a line relies on: all that the other tasks do are steps that the system can
    take in the state it is in, and the entry of a connection that a `connect` command
    just made, which is the last one, is not inserted by others. A state that does not
    occur is no restriction, since there they may be taken to do nothing. -/
structure Turn.TakesSteps {C : ControlCrates S} {Address : Type} (turn : Turn C Address) :
    Prop where
  idle : ∀ sh, Refines sh (turn.idle sh)
  others : ∀ n sh, Refines sh (turn.surroundings.others n sh)
  ownEntry : (splitWhitespace turn.line).head? = some "connect" → ∀ sh : Shared S,
    RefinesWithout (fun e => e = .insert (sh.connections.length - 1)) sh
      (turn.surroundings.others 1 sh)

/-- A step keeps the key of a connection, and whether it was inserted unless it does
    that. -/
theorem step_keeps_pending {K : Type} [DecidableEq K] (d d' : Daemon K) (e : DaemonEvent K)
    (i : Nat) (c : Connection K) (hc : d.connections[i]? = some c) (he : e ≠ .insert i)
    (hstep : d.step e = some d') :
    ∃ c', d'.connections[i]? = some c' ∧ c'.key = c.key ∧ c'.inserted = c.inserted := by
  have hupdate : ∀ (j : Nat) (f : Connection K → Connection K), (∀ c, (f c).key = c.key) →
      (j ≠ i ∨ ∀ c, (f c).inserted = c.inserted) →
      ∃ c', (d.update j f).connections[i]? = some c' ∧ c'.key = c.key
        ∧ c'.inserted = c.inserted := by
    intro j f hkey hinserted
    refine ⟨if j = i then f c else c, (d.getElem?_update j i f _).mpr ⟨c, hc, rfl⟩, ?_⟩
    -- An update elsewhere keeps all of it, one here keeps what the event does not set.
    by_cases hj : j = i
    · rw [if_pos hj]
      exact ⟨hkey c, hinserted.elim (absurd hj) (· c)⟩
    · rw [if_neg hj]
      exact ⟨rfl, rfl⟩
  cases e with
  | spawn key =>
      rw [(Daemon.step_spawn d d' key).mp hstep]
      exact ⟨c, (Daemon.getElem?_spawned _ _ c i).mpr (Or.inl hc), rfl, rfl⟩
  | insert j =>
      rcases (Daemon.step_insert d d' j).mp hstep with ⟨_, -, -, rfl⟩
      exact hupdate j _ (fun _ => rfl) (Or.inl fun hj => he (congrArg DaemonEvent.insert hj))
  | finish j =>
      rcases (Daemon.step_finish d d' j).mp hstep with ⟨_, -, -, rfl⟩
      exact hupdate j _ (fun _ => rfl) (Or.inr fun _ => rfl)
  | deregister j =>
      rcases (Daemon.step_deregister d d' j).mp hstep with ⟨_, -, -, rfl⟩
      exact hupdate j _ (fun _ => rfl) (Or.inr fun _ => rfl)
  | disconnect key =>
      rcases (Daemon.step_disconnect d d' key).mp hstep with ⟨-, rfl⟩ | ⟨j, -, rfl⟩
      · exact ⟨c, hc, rfl, rfl⟩
      · exact hupdate j _ (fun _ => rfl) (Or.inr fun _ => rfl)
  | cancel j =>
      rcases (Daemon.step_cancel d d' j).mp hstep with ⟨_, -, -, rfl⟩
      exact hupdate j _ (fun _ => rfl) (Or.inr fun _ => rfl)

/-- A connection waits for its own command to insert its entry. -/
theorem run_keeps_pending {K : Type} [DecidableEq K] (i : Nat) (events : List (DaemonEvent K))
    (d d' : Daemon K) (c : Connection K) (hc : d.connections[i]? = some c)
    (hevents : ∀ e ∈ events, e ≠ .insert i) (hrun : Transition.run Daemon.step d events = some d') :
    ∃ c', d'.connections[i]? = some c' ∧ c'.key = c.key ∧ c'.inserted = c.inserted := by
  refine Transition.guarded_invariant (fun _ e => e ≠ .insert i)
    (fun d' => ∃ c', d'.connections[i]? = some c' ∧ c'.key = c.key ∧ c'.inserted = c.inserted)
    ?_ d d' events ⟨c, hc, rfl, rfl⟩ (Transition.guarded_of_forall (· ≠ .insert i) d events hevents)
    hrun
  intro d₁ e d₂ hd₁ he hstep
  rcases hd₁ with ⟨c₁, hc₁, hkey, hinserted⟩
  rcases step_keeps_pending d₁ d₂ e i c₁ hc₁ he hstep with ⟨c₂, hc₂, hkey', hinserted'⟩
  exact ⟨c₂, hc₂, hkey'.trans hkey, hinserted'.trans hinserted⟩

/-- A new connection takes two steps: its reader is spawned, and its entry is
    inserted after what the others did in between. -/
theorem refines_connected (others : Shared S → Shared S) (pubkey : S.PublicKey)
    (writer : NoiseWriter) (sh : Shared S) (hothers : ∀ sh : Shared S,
      RefinesWithout (fun e => e = .insert (sh.connections.length - 1)) sh (others sh)) :
    Refines sh (sh.connected others pubkey writer) := by
  let i := sh.connections.length
  let spawned := sh.spawn pubkey writer
  have hnew : spawned.connections[i]?
      = some { key := pubkey, inserted := false, disconnected := false, reader := .running } :=
    (Daemon.getElem?_spawned _ _ _ _).mpr (Or.inr ⟨rfl, rfl⟩)
  have hlast : spawned.connections.length - 1 = i := by
    rw [Shared.length_spawn, Nat.add_sub_cancel]
  rcases hothers spawned with ⟨events, hrun, hkept⟩
  rw [hlast] at hkept
  -- The others leave the connection as it was spawned.
  rcases run_keeps_pending i events _ _ _ hnew hkept hrun with ⟨c, hc, hkey, hpending⟩
  refine ⟨.spawn pubkey :: (events ++ [.insert i]), ?_⟩
  refine (Transition.run_cons _ _ _ _).mpr ⟨_, sh.step_spawn pubkey writer, ?_⟩
  rw [Transition.run_append _ _ _ _ hrun]
  exact Transition.run_single _ _ _ ((others spawned).step_insert pubkey i c hc hkey hpending)

theorem respects_refines {C : ControlCrates S} {Address : Type} (P : Primitives)
    (turn : Turn C Address) (h : turn.TakesSteps) :
    Respects turn.surroundings P (OnShared Refines : Server S Address → _ → Prop) where
  others n s := h.others n s.shared
  sends _ _ _ := ⟨[], rfl⟩
  stops _ := ⟨[], rfl⟩

end

section

variable {S : Secp256k1} [DecidableEq S.PublicKey] {C : ControlCrates S} {P : Primitives}
  {E : Signing S} {L : BitcoinCrate S}

/-- One line, whatever command it is. -/
theorem refines_act (nodeId : S.PublicKey) (turn : Turn C L.Address) (h : turn.TakesSteps) :
    Moves (OnShared Refines) (turn.act P E L nodeId) := by
  refine moves_bind _ _ _ (moves_modify _ _ fun s => h.idle s.shared) fun _ => ?_
  refine moves_handleCommand (respects_refines P turn h) (absorbs_self _) nodeId turn.line
    (fun hconnect => ?_) (fun _ => ?_) (respectsRequests_onShared _ _ _)
  · exact moves_cmdConnect (respects_refines P turn h)
      (fun pubkey writer s => refines_connected _ pubkey writer s.shared (h.ownEntry hconnect)) _
  · refine moves_cmdDisconnect (respects_refines P turn h) (fun pubkey i s hentry => ?_) _
    exact ⟨[.disconnect pubkey],
      Transition.run_single _ _ _ (s.shared.step_disconnect pubkey i hentry)⟩

/-- Whatever lines are handled, panicking ones included, the server's map is one that
    the system of events reaches, as long as what the other tasks do are steps of it.
    So an entry leads to a connection that was made for its key, inserted and not
    disconnected, and no connection has two entries. -/
theorem server_refines_daemon (nodeId : S.PublicKey) (turns : List (Turn C L.Address))
    (hturns : ∀ turn ∈ turns, turn.TakesSteps) (s : Server S L.Address)
    (hs : s.shared.daemon = Daemon.new) :
    let sh' := (calls (Turn.act P E L nodeId) turns s).state.shared
    (∃ events, Transition.run Daemon.step Daemon.new events = some sh'.daemon)
    ∧ ∀ key i, sh'.peers.get key = some i →
      (∃ c, sh'.connections[i]? = some c ∧ c.key = key ∧ c.inserted = true
        ∧ c.disconnected = false)
      ∧ ∀ key', sh'.peers.get key' = some i → key' = key := by
  intro sh'
  have hmoves : Refines s.shared sh' := calls_moves (OnShared Refines) _ turns
    (fun turn hturn => refines_act nodeId turn (hturns turn hturn)) s
  rcases hmoves with ⟨events, hrun⟩
  rw [hs] at hrun
  refine ⟨⟨events, hrun⟩, fun key i hkey => ?_⟩
  -- The map is sound in any state that the system reaches, and the server is in such a state.
  have hsound : Sound sh'.daemon := Transition.guarded_invariant (fun _ _ => True) Sound
    (fun d e d₁ hd _ hstep => hd.step d e d₁ hstep) Daemon.new sh'.daemon events Sound.new
    (Transition.guarded_of_forall (fun _ => True) _ events fun _ _ => trivial) hrun
  rcases hsound.entry key i hkey with ⟨c, hc, hcKey, hrest⟩
  refine ⟨⟨c, hc, hcKey, hrest⟩, fun key' hkey' => ?_⟩
  rcases hsound.entry key' i hkey' with ⟨c', hc', hcKey', -⟩
  rw [hc] at hc'
  rw [← hcKey, ← hcKey', Option.some.inj hc']

end

/-- A line that no other task disturbs. -/
def Turn.alone (line : String) : Turn ControlCrates.transparent String :=
  ⟨id, line, .quiet, .sample⟩

/-- Another session makes a connection while the `peers` command is handled: it spawns
    the reader before the line, and inserts the entry while the command waits. Then a
    `connect` is refused after it disconnected the peer. -/
theorem server_refines_daemon_refused :
    let key : ByteArr 33 := List.Vector.replicate 33 2
    let insertPending (sh : Shared Secp256k1.transparent) : Shared Secp256k1.transparent :=
      if sh.connections[0]? = some ⟨key, false, false, .running⟩ then sh.insert key 0 else sh
    let disconnectFirst (sh : Shared Secp256k1.transparent) : Shared Secp256k1.transparent :=
      if sh.peers.get key = some 0 then sh.disconnect key 0 else sh
    let spawning : Turn ControlCrates.transparent String :=
      { Turn.alone "peers" with
        idle := fun sh => sh.spawn key (sh.writers 0)
        surroundings := { Surroundings.quiet with others := fun _ => insertPending } }
    let refused : Turn ControlCrates.transparent String :=
      { Turn.alone "connect 02 host" with idle := disconnectFirst }
    let turns := [spawning, refused]
    let sh' := (calls (Turn.act .transparent .transparent .transparent key) turns
      Server.idle).state.shared
    (∃ events, Transition.run Daemon.step Daemon.new events = some sh'.daemon)
    ∧ ∀ key i, sh'.peers.get key = some i →
      (∃ c, sh'.connections[i]? = some c ∧ c.key = key ∧ c.inserted = true
        ∧ c.disconnected = false)
      ∧ ∀ key', sh'.peers.get key' = some i → key' = key := by
  intro key insertPending disconnectFirst spawning refused turns
  have hturns : ∀ turn ∈ turns, turn.TakesSteps := by
    intro turn hturn
    rcases List.mem_cons.mp hturn with rfl | hturn
    · refine ⟨fun sh => ?_, fun _ sh => ?_, fun hconnect => absurd hconnect (by decide)⟩
      · exact ⟨[.spawn key], Transition.run_single _ _ _ (sh.step_spawn key _)⟩
      · by_cases hpending : sh.connections[0]? = some ⟨key, false, false, .running⟩
        · rw [show spawning.surroundings.others _ sh = sh.insert key 0 from if_pos hpending]
          exact ⟨[.insert 0], Transition.run_single _ _ _
            (sh.step_insert key 0 _ hpending rfl rfl)⟩
        · rw [show spawning.surroundings.others _ sh = sh from if_neg hpending]
          exact refl_of Refines sh
    · rw [List.mem_singleton.mp hturn]
      refine ⟨fun sh => ?_, fun _ => refl_of Refines,
        fun _ _ => ⟨[], rfl, fun _ he => absurd he List.not_mem_nil⟩⟩
      by_cases hentry : sh.peers.get key = some 0
      · rw [show refused.idle sh = sh.disconnect key 0 from if_pos hentry]
        exact ⟨[.disconnect key], Transition.run_single _ _ _ (sh.step_disconnect key 0 hentry)⟩
      · rw [show refused.idle sh = sh from if_neg hentry]
        exact refl_of Refines sh
  exact server_refines_daemon (P := .transparent) (E := .transparent) (L := .transparent) key turns
    hturns Server.idle rfl

section

variable (P : Primitives)

/-- Sends one message, with the way its write ends. -/
def sendOne (message : WriteResult × Bytes) : NoiseMethod NoiseWriter NoiseError Unit :=
  NoiseWriter.send P message.1 message.2

/-- The writer was sent on, one message after the other. -/
def SentOn (w w' : NoiseWriter) : Prop :=
  ∃ messages, w' = (calls (sendOne P) messages w).state

instance : IsPreorder NoiseWriter (SentOn P) where
  refl _ := ⟨[], rfl⟩
  trans _ _ _ h h' := by
    rcases h with ⟨messages, rfl⟩
    rcases h' with ⟨more, rfl⟩
    exact ⟨messages ++ more, by rw [calls_append]⟩

/-- Connections are only added, and on the writers there were messages are only sent. -/
def SendsOnly {S : Secp256k1} (sh sh' : Shared S) : Prop :=
  sh.connections.length ≤ sh'.connections.length
    ∧ ∀ j < sh.connections.length, SentOn P (sh.writers j) (sh'.writers j)

instance {S : Secp256k1} : IsPreorder (Shared S) (SendsOnly P) where
  refl sh := ⟨Nat.le_refl _, fun j _ => refl_of (SentOn P) (sh.writers j)⟩
  trans _ _ _ h h' := ⟨Nat.le_trans h.1 h'.1, fun j hj =>
    trans_of (SentOn P) (h.2 j hj) (h'.2 j (Nat.lt_of_lt_of_le hj h.1))⟩

/-- What a line relies on for the writers: the other tasks only send on connections
    and make new ones. -/
structure Turn.KeepsWriters {S : Secp256k1} {C : ControlCrates S} {Address : Type}
    (turn : Turn C Address) : Prop where
  idle : ∀ sh, SendsOnly P sh (turn.idle sh)
  others : ∀ n sh, SendsOnly P sh (turn.surroundings.others n sh)

end

section

variable {S : Secp256k1} {C : ControlCrates S} {P : Primitives}

/-- A message is sent on one connection, and not on the others. -/
theorem sendsOnly_send (result : WriteResult) (connection : Nat) (wire : Bytes) (sh : Shared S) :
    SendsOnly P sh (sh.send P result connection wire) := by
  have hwriters : (sh.send P result connection wire).writers = Function.update sh.writers connection
      ((NoiseWriter.send P result wire).run (sh.writers connection)).state := rfl
  refine ⟨Nat.le_refl _, fun j _ => ?_⟩
  rw [hwriters]
  by_cases hj : j = connection
  · rw [hj, Function.update_self]
    exact ⟨[(result, wire)], rfl⟩
  · rw [Function.update_of_ne hj]
    exact refl_of (SentOn P) (sh.writers j)

theorem respects_sendsOnly {Address : Type} (turn : Turn C Address) (h : turn.KeepsWriters P) :
    Respects turn.surroundings P (OnShared (SendsOnly P) : Server S Address → _ → Prop) where
  others n s := h.others n s.shared
  sends connection wire s := sendsOnly_send _ connection wire s.shared
  stops s := ⟨Nat.le_refl _, fun j _ => refl_of (SentOn P) (s.shared.writers j)⟩

/-- A new connection has a number of its own. -/
theorem sendsOnly_connected [DecidableEq S.PublicKey] (others : Shared S → Shared S)
    (pubkey : S.PublicKey) (writer : NoiseWriter) (sh : Shared S)
    (hothers : ∀ sh, SendsOnly P sh (others sh)) :
    SendsOnly P sh (sh.connected others pubkey writer) := by
  let made := sh.spawn pubkey writer
  have hlater := hothers made
  rw [SendsOnly, Shared.length_spawn] at hlater
  refine ⟨?_, fun j hj => ?_⟩
  · rw [Shared.connected, Shared.length_insert]
    exact Nat.le_trans (Nat.le_succ _) hlater.1
  · -- The writer of the new connection replaces none, because its number is new.
    have hkept : made.writers j = sh.writers j := Function.update_of_ne (Nat.ne_of_lt hj) _ _
    rw [← hkept]
    exact hlater.2 j (Nat.lt_succ_of_lt hj)

/-- Messages that were written whole are read, in order, as far as they fit a frame,
    also when something else was sent after them. -/
theorem sentOn_reads (hP : P.OpensSealed) (w : NoiseWriter)
    (before after : List (WriteResult × Bytes)) (hwhole : ∀ message ∈ before, message.1 = .whole) :
    let wires := (before.map Prod.snd).filter fun wire => wire.length ≤ Noise.maxMessageSize
    let w' := (calls (sendOne P) (before ++ after) w).state
    (calls (fun _ : Bytes => NoiseReader.recv P) wires
      ⟨w'.stream.drop w.stream.length, w.cipher⟩).outcomes = wires.map .ok := by
  intro wires w'
  -- Writes that end well are those of a writer that is never disturbed.
  have hsame : (calls (sendOne P) before w).state
      = (calls (NoiseWriter.send P .whole) (before.map Prod.snd) w).state := by
    clear wires w'
    induction before generalizing w with
    -- By induction on the messages, from any writer.
    | nil => rfl
    | cons message before ih =>
        rw [List.map_cons, calls_cons, calls_cons, ih _ fun m hm =>
          hwhole m (List.mem_cons_of_mem message hm)]
        unfold sendOne
        rw [hwhole message List.mem_cons_self]
  rcases sendAll_recvAll hP (before.map Prod.snd) w.cipher with ⟨stream, c', hsends, hrecvs⟩
  rcases hsends w.stream with ⟨t, hsent⟩
  -- What is sent later comes behind the messages on the stream.
  have hgrows : Grows (calls (sendOne P) before w).state w' := by
    have hw' : w' = (calls (sendOne P) after (calls (sendOne P) before w).state).state := by
      change (calls (sendOne P) (before ++ after) w).state = _
      rw [calls_append]
    rw [hw']
    exact calls_moves Grows _ after (fun message _ => grows_send message.1 message.2) _
  rw [hsame, hsent] at hgrows
  rcases hgrows with ⟨rest, hrest⟩
  rcases hrecvs rest with ⟨t', hreceived⟩
  rw [← hrest, List.append_assoc, List.drop_left, hreceived]

end

section

variable {S : Secp256k1} [DecidableEq S.PublicKey] {C : ControlCrates S} {P : Primitives}
  {E : Signing S} {L : BitcoinCrate S}

theorem sendsOnly_act (nodeId : S.PublicKey) (turn : Turn C L.Address) (h : turn.KeepsWriters P) :
    Moves (OnShared (SendsOnly P)) (turn.act P E L nodeId) := by
  refine moves_bind _ _ _ (moves_modify _ _ fun s => h.idle s.shared) fun _ => ?_
  refine moves_handleCommand (respects_sendsOnly turn h) (absorbs_self _) nodeId turn.line
    (fun _ => ?_) (fun _ => ?_) (respectsRequests_onShared _ _ _)
  · exact moves_cmdConnect (respects_sendsOnly turn h) (fun pubkey writer s =>
      sendsOnly_connected _ pubkey writer s.shared (h.others 1)) _
  · refine moves_cmdDisconnect (respects_sendsOnly turn h) (fun _ i s _ => ⟨?_, fun j _ => ?_⟩) _
    · exact Nat.le_of_eq (s.shared.length_disconnect _ i).symm
    · exact refl_of (SentOn P) (s.shared.writers j)

/-- Whatever lines are handled, panicking ones included, the writer of a connection is
    only sent on, as long as the other tasks do no more than that. So its peer reads
    whole messages, up to the first write that failed, whatever happens on other
    connections and to the map. -/
theorem server_sends_only (hP : P.OpensSealed) (nodeId : S.PublicKey)
    (turns : List (Turn C L.Address)) (hturns : ∀ turn ∈ turns, turn.KeepsWriters P)
    (s : Server S L.Address) (j : Nat) (hj : j < s.shared.connections.length) :
    let w := s.shared.writers j
    let w' := (calls (Turn.act P E L nodeId) turns s).state.shared.writers j
    SentOn P w w'
      ∧ ∀ before after, w' = (calls (sendOne P) (before ++ after) w).state →
        (∀ message ∈ before, message.1 = .whole) →
        let wires := (before.map Prod.snd).filter fun wire => wire.length ≤ Noise.maxMessageSize
        (calls (fun _ : Bytes => NoiseReader.recv P) wires
          ⟨w'.stream.drop w.stream.length, w.cipher⟩).outcomes = wires.map .ok := by
  intro w w'
  have hmoves : OnShared (SendsOnly P) s (calls (Turn.act P E L nodeId) turns s).state :=
    calls_moves (OnShared (SendsOnly P)) _ turns
      (fun turn hturn => sendsOnly_act nodeId turn (hturns turn hturn)) s
  refine ⟨hmoves.2 j hj, fun before after hsent hwhole => ?_⟩
  have hreads := sentOn_reads hP w before after hwhole
  rw [← hsent] at hreads
  exact hreads

end

/-- The `peers` command on a server with one connection, on which another task sent a
    pong. -/
theorem server_sends_only_pong :
    let key : ByteArr 33 := List.Vector.replicate 33 2
    let turns : List (Turn ControlCrates.transparent String) :=
      [{ Turn.alone "peers" with idle := Shared.send .transparent .whole 0 [0, 19, 0, 0] }]
    let s : Server .transparent String :=
      { Server.idle with
        shared := { Server.idle.shared with connections := [⟨key, true, false, .running⟩] } }
    let w := s.shared.writers 0
    let s' := (calls (Turn.act .transparent .transparent .transparent key) turns s).state
    let w' := s'.shared.writers 0
    SentOn .transparent w w'
      ∧ ∀ before after, w' = (calls (sendOne .transparent) (before ++ after) w).state →
        (∀ message ∈ before, message.1 = .whole) →
        let wires := (before.map Prod.snd).filter fun wire => wire.length ≤ Noise.maxMessageSize
        (calls (fun _ : Bytes => NoiseReader.recv .transparent) wires
          ⟨w'.stream.drop w.stream.length, w.cipher⟩).outcomes = wires.map .ok := by
  intro key turns s
  have hturns : ∀ turn ∈ turns, turn.KeepsWriters .transparent := by
    intro turn hturn
    rw [List.mem_singleton.mp hturn]
    exact ⟨sendsOnly_send _ _ _, fun _ => refl_of (SendsOnly .transparent)⟩
  exact server_sends_only (E := .transparent) (L := .transparent) Primitives.transparent_opensSealed
    key turns hturns s 0 (by decide)

end Simd

end LnGossipSim
