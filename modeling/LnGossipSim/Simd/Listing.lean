import LnGossipSim.Bolt.Types
import LnGossipSim.Simd.Peers

/-!
# No Dead Peer Stays Listed

Whether what the `peers` command lists is alive. While a command is between
spawning its reader and inserting its entry, or a reader is about to remove one,
the map lags behind. Once no one is, every entry should be that of a reader that
is running.

This does not hold of every run. The reader is spawned before its entry is
inserted, so the reader of a connection that ends at once can remove the entry
under its key before the entry is there, and then nobody removes it. That order
is the only one that goes wrong, and whenever it begins the run can go on to a
settled state with a dead entry.

## Main definitions

* `Connection.Settled`, `NoDeadPeer`: Once all is settled, entries are alive.
* `InsertsInTime`: The condition on the steps.
* `Listed`: The reader of an entry is not over.

## Theorems

* `Listed.step`: What inserting in time preserves.
* `settle_others`: A run can go on until all but one connection are settled.
* `insert_late`: An entry that will be inserted late can end up dead.
* `peers_no_dead`: No dead peer stays listed under the condition.
-/

namespace LnGossipSim

namespace Simd

open Transition

variable {K : Type}

/-- A connection whose command is done and whose reader is not about to remove an
    entry. -/
def Connection.Settled (c : Connection K) : Prop := c.inserted = true ∧ c.reader ≠ .finished

/-- When all connections are settled, every entry is a connection whose reader is
    running. -/
def NoDeadPeer (s : Daemon K) : Prop :=
  (∀ c ∈ s.connections, c.Settled) → ∀ key i, s.peers key = some i →
    ∃ c, s.connections[i]? = some c ∧ c.key = key ∧ c.reader = .running

/-- An entry is inserted only while its reader is not over yet. -/
def InsertsInTime (s : Daemon K) : DaemonEvent K → Prop
  | .insert i => ∀ c ∈ s.connections[i]?, c.reader ≠ .gone
  | _ => True

/-- The reader of an entry is not over. -/
def Listed (s : Daemon K) : Prop :=
  ∀ key i, s.peers key = some i → ∀ c, s.connections[i]? = some c → c.reader ≠ .gone

namespace Listed

theorem new : Listed (Daemon.new : Daemon K) := by
  intro key i hi
  exact absurd hi (by simp [Daemon.new])

/-- A change of a reader that is not over, or is not an entry. -/
theorem update (s : Daemon K) (i : Nat) (c : Connection K) (f : Connection K → Connection K)
    (h : Listed s) (hc : s.connections[i]? = some c)
    (hlive : ∀ key, s.peers key = some i → (f c).reader ≠ .gone) : Listed (s.update i f) := by
  intro key j hj d hd
  rcases s.of_update i j c d f hc hd with ⟨rfl, rfl⟩ | ⟨-, hold⟩
  · exact hlive key hj
  · exact h key j hj d hold

theorem spawn (s : Daemon K) (c : Connection K) (h : Listed s) (hc : c.reader ≠ .gone) :
    Listed { s with connections := s.connections ++ [c] } := by
  intro key i hi d hd
  rcases (Daemon.getElem?_spawned _ c d i).mp hd with hold | ⟨-, rfl⟩
  · exact h key i hi d hold
  · exact hc

variable [DecidableEq K]

theorem setPeer_none (s : Daemon K) (key : K) (h : ∀ key' i, key' ≠ key → s.peers key' = some i →
    ∀ c, s.connections[i]? = some c → c.reader ≠ .gone) : Listed (s.setPeer key none) := by
  intro key' i hi
  by_cases hkey : key' = key
  · rw [Daemon.peers_setPeer, if_pos hkey] at hi
    exact absurd hi (by simp)
  · rw [Daemon.peers_setPeer, if_neg hkey] at hi
    exact h key' i hkey hi

theorem insert (s : Daemon K) (i : Nat) (c : Connection K) (h : Listed s)
    (hc : s.connections[i]? = some c) (hreader : c.reader ≠ .gone) :
    Listed ((s.update i fun c => { c with inserted := true }).setPeer c.key (some i)) := by
  intro key j hj d hd
  rcases s.of_update i j c d _ hc hd with ⟨-, rfl⟩ | ⟨hij, hold⟩
  · exact hreader
  · have hkey : key ≠ c.key := by
      intro hkey
      rw [Daemon.peers_setPeer, if_pos hkey] at hj
      exact hij (Option.some.inj hj).symm
    rw [Daemon.peers_setPeer, if_neg hkey] at hj
    exact h key j hj d hold

/-- Every step that inserts in time keeps gone readers out of the map. -/
theorem step (s : Daemon K) (e : DaemonEvent K) (s' : Daemon K) (h : Sound s ∧ Listed s)
    (hguard : InsertsInTime s e) (hstep : s.step e = some s') : Sound s' ∧ Listed s' := by
  refine ⟨h.1.step s e s' hstep, ?_⟩
  rcases h with ⟨hsound, h⟩
  cases e with
  | spawn key =>
      rw [(Daemon.step_spawn s s' key).mp hstep]
      exact spawn s _ h (by simp)
  | insert i =>
      rcases (Daemon.step_insert s s' i).mp hstep with ⟨c, hc, -, rfl⟩
      exact insert s i c h hc (hguard c hc)
  | finish i =>
      rcases (Daemon.step_finish s s' i).mp hstep with ⟨c, hc, -, rfl⟩
      refine update s i c _ h hc ?_
      intro key _
      simp
  | deregister i =>
      rcases (Daemon.step_deregister s s' i).mp hstep with ⟨c, hc, -, rfl⟩
      refine setPeer_none _ c.key ?_
      intro key j hkey hj d hd
      rcases s.of_update i j c d _ hc hd with ⟨rfl, -⟩ | ⟨-, hold⟩
      · -- an entry of this reader is under its own key
        rcases hsound.entry key j hj with ⟨e, he, hekey, -⟩
        rw [hc] at he
        exact absurd (by rw [Option.some.inj he, hekey]) hkey
      · exact h key j hj d hold
  | disconnect key =>
      rcases (Daemon.step_disconnect s s' key).mp hstep with ⟨-, rfl⟩ | ⟨i, hi, rfl⟩
      · exact h
      · rcases hsound.entry key i hi with ⟨c, hc, -⟩
        have hupdate := update s i c (fun c => { c with disconnected := true }) h hc
          (fun key' hkey' => h key' i hkey' c hc)
        exact setPeer_none _ key (fun key' j _ hj => hupdate key' j hj)
  | cancel i =>
      rcases (Daemon.step_cancel s s' i).mp hstep with ⟨c, hc, hdisconnected, rfl⟩
      refine update s i c _ h hc ?_
      intro key hi
      -- a connection that was disconnected is no entry
      rcases hsound.entry key i hi with ⟨d, hd, -, -, hentry⟩
      rw [hc] at hd
      rw [← Option.some.inj hd, hdisconnected] at hentry
      exact absurd hentry (by simp)

end Listed

/-- What is listed and settled is running. -/
theorem NoDeadPeer.of_listed (s : Daemon K) (hsound : Sound s) (h : Listed s) : NoDeadPeer s := by
  intro hsettled key i hi
  rcases hsound.entry key i hi with ⟨c, hc, hkey, -⟩
  refine ⟨c, hc, hkey, ?_⟩
  have hfinished := (hsettled c (List.mem_of_getElem? hc)).2
  cases hreader : c.reader with
  | running => rfl
  | finished => exact absurd hreader hfinished
  | gone => exact absurd hreader (h key i hi c hc)

/-- Only the connection `i` may have changed. -/
structure SameBut (i : Nat) (s s' : Daemon K) : Prop where
  length_eq : s'.connections.length = s.connections.length
  others : ∀ j, j ≠ i → s'.connections[j]? = s.connections[j]?

namespace SameBut

theorem rfl (i : Nat) (s : Daemon K) : SameBut i s s := ⟨Eq.refl _, fun _ _ => Eq.refl _⟩

theorem trans {i : Nat} {s s₁ s₂ : Daemon K} (h : SameBut i s s₁) (h' : SameBut i s₁ s₂) :
    SameBut i s s₂ :=
  ⟨h'.length_eq.trans h.length_eq, fun j hj => (h'.others j hj).trans (h.others j hj)⟩

theorem update (s : Daemon K) (i : Nat) (f : Connection K → Connection K) :
    SameBut i s (s.update i f) :=
  ⟨List.length_modify .., fun j hj => s.update_of_ne i j f (Ne.symm hj)⟩

theorem setPeer [DecidableEq K] {i : Nat} {s s' : Daemon K} (h : SameBut i s s') (key : K)
    (entry : Option Nat) : SameBut i s (s'.setPeer key entry) :=
  ⟨h.length_eq, h.others⟩

end SameBut

section

variable [DecidableEq K]

theorem settle_insert (s : Daemon K) (i : Nat) (c : Connection K)
    (hc : s.connections[i]? = some c) :
    ∃ es s' c', run Daemon.step s es = some s' ∧ s'.connections[i]? = some c'
      ∧ c'.inserted = true ∧ SameBut i s s' := by
  cases hinserted : c.inserted with
  | true => exact ⟨[], s, c, rfl, hc, hinserted, SameBut.rfl i s⟩
  | false =>
      exact ⟨[.insert i], _, _, run_single _ _ _ ((s.step_insert _ i).mpr ⟨c, hc, hinserted, rfl⟩),
        s.update_self i c _ hc, rfl, (SameBut.update s i _).setPeer c.key (some i)⟩

theorem settle_deregister (s : Daemon K) (i : Nat) (c : Connection K)
    (hc : s.connections[i]? = some c) (hinserted : c.inserted = true) :
    ∃ es s' c', run Daemon.step s es = some s' ∧ s'.connections[i]? = some c'
      ∧ c'.Settled ∧ SameBut i s s' := by
  by_cases hreader : c.reader = .finished
  · refine ⟨[.deregister i], _, _,
      run_single _ _ _ ((s.step_deregister _ i).mpr ⟨c, hc, hreader, rfl⟩),
      s.update_self i c _ hc, ⟨hinserted, by simp⟩,
      (SameBut.update s i _).setPeer c.key none⟩
  · exact ⟨[], s, c, rfl, hc, ⟨hinserted, hreader⟩, SameBut.rfl i s⟩

/-- One connection can be settled without touching the others. -/
theorem settle_one (s : Daemon K) (i : Nat) (c : Connection K)
    (hc : s.connections[i]? = some c) :
    ∃ es s' c', run Daemon.step s es = some s' ∧ s'.connections[i]? = some c'
      ∧ c'.Settled ∧ SameBut i s s' := by
  rcases settle_insert s i c hc with ⟨es₁, s₁, c₁, hrun₁, hc₁, hinserted, hsame₁⟩
  rcases settle_deregister s₁ i c₁ hc₁ hinserted with ⟨es₂, s₂, c₂, hrun₂, hc₂, hsettled, hsame₂⟩
  exact ⟨es₁ ++ es₂, s₂, c₂, (run_append s s₁ es₁ es₂ hrun₁).trans hrun₂, hc₂, hsettled,
    hsame₁.trans hsame₂⟩

/-- A run can go on until all connections but one are settled, and leave that one
    alone. -/
theorem settle_others (s : Daemon K) (i m : Nat) :
    ∃ es s', run Daemon.step s es = some s' ∧ s'.connections[i]? = s.connections[i]?
      ∧ s'.connections.length = s.connections.length
      ∧ ∀ j < m, j ≠ i → ∀ d, s'.connections[j]? = some d → d.Settled := by
  induction m with
  | zero =>
      refine ⟨[], s, rfl, rfl, rfl, ?_⟩
      intro j hj
      omega
  | succ m ih =>
      rcases ih with ⟨es, s₁, hrun, hi, hlength, hsettled⟩
      -- Only connection `m` is new to the claim, so it is enough to settle that one.
      have hkeep : (m ≠ i → ∀ d, s₁.connections[m]? = some d → d.Settled) →
          ∀ j < m + 1, j ≠ i → ∀ d, s₁.connections[j]? = some d → d.Settled := by
        intro hm j hj hji d hd
        by_cases hjm : j = m
        · exact hm (hjm ▸ hji) d (hjm ▸ hd)
        · exact hsettled j (by omega) hji d hd
      by_cases hmi : m = i
      · exact ⟨es, s₁, hrun, hi, hlength, hkeep (fun h => absurd hmi h)⟩
      · rcases hc : s₁.connections[m]? with _ | c
        · refine ⟨es, s₁, hrun, hi, hlength, hkeep ?_⟩
          intro _ d hd
          rw [hc] at hd
          exact absurd hd (by simp)
        -- Settling it changes no other connection, so those settled before stay settled.
        · rcases settle_one s₁ m c hc with ⟨es', s₂, c', hrun', hc', hsettled', hsame⟩
          refine ⟨es ++ es', s₂, (run_append s s₁ es es' hrun).trans hrun',
            (hsame.others i (Ne.symm hmi)).trans hi, hsame.length_eq.trans hlength, ?_⟩
          intro j hj hji d hd
          by_cases hjm : j = m
          · rw [hjm, hc'] at hd
            rw [← Option.some.inj hd]
            exact hsettled'
          · rw [hsame.others j hjm] at hd
            exact hsettled j (by omega) hji d hd

/-- A reader that is over before its entry is inserted can leave a dead entry in a
    settled state: its command inserts the entry when all else is settled. -/
theorem insert_late (s : Daemon K) (i : Nat) (c : Connection K)
    (hc : s.connections[i]? = some c) (hpending : c.inserted = false) (hgone : c.reader = .gone) :
    ∃ es s', run Daemon.step s es = some s' ∧ ¬ NoDeadPeer s' := by
  rcases settle_others s i s.connections.length with ⟨es, s₁, hrun, hi, hlength, hsettled⟩
  -- The connection itself was left alone, so its insertion is still possible.
  have hc₁ : s₁.connections[i]? = some c := hi.trans hc
  let s₂ := (s₁.update i fun c => { c with inserted := true }).setPeer c.key (some i)
  have hinsert : s₁.step (.insert i) = some s₂ :=
    (s₁.step_insert s₂ i).mpr ⟨c, hc₁, hpending, rfl⟩
  refine ⟨es ++ [.insert i], s₂,
    (run_append s s₁ es _ hrun).trans (run_single s₁ s₂ _ hinsert), ?_⟩
  intro hdead
  -- Inserting settles this connection, and all others are settled already.
  have hall : ∀ d ∈ s₂.connections, d.Settled := by
    intro d hmem
    rcases List.getElem?_of_mem hmem with ⟨j, hd⟩
    rcases s₁.of_update i j c d _ hc₁ hd with ⟨-, rfl⟩ | ⟨hij, hold⟩
    · refine ⟨rfl, ?_⟩
      rw [hgone]
      simp
    · have hj : j < s.connections.length := by
        rw [← hlength]
        exact (List.getElem?_eq_some_iff.mp hold).1
      exact hsettled j hj hij d hold
  have hentry : s₂.peers c.key = some i := by
    rw [Daemon.peers_setPeer, if_pos rfl]
  -- The entry just made leads to a reader that is over.
  rcases hdead hall c.key i hentry with ⟨d, hd, -, hrunning⟩
  have hself : s₂.connections[i]? = some { c with inserted := true } :=
    s₁.update_self i c _ hc₁
  rw [hself] at hd
  rw [← Option.some.inj hd, hgone] at hrunning
  exact absurd hrunning (by simp)

/-- While entries are inserted before their readers are over, no settled state
    has a dead entry. Wherever a reader is over whose entry will be inserted, the
    run can go on to a settled state that has one. -/
theorem peers_no_dead (es : List (DaemonEvent K)) (s : Daemon K)
    (hguard : Guarded Daemon.step InsertsInTime Daemon.new es)
    (hrun : run Daemon.step Daemon.new es = some s) :
    NoDeadPeer s ∧ ∀ i s', s.step (.insert i) = some s' → ¬ InsertsInTime s (.insert i) →
      ∃ es' s'', run Daemon.step s es' = some s'' ∧ ¬ NoDeadPeer s'' := by
  have hinv := guarded_invariant InsertsInTime (fun s => Sound s ∧ Listed s) Listed.step
    Daemon.new s es ⟨Sound.new, Listed.new⟩ hguard hrun
  refine ⟨NoDeadPeer.of_listed s hinv.1 hinv.2, ?_⟩
  intro i s' hstep hlate
  rcases (s.step_insert s' i).mp hstep with ⟨c, hc, hpending, -⟩
  -- An insertion that is not in time is one whose reader is over.
  have hgone : c.reader = .gone := by
    by_contra hreader
    refine hlate ?_
    intro d hd
    rw [hc] at hd
    rw [← Option.some.inj hd]
    exact hreader
  exact insert_late s i c hc hpending hgone

instance decidableInsertsInTime (s : Daemon K) (e : DaemonEvent K) :
    Decidable (InsertsInTime s e) :=
  match e with
  | .insert i => inferInstanceAs (Decidable (∀ c ∈ s.connections[i]?, c.reader ≠ .gone))
  | .spawn _ | .finish _ | .deregister _ | .disconnect _ | .cancel _ => isTrue trivial

end

/-- A reader that ends while its command inserts the entry, and removes it. -/
theorem peers_no_dead_ended :
    let key := Secp256k1.transparent.publicKey (List.Vector.replicate 32 1)
    ∃ s, run Daemon.step Daemon.new [.spawn key, .finish 0, .insert 0, .deregister 0] = some s
      ∧ NoDeadPeer s := by
  intro key
  exact ⟨_, rfl, (peers_no_dead [.spawn key, .finish 0, .insert 0, .deregister 0] _
    (by decide +kernel) rfl).1⟩

/-- A reader that ends before its command inserts the entry: the entry stays, and
    nothing is left to remove it. -/
theorem dead_peer_listed :
    let key := Secp256k1.transparent.publicKey (List.Vector.replicate 32 1)
    ∃ s, run Daemon.step Daemon.new [.spawn key, .finish 0, .deregister 0, .insert 0] = some s
      ∧ s.peers key = some 0 ∧ s.connections = [⟨key, true, false, .gone⟩] ∧ ¬ NoDeadPeer s := by
  intro key
  refine ⟨_, rfl, by decide +kernel, rfl, ?_⟩
  intro h
  have hsettled : ∀ c ∈ [(⟨key, true, false, .gone⟩ : Connection _)], c.Settled := by
    intro c hc
    rw [List.mem_singleton.mp hc]
    exact ⟨rfl, by simp⟩
  rcases h hsettled key 0 (by decide +kernel) with ⟨c, hc, -, hrunning⟩
  have hgone : c = ⟨key, true, false, .gone⟩ := (Option.some.inj hc).symm
  rw [hgone] at hrunning
  exact absurd hrunning (by simp)

end Simd

end LnGossipSim
