import LnGossipSim.Bolt.Types
import LnGossipSim.Simd.Peers

/-!
# Live Connections Stay Registered

Whether `disconnect` and the send commands can reach every live connection. They
can when its entry is in the peers map under its key, so an entry must be removed
by the end of its own reader and by no other.

This does not hold of every run. Entries are found and removed by key, so two
connections to one key take their entries from each other: the second replaces
the first one's, and whichever reader ends first removes what is there. What
keeps a run out of it is that a reader is spawned for a key only when everything
before it is over. A run can go wrong from wherever that is not so.

## Main definitions

* `Registered`: Live connections are in the map, and only they remove entries.
* `SpawnsWhenOver`: The condition on the steps.
* `Unique`: At most one connection to a key is not over.

## Theorems

* `Unique.step`: What spawning only when over preserves.
* `spawn_early`: A reader that is spawned earlier can lose its entry.
* `peers_registered`: Live connections stay registered under the condition.
-/

namespace LnGossipSim

namespace Simd

open Transition

variable {K : Type}

/-- At most one connection to a key is not over, and if there is one, no other
    has the entry. A reader that runs after its command has its entry. -/
structure Unique (s : Daemon K) : Prop where
  alone : ∀ (i j : Nat) c d, s.connections[i]? = some c → s.connections[j]? = some d →
    c.key = d.key → ¬ c.Over → ¬ d.Over → i = j
  entry : ∀ key i, s.peers key = some i → ∀ (j : Nat) d, s.connections[j]? = some d →
    d.key = key → ¬ d.Over → j = i
  recorded : ∀ (i : Nat) c, s.connections[i]? = some c → c.reader = .running →
    c.inserted = true → c.disconnected = false → s.peers c.key = some i

/-- A reader is spawned for a key only when there is no entry under the key and
    every older connection to it is over. -/
def SpawnsWhenOver (s : Daemon K) : DaemonEvent K → Prop
  | .spawn key => s.peers key = none ∧ ∀ c ∈ s.connections, c.key = key → c.Over
  | _ => True

/-- The end of a reader leaves the entries of other connections, and a reader
    that is running after its command returned, and was not disconnected, has its
    entry in the map. -/
structure Registered [DecidableEq K] (s : Daemon K) : Prop where
  removesOwn : ∀ i s', s.step (.deregister i) = some s' → ∀ key j, s.peers key = some j →
    j ≠ i → s'.peers key = some j
  recorded : ∀ (i : Nat) c, s.connections[i]? = some c → c.reader = .running →
    c.inserted = true → c.disconnected = false → s.peers c.key = some i

theorem Connection.not_over_of_reader (c : Connection K) (h : c.reader ≠ .gone) : ¬ c.Over :=
  fun hover => h hover.2

theorem Connection.not_over_of_pending (c : Connection K) (h : c.inserted = false) :
    ¬ c.Over := by
  intro hover
  rw [hover.1] at h
  exact absurd h (by simp)

namespace Unique

theorem new : Unique (Daemon.new : Daemon K) := by
  refine ⟨?_, ?_, ?_⟩
  · intro i j c d hc
    exact absurd hc (by simp [Daemon.new])
  · intro key i hi
    exact absurd hi (by simp [Daemon.new])
  · intro i c hc
    exact absurd hc (by simp [Daemon.new])

section

variable (s : Daemon K) (i : Nat) (c : Connection K) (f : Connection K → Connection K)

theorem alone_update (h : Unique s) (hc : s.connections[i]? = some c)
    (hkey : (f c).key = c.key) (hover : c.Over → (f c).Over) (j k : Nat) (d e : Connection K)
    (hd : (s.update i f).connections[j]? = some d) (he : (s.update i f).connections[k]? = some e)
    (hde : d.key = e.key) (hdover : ¬ d.Over) (heover : ¬ e.Over) : j = k := by
  rcases s.not_over_of_update i j c d f hc hkey hover hd hdover with ⟨d₀, hd₀, hdkey, hd₀over⟩
  rcases s.not_over_of_update i k c e f hc hkey hover he heover with ⟨e₀, he₀, hekey, he₀over⟩
  exact h.alone j k d₀ e₀ hd₀ he₀ ((hdkey.trans hde).trans hekey.symm) hd₀over he₀over

theorem entry_update (h : Unique s) (hc : s.connections[i]? = some c)
    (hkey : (f c).key = c.key) (hover : c.Over → (f c).Over) (key : K) (k j : Nat)
    (d : Connection K) (hk : s.peers key = some k)
    (hd : (s.update i f).connections[j]? = some d) (hdkey : d.key = key) (hdover : ¬ d.Over) :
    j = k := by
  rcases s.not_over_of_update i j c d f hc hkey hover hd hdover with ⟨d₀, hd₀, hd₀key, hd₀over⟩
  exact h.entry key k hk j d₀ hd₀ (hd₀key.trans hdkey) hd₀over

/-- A change that keeps the key, undoes no end, and leaves no reader running that
    should be recorded. -/
theorem update (h : Unique s) (hc : s.connections[i]? = some c) (hkey : (f c).key = c.key)
    (hover : c.Over → (f c).Over)
    (hlive : (f c).reader = .running → (f c).disconnected = true) : Unique (s.update i f) := by
  refine ⟨alone_update s i c f h hc hkey hover, ?_, ?_⟩
  · intro key k hk j d hd hdkey hdover
    exact entry_update s i c f h hc hkey hover key k j d hk hd hdkey hdover
  · intro j d hd hreader hinserted hdisconnected
    rcases s.of_update i j c d f hc hd with ⟨-, rfl⟩ | ⟨-, hold⟩
    · exact absurd ((hlive hreader).symm.trans hdisconnected) (by simp)
    · exact h.recorded j d hold hreader hinserted hdisconnected

end

/-- A new connection is the only one to its key that is not over. -/
theorem spawn (s : Daemon K) (c : Connection K) (h : Unique s) (hpending : c.inserted = false)
    (hnone : s.peers c.key = none) (hover : ∀ d ∈ s.connections, d.key = c.key → d.Over) :
    Unique { s with connections := s.connections ++ [c] } := by
  refine ⟨?_, ?_, ?_⟩
  · intro i j d e hd he hkey hdover heover
    rcases (Daemon.getElem?_spawned _ c d i).mp hd with hd | ⟨hi, rfl⟩
    -- Two old connections, or an old one and the new one, which no open one precedes.
    · rcases (Daemon.getElem?_spawned _ c e j).mp he with he | ⟨-, rfl⟩
      · exact h.alone i j d e hd he hkey hdover heover
      · exact absurd (hover d (List.mem_of_getElem? hd) hkey) hdover
    · rcases (Daemon.getElem?_spawned _ _ e j).mp he with he | ⟨hj, -⟩
      · exact absurd (hover e (List.mem_of_getElem? he) hkey.symm) heover
      · rw [hi, hj]
  · intro key i hi j d hd hkey hdover
    rcases (Daemon.getElem?_spawned _ c d j).mp hd with hd | ⟨-, rfl⟩
    · exact h.entry key i hi j d hd hkey hdover
    -- The new connection has no entry under its key yet.
    · have hsome : s.peers c.key = some i := by
        rw [hkey]
        exact hi
      exact absurd (hnone.symm.trans hsome) (by simp)
  · intro i d hd hreader hinserted hdisconnected
    rcases (Daemon.getElem?_spawned _ c d i).mp hd with hd | ⟨-, rfl⟩
    · exact h.recorded i d hd hreader hinserted hdisconnected
    · exact absurd (hpending.symm.trans hinserted) (by simp)

variable [DecidableEq K]

/-- The entry under a key can be removed when no reader under the key should be
    recorded. -/
theorem setPeer_none (s : Daemon K) (key : K) (h : Unique s)
    (hlive : ∀ (i : Nat) c, s.connections[i]? = some c → c.key = key → c.reader = .running →
      c.inserted = true → c.disconnected = true) : Unique (s.setPeer key none) := by
  refine ⟨h.alone, ?_, ?_⟩
  · intro key' i hi
    by_cases hkey : key' = key
    · rw [Daemon.peers_setPeer, if_pos hkey] at hi
      exact absurd hi (by simp)
    · rw [Daemon.peers_setPeer, if_neg hkey] at hi
      exact h.entry key' i hi
  · intro i c hc hreader hinserted hdisconnected
    -- A running reader that is recorded has another key.
    have hkey : c.key ≠ key := by
      intro hkey
      have hgone := hlive i c hc hkey hreader hinserted
      exact absurd (hgone.symm.trans hdisconnected) (by simp)
    rw [Daemon.peers_setPeer, if_neg hkey]
    exact h.recorded i c hc hreader hinserted hdisconnected

/-- The entry of the only connection to a key that is not over. -/
theorem insert (s : Daemon K) (i : Nat) (c : Connection K) (h : Unique s)
    (hc : s.connections[i]? = some c) (hpending : c.inserted = false) :
    Unique ((s.update i fun c => { c with inserted := true }).setPeer c.key (some i)) := by
  -- The command of this connection is not done, so it is not over.
  have hcover := c.not_over_of_pending hpending
  have hover : c.Over → ({ c with inserted := true } : Connection K).Over :=
    fun hover => absurd hover hcover
  refine ⟨alone_update s i c _ h hc rfl hover, ?_, ?_⟩
  · intro key k hk j d hd hkey hdover
    by_cases hckey : key = c.key
    · rw [Daemon.peers_setPeer, if_pos hckey] at hk
      rcases s.not_over_of_update i j c d _ hc rfl hover hd hdover with ⟨d₀, hd₀, hd₀key, hd₀over⟩
      rw [← Option.some.inj hk]
      exact h.alone j i d₀ c hd₀ hc ((hd₀key.trans hkey).trans hckey) hd₀over hcover
    · rw [Daemon.peers_setPeer, if_neg hckey] at hk
      exact entry_update s i c _ h hc rfl hover key k j d hk hd hkey hdover
  · intro j d hd hreader hinserted hdisconnected
    rcases s.of_update i j c d _ hc hd with ⟨rfl, rfl⟩ | ⟨hij, hold⟩
    · rw [Daemon.peers_setPeer, if_pos rfl]
    · -- a running reader under the same key would be a second connection
      have hkey : d.key ≠ c.key := by
        intro hkey
        have hdover := d.not_over_of_reader (by rw [hreader]; simp)
        exact hij (h.alone j i d c hold hc hkey hdover hcover)
      rw [Daemon.peers_setPeer, if_neg hkey]
      exact h.recorded j d hold hreader hinserted hdisconnected

/-- The entry of a reader that ended was its own. -/
theorem deregister (s : Daemon K) (i : Nat) (c : Connection K) (h : Unique s)
    (hc : s.connections[i]? = some c) (hreader : c.reader = .finished) :
    Unique ((s.update i fun c => { c with reader := .gone }).setPeer c.key none) := by
  have hcover := c.not_over_of_reader (by rw [hreader]; simp)
  have hupdate := update s i c (fun c => { c with reader := .gone }) h hc rfl
    (fun hover => absurd hover hcover) (fun hrunning => absurd hrunning (by simp))
  refine setPeer_none _ c.key hupdate ?_
  intro j d hd hkey hrunning _
  rcases s.of_update i j c d _ hc hd with ⟨-, rfl⟩ | ⟨hij, hold⟩
  · exact absurd hrunning (by simp)
  · have hdover := d.not_over_of_reader (by rw [hrunning]; simp)
    exact absurd (h.alone j i d c hold hc hkey hdover hcover) hij

/-- The entry that is removed was that of the only reader that was recorded. -/
theorem disconnect (s : Daemon K) (i : Nat) (c : Connection K) (h : Unique s)
    (hc : s.connections[i]? = some c) (hi : s.peers c.key = some i) :
    Unique ((s.update i fun c => { c with disconnected := true }).setPeer c.key none) := by
  have hupdate := update s i c (fun c => { c with disconnected := true }) h hc rfl id
    (fun _ => rfl)
  refine setPeer_none _ c.key hupdate ?_
  intro j d hd hkey hrunning hinserted
  rcases s.of_update i j c d _ hc hd with ⟨-, rfl⟩ | ⟨hij, hold⟩
  · rfl
  · by_contra hdisconnected
    have hj := h.recorded j d hold hrunning hinserted (Bool.eq_false_iff.mpr hdisconnected)
    rw [hkey, hi] at hj
    exact hij (Option.some.inj hj).symm

/-- Every step that spawns only when over keeps connections unique. -/
theorem step (s : Daemon K) (e : DaemonEvent K) (s' : Daemon K) (h : Sound s ∧ Unique s)
    (hguard : SpawnsWhenOver s e) (hstep : s.step e = some s') : Sound s' ∧ Unique s' := by
  refine ⟨h.1.step s e s' hstep, ?_⟩
  rcases h with ⟨hsound, h⟩
  cases e with
  | spawn key =>
      rw [(Daemon.step_spawn s s' key).mp hstep]
      exact spawn s _ h rfl hguard.1 hguard.2
  | insert i =>
      rcases (Daemon.step_insert s s' i).mp hstep with ⟨c, hc, hpending, rfl⟩
      exact insert s i c h hc hpending
  | finish i =>
      rcases (Daemon.step_finish s s' i).mp hstep with ⟨c, hc, hreader, rfl⟩
      refine update s i c _ h hc rfl ?_ ?_
      · intro hover
        exact absurd (hreader.symm.trans hover.2) (by simp)
      · intro hrunning
        exact absurd hrunning (by simp)
  | deregister i =>
      rcases (Daemon.step_deregister s s' i).mp hstep with ⟨c, hc, hreader, rfl⟩
      exact deregister s i c h hc hreader
  | disconnect key =>
      rcases (Daemon.step_disconnect s s' key).mp hstep with ⟨-, rfl⟩ | ⟨i, hi, rfl⟩
      · exact h
      · rcases hsound.entry key i hi with ⟨c, hc, rfl, -⟩
        exact disconnect s i c h hc hi
  | cancel i =>
      rcases (Daemon.step_cancel s s' i).mp hstep with ⟨c, hc, -, rfl⟩
      refine update s i c _ h hc rfl ?_ ?_
      · intro hover
        exact ⟨hover.1, rfl⟩
      · intro hrunning
        exact absurd hrunning (by simp)

end Unique

section

variable [DecidableEq K]

/-- A unique connection removes its own entry only. -/
theorem Registered.of_unique (s : Daemon K) (h : Unique s) : Registered s := by
  refine ⟨?_, h.recorded⟩
  intro i s' hstep key j hj hne
  rcases (s.step_deregister s' i).mp hstep with ⟨c, hc, hreader, rfl⟩
  have hkey : key ≠ c.key := by
    intro hkey
    have hcover := c.not_over_of_reader (by rw [hreader]; simp)
    exact hne (h.entry key j hj i c hc hkey.symm hcover).symm
  rw [Daemon.peers_setPeer, if_neg hkey]
  exact hj

/-- A reader that ended while another connection has the entry will remove it. -/
theorem not_registered_of_finished (s : Daemon K) (i j : Nat) (c : Connection K)
    (hc : s.connections[i]? = some c) (hreader : c.reader = .finished)
    (hj : s.peers c.key = some j) (hne : j ≠ i) : ¬ Registered s := by
  intro h
  have hkept := h.removesOwn i _ ((s.step_deregister _ i).mpr ⟨c, hc, hreader, rfl⟩) c.key j hj hne
  rw [Daemon.peers_setPeer, if_pos rfl] at hkept
  exact absurd hkept (by simp)

/-- A reader that is spawned too early can lose its entry, or take that of an older
    connection: there is an order of the next steps in which it does. -/
theorem spawn_early (s : Daemon K) (key : K) (h : Sound s)
    (hearly : ¬ SpawnsWhenOver s (.spawn key)) :
    ∃ es s', run Daemon.step s (.spawn key :: es) = some s' ∧ ¬ Registered s' := by
  let fresh : Connection K :=
    { key, inserted := false, disconnected := false, reader := .running }
  let n := s.connections.length
  let s₁ : Daemon K := { s with connections := s.connections ++ [fresh] }
  have hspawn : s.step (.spawn key) = some s₁ := (s.step_spawn s₁ key).mpr rfl
  have hfresh : s₁.connections[n]? = some fresh :=
    (Daemon.getElem?_spawned s.connections fresh fresh n).mpr (Or.inr ⟨rfl, rfl⟩)
  have hold : ∀ (i : Nat) c, s.connections[i]? = some c →
      s₁.connections[i]? = some c ∧ i ≠ n := by
    intro i c hc
    refine ⟨(Daemon.getElem?_spawned s.connections fresh c i).mpr (Or.inl hc), ?_⟩
    exact Nat.ne_of_lt (List.getElem?_eq_some_iff.mp hc).1
  let s₂ := (s₁.update n fun c => { c with inserted := true }).setPeer key (some n)
  have hinsert : s₁.step (.insert n) = some s₂ :=
    (s₁.step_insert s₂ n).mpr ⟨fresh, hfresh, rfl, rfl⟩
  have hn : s₂.peers key = some n := by
    rw [Daemon.peers_setPeer, if_pos rfl]
  by_cases hnone : s.peers key = none
  · have hleft : ∃ c ∈ s.connections, c.key = key ∧ ¬ c.Over := by
      by_contra hnot
      refine hearly ⟨hnone, ?_⟩
      intro c hc hkey
      by_contra hover
      exact hnot ⟨c, hc, hkey, hover⟩
    rcases hleft with ⟨c, hmem, hkey, hover⟩
    rcases List.getElem?_of_mem hmem with ⟨i, hc⟩
    rcases hold i c hc with ⟨hc₁, hin⟩
    have hc₂ : s₂.connections[i]? = some c := (s₁.update_of_ne n i _ (Ne.symm hin)).trans hc₁
    cases hinserted : c.inserted with
    | false =>
        -- the older command inserts its entry last
        refine ⟨[.insert n, .insert i], _, (run_cons _ _ _ _).mpr ⟨s₁, hspawn,
          (run_cons _ _ _ _).mpr ⟨s₂, hinsert, run_single _ _ _
            ((s₂.step_insert _ i).mpr ⟨c, hc₂, hinserted, rfl⟩)⟩⟩, ?_⟩
        intro hreg
        have hn₂ : s₂.connections[n]? = some { fresh with inserted := true } :=
          s₁.update_self n fresh _ hfresh
        have hrecorded := hreg.recorded n { fresh with inserted := true }
          ((s₂.update_of_ne i n _ hin).trans hn₂) rfl rfl rfl
        rw [hkey, Daemon.peers_setPeer, if_pos rfl] at hrecorded
        exact hin (Option.some.inj hrecorded)
    | true =>
        cases hreader : c.reader with
        | gone => exact absurd ⟨hinserted, hreader⟩ hover
        | finished =>
            refine ⟨[.insert n], s₂, (run_cons _ _ _ _).mpr ⟨s₁, hspawn,
              run_single _ _ _ hinsert⟩, ?_⟩
            exact not_registered_of_finished s₂ i n c hc₂ hreader (hkey ▸ hn) (Ne.symm hin)
        | running =>
            -- the older reader ends once the new entry is there
            let ended : Connection K := { c with reader := .finished }
            refine ⟨[.insert n, .finish i], _, (run_cons _ _ _ _).mpr ⟨s₁, hspawn,
              (run_cons _ _ _ _).mpr ⟨s₂, hinsert, run_single _ _ _
                ((s₂.step_finish _ i).mpr ⟨c, hc₂, hreader, rfl⟩)⟩⟩, ?_⟩
            exact not_registered_of_finished _ i n ended (s₂.update_self i c _ hc₂) rfl
              (hkey ▸ hn) (Ne.symm hin)
  · -- the new reader ends while the older entry is there
    rcases Option.ne_none_iff_exists'.mp hnone with ⟨i, hi⟩
    rcases h.entry key i hi with ⟨c, hc, -⟩
    refine ⟨[.finish n], _, (run_cons _ _ _ _).mpr ⟨s₁, hspawn,
      run_single _ _ _ ((s₁.step_finish _ n).mpr ⟨fresh, hfresh, rfl, rfl⟩)⟩, ?_⟩
    exact not_registered_of_finished _ n i { fresh with reader := .finished }
      (s₁.update_self n fresh _ hfresh) rfl hi (hold i c hc).2

/-- While readers are spawned only for keys whose earlier connections are over,
    live connections are in the map and remove no entry but their own. Wherever a
    reader can be spawned earlier, the run can go on to a state where that fails. -/
theorem peers_registered (es : List (DaemonEvent K)) (s : Daemon K)
    (hguard : Guarded Daemon.step SpawnsWhenOver Daemon.new es)
    (hrun : run Daemon.step Daemon.new es = some s) :
    Registered s ∧ ∀ key, ¬ SpawnsWhenOver s (.spawn key) →
      ∃ es' s', run Daemon.step s (.spawn key :: es') = some s' ∧ ¬ Registered s' := by
  have hinv := guarded_invariant SpawnsWhenOver (fun s => Sound s ∧ Unique s) Unique.step
    Daemon.new s es ⟨Sound.new, Unique.new⟩ hguard hrun
  refine ⟨Registered.of_unique s hinv.2, ?_⟩
  intro key hearly
  exact spawn_early s key hinv.1 hearly

instance decidableOver (c : Connection K) : Decidable c.Over :=
  inferInstanceAs (Decidable (c.inserted = true ∧ c.reader = .gone))

instance decidableSpawnsWhenOver (s : Daemon K) (e : DaemonEvent K) :
    Decidable (SpawnsWhenOver s e) :=
  match e with
  | .spawn key => inferInstanceAs
      (Decidable (s.peers key = none ∧ ∀ c ∈ s.connections, c.key = key → c.Over))
  | .insert _ | .finish _ | .deregister _ | .disconnect _ | .cancel _ => isTrue trivial

end

/-- A second connection to a key once the first has ended. -/
theorem peers_registered_again :
    let key := Secp256k1.transparent.publicKey (List.Vector.replicate 32 1)
    ∃ s, run Daemon.step Daemon.new
        [.spawn key, .insert 0, .finish 0, .deregister 0, .spawn key, .insert 1] = some s
      ∧ Registered s := by
  intro key
  exact ⟨_, rfl, (peers_registered
    [.spawn key, .insert 0, .finish 0, .deregister 0, .spawn key, .insert 1] _
    (by decide +kernel) rfl).1⟩

/-- A second connection to a key while the first is there: the first runs on
    without an entry, and when it ends it removes that of the second. -/
theorem second_connect_unregisters :
    let key := Secp256k1.transparent.publicKey (List.Vector.replicate 32 1)
    ∃ s s', run Daemon.step Daemon.new [.spawn key, .insert 0, .spawn key, .insert 1] = some s
      ∧ s.connections = [⟨key, true, false, .running⟩, ⟨key, true, false, .running⟩]
      ∧ s.peers key = some 1 ∧ ¬ Registered s
      ∧ run Daemon.step s [.finish 0, .deregister 0] = some s' ∧ s'.peers key = none := by
  intro key
  refine ⟨_, _, rfl, rfl, by decide +kernel, ?_, rfl, by decide +kernel⟩
  intro h
  have hrecorded := h.recorded 0 ⟨key, true, false, .running⟩ rfl rfl rfl rfl
  exact absurd hrecorded (by decide +kernel)

end Simd

end LnGossipSim
