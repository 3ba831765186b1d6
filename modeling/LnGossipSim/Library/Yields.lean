import LnGossipSim.Library.Caller
import LnGossipSim.Library.Part

/-!
# Successful Runs

What a run has done, read off the code and how it ended. A method yields a value and
a state when it ends well with them. Each kind of statement says when that is so, and
a sequence yields what its second part yields from where the first one ended. So
rewriting with these rules turns a run of a long method that is known to have ended
well into the list of what its statements found, without running it forwards.

A method returns early when it ends in an error. A sequence does so in its first
part, or in its second after the first one ended well.

## Main definitions

* `Method.Yields`: The method ends well with this value and this state.
* `Method.Returns`: The method returns early and leaves a state of this kind.

## Theorems

* `Method.yields_bind`: The rule for sequences.
* `Method.yields_lift`, `Method.yields_modify`, `Method.yields_zoom`,
  `Method.yields_spawn`: The rules for statements.
* `Method.returns_first`, `Method.returns_second`, `Method.returns_lift_bind`: Where a
    sequence returns early.
-/

namespace Method

variable {τ τ' σ ρ ε ε' α β : Type}

/-- The method ends well, with this value and this state. -/
def Yields (m : Method τ σ ε α) (s : σ) (a : α) (s' : σ) : Prop :=
  (m.run s).outcome = .ok a ∧ (m.run s).state = s'

theorem yields_of_outcome (m : Method τ σ ε α) (s : σ) (a : α) (h : (m.run s).outcome = .ok a) :
    Yields m s a (m.run s).state := ⟨h, rfl⟩

theorem yields_pure (a b : α) (s s' : σ) :
    Yields (pure a : Method τ σ ε α) s b s' ↔ a = b ∧ s = s' := by
  unfold Yields
  rw [run_pure, Outcome.ok.injEq]

theorem yields_get (s t s' : σ) : Yields (get : Method τ σ ε σ) s t s' ↔ s = t ∧ s = s' := by
  unfold Yields
  rw [run_get, Outcome.ok.injEq]

theorem yields_modify (f : σ → σ) (s s' : σ) (u : Unit) :
    Yields (modify f : Method τ σ ε Unit) s u s' ↔ f s = s' := by
  unfold Yields
  rw [run_modify]
  exact and_iff_right rfl

theorem yields_record (call : τ) (s s' : σ) (u : Unit) :
    Yields (record call : Method τ σ ε Unit) s u s' ↔ s = s' := by
  unfold Yields
  rw [run_record]
  exact and_iff_right rfl

/-- Code that does not touch the state. -/
theorem yields_lift (x : Outcome ε α) (s s' : σ) (a : α) :
    Yields (lift x : Method τ σ ε α) s a s' ↔ x = .ok a ∧ s = s' := by
  unfold Yields
  rw [run_lift]

/-- A sequence ends well when its second part does, from where the first ended
    well. -/
theorem yields_bind (x : Method τ σ ε α) (f : α → Method τ σ ε β) (s s' : σ) (b : β) :
    Yields (x >>= f) s b s' ↔ ∃ a s₁, Yields x s a s₁ ∧ Yields (f a) s₁ b s' := by
  unfold Yields
  rw [run_bind]
  rcases hrun : x.run s with ⟨o, s₁, t⟩
  cases o with
  | ok a =>
      constructor
      · intro h
        exact ⟨a, s₁, ⟨rfl, rfl⟩, h⟩
      · rintro ⟨a', s₁', ⟨ha, hs⟩, h⟩
        rw [← Outcome.ok.inj ha, ← hs] at h
        exact h
  | err e => simp only [reduceCtorEq, false_and, exists_false]
  | panicked => simp only [reduceCtorEq, false_and, exists_false]
  | diverged => simp only [reduceCtorEq, false_and, exists_false]

theorem yields_mapErr (f : ε → ε') (m : Method τ σ ε α) (s s' : σ) (a : α) :
    Yields (mapErr f m) s a s' ↔ Yields m s a s' :=
  and_congr_left' (Outcome.mapErr_eq_ok f _ a)

theorem yields_noting (f : τ → τ') (m : Method τ σ ε α) (s s' : σ) (a : α) :
    Yields (noting f m) s a s' ↔ Yields m s a s' := Iff.rfl

/-- A method on a part of the state. -/
theorem yields_zoom (view : σ → ρ) (update : ρ → σ → σ) (m : Method τ ρ ε α) (s s' : σ) (a : α) :
    Yields (zoom view update m) s a s' ↔ ∃ r, Yields m (view s) a r ∧ update r s = s' := by
  constructor
  · intro h
    exact ⟨_, ⟨h.1, rfl⟩, h.2⟩
  · rintro ⟨r, ⟨ha, rfl⟩, hs⟩
    exact ⟨ha, hs⟩

/-- A task that has a result. -/
theorem yields_spawn (panic : τ) (m : Method τ σ ε α) (s s' : σ) (a : α) :
    Yields (spawn panic m : Method τ σ ε' (Option (Except ε α))) s (some (.ok a)) s'
      ↔ Yields m s a s' := by
  unfold Yields
  rw [run_spawn]
  refine and_congr_left' ?_
  cases (m.run s).outcome with
  | ok b => simp only [Outcome.joined, Outcome.ok.injEq, Option.some.injEq, Except.ok.injEq]
  | err e => simp only [Outcome.joined, Outcome.ok.injEq, Option.some.injEq, reduceCtorEq]
  | panicked => simp only [Outcome.joined, Outcome.ok.injEq, reduceCtorEq]
  | diverged => simp only [Outcome.joined, reduceCtorEq]

/-- The method returns early, in an error, and leaves a state of this kind. -/
def Returns (m : Method τ σ ε α) (s : σ) (Left : σ → Prop) : Prop :=
  (∃ e, (m.run s).outcome = .err e) ∧ Left (m.run s).state

variable {Left : σ → Prop}

/-- A sequence returns early when its first part does. -/
theorem returns_first (x : Method τ σ ε α) (f : α → Method τ σ ε β) (s : σ)
    (h : Returns x s Left) : Returns (x >>= f) s Left := by
  rcases h with ⟨⟨e, he⟩, hleft⟩
  have hrun : x.run s = ⟨.err e, (x.run s).state, (x.run s).trace⟩ := by rw [← he]
  unfold Returns
  rw [run_bind_of_err _ _ _ _ _ _ hrun]
  exact ⟨⟨e, rfl⟩, hleft⟩

/-- It also does when its second part does, from where the first one ended well. -/
theorem returns_second (x : Method τ σ ε α) (f : α → Method τ σ ε β) (s s₁ : σ) (a : α)
    (hx : Yields x s a s₁) (h : Returns (f a) s₁ Left) : Returns (x >>= f) s Left := by
  have hrun : x.run s = ⟨.ok a, s₁, (x.run s).trace⟩ := by rw [← hx.1, ← hx.2]
  unfold Returns
  rw [run_bind_of_ok _ _ _ _ _ _ hrun]
  exact h

/-- Code that does not touch the state returns early, or the second part does. -/
theorem returns_lift_bind (x : Outcome ε α) (f : α → Method τ σ ε β) (s : σ) (hx : x.Settles)
    (hs : Left s) (hf : ∀ a, x = .ok a → Returns (f a) s Left) :
    Returns (lift x >>= f) s Left := by
  cases x with
  | ok a => exact returns_second _ _ s s a ⟨rfl, rfl⟩ (hf a rfl)
  | err e => exact returns_first _ _ s ⟨⟨e, rfl⟩, hs⟩
  | panicked => exact absurd rfl hx.1
  | diverged => exact absurd rfl hx.2

end Method
