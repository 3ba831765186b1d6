import LnGossipSim.Library.Part

/-!
# Inserted Calls

When further calls can be inserted into a run without the others noticing. A
call that leaves the state exactly as it was cannot be noticed, but a call may
also do work early that a later call would have done anyway. The relation `R`
says which states no call tells apart. A call respects it when related states
give it the same outcome and stay related. A failing call is harmless when it
leaves a state related to the one it found. Both are proved for the statements
of a method and hold of sequences of them.

A run with inserted calls is a list of marked calls, so the calls may stand
anywhere and there may be any number of them.

## Main definitions

* `Method.Respects`: Related states are not told apart.
* `Method.Harmless`: A run that ends in an error keeps the state related.
* `MarkedCall`: A call that is inserted or not.
* `originals`, `originalOutcomes`: What is left without the inserted calls.

## Theorems

* `Method.respects_bind`, `Method.harmless_bind`: Sequences.
* `Method.calls_inserted`: Inserted calls that fail are not noticed.
-/

/-- A call of a run, inserted into it or not. -/
structure MarkedCall (ι : Type) where
  op : ι
  inserted : Bool

/-- The calls that were not inserted. -/
def originals {ι : Type} (marked : List (MarkedCall ι)) : List ι :=
  (marked.filter fun call => !call.inserted).map MarkedCall.op

/-- The outcomes of the calls that were not inserted. -/
def originalOutcomes {ι ε α : Type} (marked : List (MarkedCall ι))
    (outcomes : List (Outcome ε α)) : List (Outcome ε α) :=
  ((marked.zip outcomes).filter fun call => !call.1.inserted).map Prod.snd

namespace Method

variable {τ σ ρ ε α β ι : Type}

/-- Related states give the method the same outcome and stay related. -/
def Respects (R : σ → σ → Prop) (m : Method τ σ ε α) : Prop :=
  ∀ s s', R s s' → (m.run s).outcome = (m.run s').outcome ∧ R (m.run s).state (m.run s').state

/-- A run that ends in an error leaves a state related to the one it found. -/
def Harmless (R : σ → σ → Prop) (m : Method τ σ ε α) : Prop :=
  ∀ s e, (m.run s).outcome = .err e → R s (m.run s).state

/-- No run ends in an error. -/
def NeverErr (m : Method τ σ ε α) : Prop := ∀ s e, (m.run s).outcome ≠ .err e

variable {R : σ → σ → Prop}

theorem respects_pure (a : α) : (pure a : Method τ σ ε α).Respects R := fun _ _ h => ⟨rfl, h⟩

theorem respects_lift (x : Outcome ε α) : (lift x : Method τ σ ε α).Respects R :=
  fun _ _ h => ⟨rfl, h⟩

/-- A sequence respects what both parts respect: the second part is run with
    the same value or not at all. -/
theorem respects_bind (x : Method τ σ ε α) (k : α → Method τ σ ε β) (hx : x.Respects R)
    (hk : ∀ a, (k a).Respects R) : (x >>= k).Respects R := by
  intro s s' h
  rcases hx s s' h with ⟨houtcome, hstate⟩
  rw [run_bind, run_bind]
  rcases hrun : x.run s with ⟨o, s₁, t⟩
  rcases hrun' : x.run s' with ⟨o', s₁', t'⟩
  rw [hrun, hrun'] at houtcome hstate
  -- The first part ends alike from both states, so the second is run from both or not.
  have ho : o = o' := houtcome
  subst ho
  cases o with
  | ok a => exact hk a s₁ s₁' hstate
  | err e => exact ⟨rfl, hstate⟩
  | panicked => exact ⟨rfl, hstate⟩
  | diverged => exact ⟨rfl, hstate⟩

theorem respects_map (f : α → β) (x : Method τ σ ε α) (hx : x.Respects R) :
    (f <$> x).Respects R := by
  rw [← bind_pure_comp]
  exact respects_bind x _ hx (fun a => respects_pure (f a))

theorem neverErr_pure (a : α) : (pure a : Method τ σ ε α).NeverErr := by
  intro s e h
  exact absurd h (by simp)

theorem neverErr_bind (x : Method τ σ ε α) (k : α → Method τ σ ε β) (hx : x.NeverErr)
    (hk : ∀ a, (k a).NeverErr) : (x >>= k).NeverErr := by
  intro s e
  rw [run_bind]
  rcases hrun : x.run s with ⟨o, s', t⟩
  have hfirst := hx s
  rw [hrun] at hfirst
  cases o with
  | ok a => exact hk a s' e
  | err e' => exact absurd rfl (hfirst e')
  | panicked => exact fun h => nomatch h
  | diverged => exact fun h => nomatch h

/-- When only the first part can end in an error, it is harmless for the
    sequence if it is for the part. -/
theorem harmless_bind (x : Method τ σ ε α) (k : α → Method τ σ ε β) (hx : x.Harmless R)
    (hk : ∀ a, (k a).NeverErr) : (x >>= k).Harmless R := by
  intro s e h
  rw [run_bind] at h ⊢
  rcases hrun : x.run s with ⟨o, s', t⟩
  have hfirst := hx s
  rw [hrun] at h hfirst
  cases o with
  | ok a => exact absurd h (hk a s' e)
  | err e' => exact hfirst e' rfl
  | panicked => exact nomatch h
  | diverged => exact nomatch h

theorem harmless_map (f : α → β) (x : Method τ σ ε α) (hx : x.Harmless R) :
    (f <$> x).Harmless R := by
  rw [← bind_pure_comp]
  exact harmless_bind x _ hx (fun a => neverErr_pure (f a))

/-- Inserted calls that fail are not noticed by the other calls. The induction
    is on the marked calls, and the relation to the run without the inserted
    ones carries it. -/
theorem calls_inserted (act : ι → Method τ σ ε α) (hact : ∀ op, (act op).Respects R)
    (htrans : ∀ a b c, R a b → R b c → R a c)
    (marked : List (MarkedCall ι))
    (hharmless : ∀ call ∈ marked, call.inserted = true → (act call.op).Harmless R) (s s' : σ)
    (h : R s s')
    (hfail : ∀ x ∈ marked.zip (calls act (marked.map MarkedCall.op) s').outcomes,
      x.1.inserted = true → ∃ e, x.2 = .err e) :
    originalOutcomes marked (calls act (marked.map MarkedCall.op) s').outcomes
      = (calls act (originals marked) s).outcomes := by
  induction marked generalizing s s' with
  | nil => rfl
  | cons call marked ih =>
      rw [List.map_cons, calls_cons] at hfail ⊢
      have hrest := fun x hx => hfail x (List.mem_cons_of_mem _ hx)
      have hlater := fun c hc => hharmless c (List.mem_cons_of_mem _ hc)
      by_cases hinserted : call.inserted = true
      · -- the inserted call fails, and the run goes on from a related state
        rcases hfail _ List.mem_cons_self hinserted with ⟨e, he⟩
        have hkept := hharmless call List.mem_cons_self hinserted s' e he
        have hskip := ih hlater s _ (htrans _ _ _ h hkept) hrest
        unfold originalOutcomes originals at hskip ⊢
        rw [List.zip_cons_cons, List.filter_cons_of_neg (by simp [hinserted]),
          List.filter_cons_of_neg (by simp [hinserted])]
        exact hskip
      -- A call of both runs ends alike and keeps their states related.
      · rcases hact call.op s s' h with ⟨houtcome, hstate⟩
        have hnext := ih hlater _ _ hstate hrest
        unfold originalOutcomes originals at hnext ⊢
        rw [List.zip_cons_cons, List.filter_cons_of_pos (by simp [hinserted]),
          List.filter_cons_of_pos (by simp [hinserted]), List.map_cons, List.map_cons,
          calls_cons, ← houtcome, hnext]

/-- A run on one part of a pair respects the relation of that part and
    equality on the other. -/
theorem respects_left (R : ρ → ρ → Prop) (m : Method τ σ ε α) :
    (on StatePart.left m : Method τ (σ × ρ) ε α).Respects fun s s' => s.1 = s'.1 ∧ R s.2 s'.2 := by
  intro s s' h
  rw [run_on, run_on]
  change (m.run s.1).outcome = (m.run s'.1).outcome
    ∧ (m.run s.1).state = (m.run s'.1).state ∧ R s.2 s'.2
  rw [h.1]
  exact ⟨rfl, rfl, h.2⟩

theorem respects_right (R : ρ → ρ → Prop) (m : Method τ ρ ε α) (hm : m.Respects R) :
    (on StatePart.right m : Method τ (σ × ρ) ε α).Respects fun s s' => s.1 = s'.1 ∧ R s.2 s'.2 :=
  fun s s' h => ⟨(hm s.2 s'.2 h.2).1, h.1, (hm s.2 s'.2 h.2).2⟩

theorem harmless_right (R : ρ → ρ → Prop) (m : Method τ ρ ε α) (hm : m.Harmless R) :
    (on StatePart.right m : Method τ (σ × ρ) ε α).Harmless fun s s' => s.1 = s'.1 ∧ R s.2 s'.2 :=
  fun s e h => ⟨rfl, hm s.2 e h⟩

end Method
