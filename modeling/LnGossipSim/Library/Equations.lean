import LnGossipSim.Library.Caller
import LnGossipSim.Library.Part

/-!
# Equations between Methods

Two codes that do the same in different words are equal once their statements are
nested alike and their errors have one type. Renaming the errors of a sequence
renames those of its parts, and a sequence on a local variable is a sequence of
statements on it. With these equations such codes are compared by rewriting, one
statement after the other.

## Theorems

* `Method.mapErr_bind`, `Method.mapErr_lift`, `Method.mapErr_on`,
  `Method.mapErr_withLocal`: Renaming the errors of a statement.
* `Method.mapErr_mapErr`: Renaming them twice.
* `Method.withLocal_bind`, `Method.withLocal_withLocal`: Statements on a local
  variable.
* `Method.sameUnless_bind`, `Method.sameUnless_on`, `Method.sameUnless_withLocal`: The
  rules for statements that may fail.
-/

namespace Method

variable {τ σ ρ υ ε ε' ε'' α β : Type}

section

variable (f : ε → ε')

/-- Renaming the errors of a sequence renames those of its parts. -/
theorem mapErr_bind (x : Method τ σ ε α) (k : α → Method τ σ ε β) :
    mapErr f (x >>= k) = mapErr f x >>= fun a => mapErr f (k a) := by
  funext s
  change (mapErr f (x >>= k)).run s = (mapErr f x >>= fun a => mapErr f (k a)).run s
  have hrename : ∀ {γ : Type} (m : Method τ σ ε γ), (mapErr f m).run s
      = ⟨(m.run s).outcome.mapErr f, (m.run s).state, (m.run s).trace⟩ := fun m => rfl
  rw [hrename, run_bind, run_bind, hrename]
  rcases x.run s with ⟨o, s', t⟩
  cases o with
  | ok a => rfl
  | err e => rfl
  | panicked => rfl
  | diverged => rfl

theorem mapErr_pure (a : α) : mapErr f (pure a : Method τ σ ε α) = pure a := rfl

theorem mapErr_get : mapErr f (get : Method τ σ ε σ) = get := rfl

theorem mapErr_modify (g : σ → σ) : mapErr f (modify g : Method τ σ ε Unit) = modify g := rfl

theorem mapErr_record (call : τ) : mapErr f (record call : Method τ σ ε Unit) = record call := rfl

theorem mapErr_lift (x : Outcome ε α) :
    mapErr f (lift x : Method τ σ ε α) = lift (x.mapErr f) := rfl

theorem mapErr_zoom (view : σ → ρ) (update : ρ → σ → σ) (m : Method τ ρ ε α) :
    mapErr f (zoom view update m) = zoom view update (mapErr f m) := rfl

theorem mapErr_on (p : StatePart σ ρ) (m : Method τ ρ ε α) :
    mapErr f (on p m) = on p (mapErr f m) := rfl

theorem mapErr_ite (c : Prop) [Decidable c] (m m' : Method τ σ ε α) :
    mapErr f (if c then m else m') = if c then mapErr f m else mapErr f m' := by
  by_cases h : c
  · rw [if_pos h, if_pos h]
  · rw [if_neg h, if_neg h]

theorem mapErr_mapErr (g : ε' → ε'') (m : Method τ σ ε α) :
    mapErr g (mapErr f m) = mapErr (fun e => g (f e)) m := by
  funext s
  change (⟨((m.run s).outcome.mapErr f).mapErr g, (m.run s).state, (m.run s).trace⟩
    : Return τ σ ε'' α) = ⟨(m.run s).outcome.mapErr fun e => g (f e), (m.run s).state,
      (m.run s).trace⟩
  cases (m.run s).outcome with
  | ok a => rfl
  | err e => rfl
  | panicked => rfl
  | diverged => rfl

theorem mapErr_withLocal (v : ρ) (m : Method τ ρ ε α) :
    mapErr f (withLocal v m : Method τ σ ε (α × ρ)) = withLocal v (mapErr f m) := by
  funext s
  change (⟨((do return (← (m.run v).outcome, (m.run v).state)) : Outcome ε (α × ρ)).mapErr f, s,
      (m.run v).trace⟩ : Return τ σ ε' (α × ρ))
    = ⟨(do return (← (m.run v).outcome.mapErr f, (m.run v).state)), s, (m.run v).trace⟩
  cases (m.run v).outcome with
  | ok a => rfl
  | err e => rfl
  | panicked => rfl
  | diverged => rfl

end

/-- A sequence on a local variable is one statement on it and then the others. -/
theorem withLocal_bind (v : ρ) (x : Method τ ρ ε α) (k : α → Method τ ρ ε β) :
    (withLocal v (x >>= k) : Method τ σ ε (β × ρ))
      = withLocal v x >>= fun p => withLocal p.2 (k p.1) := by
  funext s
  change (⟨(do return (← ((x >>= k).run v).outcome, ((x >>= k).run v).state)), s,
      ((x >>= k).run v).trace⟩ : Return τ σ ε (β × ρ)) = (withLocal v x >>= fun p =>
        withLocal p.2 (k p.1)).run s
  have hfirst : (withLocal v x : Method τ σ ε (α × ρ)).run s
      = ⟨(do return (← (x.run v).outcome, (x.run v).state)), s, (x.run v).trace⟩ := rfl
  rw [run_bind, run_bind, hfirst]
  rcases x.run v with ⟨o, v', t⟩
  cases o with
  | ok a => rfl
  | err e => rfl
  | panicked => rfl
  | diverged => rfl

theorem withLocal_pure (v : ρ) (a : α) :
    (withLocal v (pure a) : Method τ σ ε (α × ρ)) = pure (a, v) := rfl

/-- A statement on another local variable leaves this one alone. -/
theorem withLocal_withLocal (v : ρ) (u : υ) (m : Method τ υ ε α) :
    (withLocal v (withLocal u m : Method τ ρ ε (α × υ)) : Method τ σ ε ((α × υ) × ρ))
      = withLocal u m >>= fun p => pure (p, v) := by
  funext s
  have hfirst : (withLocal u m : Method τ σ ε (α × υ)).run s
      = ⟨(do return (← (m.run u).outcome, (m.run u).state)), s, (m.run u).trace⟩ := rfl
  change (⟨(do return (← (do return (← (m.run u).outcome, (m.run u).state)
      : Outcome ε (α × υ)), v)), s, (m.run u).trace⟩ : Return τ σ ε ((α × υ) × ρ))
    = (withLocal u m >>= fun p => pure (p, v)).run s
  rw [run_bind, hfirst]
  rcases m.run u with ⟨o, u', t⟩
  cases o with
  -- The statement after a success adds nothing to the trace.
  | ok a => exact congrArg (Return.mk _ _) (List.append_nil t).symm
  | err e => rfl
  | panicked => rfl
  | diverged => rfl

/-- The one method does what the other does, unless it ends in an error of this
    kind. -/
def SameUnless (Bad : ε → Prop) (m m' : Method τ σ ε α) : Prop :=
  ∀ s, m.run s = m'.run s ∨ ∃ e, (m.run s).outcome = .err e ∧ Bad e

section

variable (Bad : ε → Prop)

theorem sameUnless_refl (m : Method τ σ ε α) : SameUnless Bad m m := fun _ => Or.inl rfl

/-- A method that fails in this way does the same as any other, unless it fails. -/
theorem sameUnless_of_err (m m' : Method τ σ ε α)
    (h : ∀ s, ∃ e, (m.run s).outcome = .err e ∧ Bad e) : SameUnless Bad m m' :=
  fun s => Or.inr (h s)

/-- When the first statement fails, so does the sequence. Otherwise the second one
    starts from the same value and state in both. -/
theorem sameUnless_bind (x x' : Method τ σ ε α) (f f' : α → Method τ σ ε β)
    (hx : SameUnless Bad x x') (hf : ∀ a, SameUnless Bad (f a) (f' a)) :
    SameUnless Bad (x >>= f) (x' >>= f') := by
  intro s
  rcases hx s with hsame | ⟨e, he, hbad⟩
  · rw [run_bind, run_bind, ← hsame]
    rcases x.run s with ⟨o, s₁, t⟩
    cases o with
    | ok a =>
        rcases hf a s₁ with hsame' | ⟨e, he, hbad⟩
        · exact Or.inl (congrArg (Return.after t) hsame')
        · exact Or.inr ⟨e, he, hbad⟩
    | err e => exact Or.inl rfl
    | panicked => exact Or.inl rfl
    | diverged => exact Or.inl rfl
  · have hrun : x.run s = ⟨.err e, (x.run s).state, (x.run s).trace⟩ := by rw [← he]
    rw [run_bind_of_err _ _ _ _ _ _ hrun]
    exact Or.inr ⟨e, rfl, hbad⟩

theorem sameUnless_on (p : StatePart σ ρ) (m m' : Method τ ρ ε α) (h : SameUnless Bad m m') :
    SameUnless Bad (on p m) (on p m') := by
  intro s
  rcases h (p.view s) with hsame | hbad
  · left
    change (⟨(m.run (p.view s)).outcome, p.update (m.run (p.view s)).state s,
      (m.run (p.view s)).trace⟩ : Return τ σ ε α) = _
    rw [hsame]
    rfl
  · exact Or.inr hbad

theorem sameUnless_withLocal (v : ρ) (m m' : Method τ ρ ε α) (h : SameUnless Bad m m') :
    SameUnless Bad (withLocal v m : Method τ σ ε (α × ρ)) (withLocal v m') := by
  intro s
  have hrun : ∀ m : Method τ ρ ε α, (withLocal v m : Method τ σ ε (α × ρ)).run s
      = ⟨(do return (← (m.run v).outcome, (m.run v).state)), s, (m.run v).trace⟩ := fun _ => rfl
  rw [hrun, hrun]
  rcases h v with hsame | ⟨e, he, hbad⟩
  · rw [hsame]
    exact Or.inl rfl
  · rw [he]
    exact Or.inr ⟨e, rfl, hbad⟩

end

end Method
