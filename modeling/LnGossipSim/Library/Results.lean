import LnGossipSim.Library.Caller

/-!
# What Methods Return

A value that a method returns, or an error that it reports, may have to have some
form, whatever the state is. Both are said together, because a caller that handles
errors passes them on as values. Of a panic nothing is said.

A sequence reports the errors of its parts, and what is known of the value of the
first part may be used for the second.

## Main definitions

* `Outcome.Meets`: The form of a value or an error.
* `Method.Results`: The form of all values and errors of a method.

## Theorems

* `Method.results_bind`: The rule for sequences.
* `Method.results_lift`, `Method.results_mapErr`, `Method.results_attempt`,
  `Method.results_spawn`, `Method.results_zoom`: The rules for statements.
-/

/-- A value has the one form, and an error the other. -/
def Outcome.Meets {ε α : Type} (Good : α → Prop) (Excuse : ε → Prop) : Outcome ε α → Prop
  | .ok a => Good a
  | .err e => Excuse e
  | .panicked => True
  | .diverged => True

namespace Method

variable {τ σ ρ ε ε' α β : Type}

/-- Every value has the one form, and every error the other. -/
def Results (Good : α → Prop) (Excuse : ε → Prop) (m : Method τ σ ε α) : Prop :=
  ∀ s, (m.run s).outcome.Meets Good Excuse

variable {Good : α → Prop} {Excuse : ε → Prop} {Excuse' : ε' → Prop}

theorem results_pure (a : α) (h : Good a) : Results Good Excuse (pure a : Method τ σ ε α) :=
  fun _ => h

/-- Code that does not touch the state. -/
theorem results_lift (x : Outcome ε α) (h : x.Meets Good Excuse) :
    Results Good Excuse (lift x : Method τ σ ε α) := fun _ => h

theorem results_true (m : Method τ σ ε α) : Results (fun _ => True) (fun _ => True) m := by
  intro s
  cases (m.run s).outcome with
  | ok a => trivial
  | err e => trivial
  | panicked => trivial
  | diverged => trivial

theorem results_modify (f : σ → σ) :
    Results (fun _ => True) Excuse (modify f : Method τ σ ε Unit) := fun _ => trivial

theorem results_get : Results (fun _ => True) Excuse (get : Method τ σ ε σ) := fun _ => trivial

theorem results_record (call : τ) :
    Results (fun _ => True) Excuse (record call : Method τ σ ε Unit) := fun _ => trivial

/-- A sequence reports the errors of both parts, and returns the value of the
    second. -/
theorem results_bind {Good' : β → Prop} (x : Method τ σ ε α) (f : α → Method τ σ ε β)
    (hx : Results Good Excuse x) (hf : ∀ a, Good a → Results Good' Excuse (f a)) :
    Results Good' Excuse (x >>= f) := by
  intro s
  have hfirst := hx s
  rw [run_bind]
  rcases hrun : x.run s with ⟨o, s', t⟩
  rw [hrun] at hfirst
  cases o with
  -- Only a value starts the second part.
  | ok a => exact hf a hfirst s'
  | err e => exact hfirst
  | panicked => trivial
  | diverged => trivial

theorem results_ite (c : Prop) [Decidable c] (m m' : Method τ σ ε α) (h : Results Good Excuse m)
    (h' : Results Good Excuse m') : Results Good Excuse (if c then m else m') := by
  by_cases hc : c
  · rw [if_pos hc]
    exact h
  · rw [if_neg hc]
    exact h'

/-- An error that is turned into another. -/
theorem results_mapErr (g : ε → ε') (m : Method τ σ ε α) (h : ∀ e, Excuse' (g e)) :
    Results (fun _ => True) Excuse' (mapErr g m) := by
  intro s
  change ((m.run s).outcome.mapErr g).Meets _ _
  cases (m.run s).outcome with
  | ok a => trivial
  | err e => exact h e
  | panicked => trivial
  | diverged => trivial

/-- A call whose error is handled. -/
theorem results_attempt (m : Method τ σ ε α) (h : Results Good Excuse m) :
    Results (fun r => (∀ a, r = .ok a → Good a) ∧ ∀ e, r = .error e → Excuse e) Excuse'
      (attempt m : Method τ σ ε' (Except ε α)) := by
  intro s
  have hcall := h s
  rw [run_attempt]
  cases ho : (m.run s).outcome with
  | ok a =>
      rw [ho] at hcall
      refine ⟨fun b hb => ?_, fun e he => (nomatch he)⟩
      rw [← Except.ok.inj hb]
      exact hcall
  | err e =>
      rw [ho] at hcall
      refine ⟨fun b hb => (nomatch hb), fun e' he' => ?_⟩
      rw [← Except.error.inj he']
      exact hcall
  | panicked => trivial
  | diverged => trivial

/-- A task of its own. -/
theorem results_spawn (panic : τ) (m : Method τ σ ε α) (h : Results Good Excuse m) :
    Results (fun r => ∀ a, r = some (.ok a) → Good a) Excuse'
      (spawn panic m : Method τ σ ε' (Option (Except ε α))) := by
  intro s
  have hcall := h s
  rw [run_spawn]
  cases ho : (m.run s).outcome with
  | ok a =>
      rw [ho] at hcall
      intro b hb
      rw [← Except.ok.inj (Option.some.inj hb)]
      exact hcall
  | err e => exact fun b hb => nomatch Option.some.inj hb
  | panicked => exact fun b hb => nomatch hb
  | diverged => trivial

/-- A call on a part of the state. -/
theorem results_zoom (view : σ → ρ) (update : ρ → σ → σ) (m : Method τ ρ ε α)
    (h : Results Good Excuse m) : Results Good Excuse (zoom view update m) :=
  fun s => h (view s)

end Method
