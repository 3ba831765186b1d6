import LnGossipSim.Library.Method

/-!
# Parts of a State

A part of a state is read by a view and replaced by an update that changes
nothing else. A method on a part is a method on the whole state, and running it
there commutes with every statement a method is built from. Code written on
the fields of a record is therefore equal to code written on a part of it, by
rewriting one statement after another, whenever the two have the same shape.

Two codes that answer alike on states related by a function are run in
lockstep, over any sequence of calls.

## Main definitions

* `StatePart`: A view, an update and their laws.
* `StatePart.left`, `StatePart.right`: The parts of a pair.
* `Method.on`: A method on a part of the state.

## Theorems

* `Method.on_bind`, `Method.on_get_bind`, `Method.on_modify`: Each statement on
  a part is a statement on the whole.
* `Method.keeps_on`: A method on a part leaves the others alone.
* `Method.calls_split`: Calls on the two parts of a pair do not interfere.
* `Method.calls_map`: Codes that answer alike, over a sequence of calls.
-/

/-- A part of a state: how to read it and how to replace it. -/
structure StatePart (σ ρ : Type) where
  view : σ → ρ
  update : ρ → σ → σ
  view_update : ∀ r s, view (update r s) = r
  update_update : ∀ r r' s, update r (update r' s) = update r s
  update_view : ∀ s, update (view s) s = s

namespace StatePart

variable {σ ρ : Type}

/-- The first component of a pair. -/
def left : StatePart (σ × ρ) σ where
  view := Prod.fst
  update a s := (a, s.2)
  view_update _ _ := rfl
  update_update _ _ _ := rfl
  update_view _ := rfl

/-- The second component of a pair. -/
def right : StatePart (σ × ρ) ρ where
  view := Prod.snd
  update b s := (s.1, b)
  view_update _ _ := rfl
  update_update _ _ _ := rfl
  update_view _ := rfl

end StatePart

namespace Method

variable {τ σ σ' ρ ε α β γ ι : Type} (p : StatePart σ ρ)

/-- A method run on a part of the state. -/
def on (m : Method τ ρ ε α) : Method τ σ ε α := zoom p.view p.update m

@[simp] theorem run_on (m : Method τ ρ ε α) (s : σ) :
    (on p m).run s = ⟨(m.run (p.view s)).outcome, p.update (m.run (p.view s)).state s,
      (m.run (p.view s)).trace⟩ := rfl

theorem on_pure (a : α) : on p (pure a : Method τ ρ ε α) = pure a := by
  funext s
  change (⟨.ok a, p.update (p.view s) s, []⟩ : Return τ σ ε α) = ⟨.ok a, s, []⟩
  rw [p.update_view]

theorem on_lift (x : Outcome ε α) : on p (lift x : Method τ ρ ε α) = lift x := by
  funext s
  change (⟨x, p.update (p.view s) s, []⟩ : Return τ σ ε α) = ⟨x, s, []⟩
  rw [p.update_view]

theorem on_record (call : τ) : on p (record call : Method τ ρ ε Unit) = record call := by
  funext s
  change (⟨.ok (), p.update (p.view s) s, [call]⟩ : Return τ σ ε Unit) = ⟨.ok (), s, [call]⟩
  rw [p.update_view]

theorem on_modify (f : ρ → ρ) :
    on p (modify f : Method τ ρ ε Unit) = modify fun s => p.update (f (p.view s)) s := rfl

/-- The second statement finds what the first one left of the part. -/
theorem on_bind (x : Method τ ρ ε α) (f : α → Method τ ρ ε β) :
    on p (x >>= f) = on p x >>= fun a => on p (f a) := by
  funext s
  change (on p (x >>= f)).run s = (on p x >>= fun a => on p (f a)).run s
  rw [run_on, run_bind, run_bind, run_on]
  rcases hx : x.run (p.view s) with ⟨o, r, t⟩
  cases o with
  | ok a =>
      simp only [run_on, p.view_update, p.update_update]
      rfl
  | err e => rfl
  | panicked => rfl
  | diverged => rfl

theorem on_get_bind (f : ρ → Method τ ρ ε β) :
    on p ((get : Method τ ρ ε ρ) >>= f)
      = (get : Method τ σ ε σ) >>= fun s => on p (f (p.view s)) := by
  funext s
  change (on p ((get : Method τ ρ ε ρ) >>= f)).run s
    = ((get : Method τ σ ε σ) >>= fun s => on p (f (p.view s))).run s
  rw [run_on, run_get_bind, run_get_bind, run_on]

theorem on_map (f : α → β) (m : Method τ ρ ε α) : on p (f <$> m) = f <$> on p m := by
  rw [← bind_pure_comp, on_bind, ← bind_pure_comp]
  simp only [on_pure]

/-- What the updates of a part keep, every method on it keeps. -/
theorem keeps_on (g : σ → γ) (hg : ∀ r s, g (p.update r s) = g s) (m : Method τ ρ ε α) :
    (on p m).Keeps g := fun s => hg _ s

/-- Calls that each run on one part of a pair leave each part as its own calls
    leave it, without the others. -/
theorem calls_split (act : ι → Method τ ρ ε α) (first : ι → Bool) (ops : List ι) (s : ρ × ρ) :
    (calls (fun op => on (if first op then StatePart.left else StatePart.right) (act op))
        ops s).state
      = ((calls act (ops.filter first) s.1).state,
          (calls act (ops.filter fun op => !first op) s.2).state) := by
  induction ops generalizing s with
  | nil => rfl
  | cons op ops ih =>
      rw [calls_cons, ih]
      by_cases h : first op = true
      · rw [List.filter_cons_of_pos h, List.filter_cons_of_neg (by simp [h]), if_pos h]
        rfl
      · rw [List.filter_cons_of_neg h, List.filter_cons_of_pos (by simp [h]), if_neg h]
        rfl

/-- Codes that answer alike on states related by `f`, and leave related states,
    do so over any sequence of calls. -/
theorem calls_map (act : ι → Method τ σ ε α) (act' : ι → Method τ σ' ε α) (f : σ → σ')
    (hstep : ∀ op s, (act' op).run (f s)
      = ⟨((act op).run s).outcome, f ((act op).run s).state, ((act op).run s).trace⟩)
    (ops : List ι) (s : σ) :
    calls act' ops (f s)
      = ⟨(calls act ops s).outcomes, f (calls act ops s).state, (calls act ops s).trace⟩ := by
  induction ops generalizing s with
  | nil => rfl
  | cons op ops ih => rw [calls_cons, calls_cons, hstep, ih]

end Method
