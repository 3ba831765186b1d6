import Mathlib.Data.List.Induction
import Mathlib.Logic.Basic

/-!
# Transition Systems

Systems that take one step after another, each labelled with the event that
caused it. The step function returns nothing when an event cannot happen in a
state, so a list of events is a run when every one of them can happen in turn.
Step functions compute, and so do runs.

`guarded_invariant` lifts what one step preserves to runs. It is for properties
that are only preserved by steps that meet a condition, and speaks about the
runs all of whose steps do. `history_invariant` is for properties that relate the
state to the events that led to it.

## Main definitions

* `run`: The state after a list of events.
* `Guarded`: Every step of a run meets a condition.

## Theorems

* `guarded_invariant`: What guarded steps preserve, guarded runs preserve.
* `run_append_eq_some`, `guarded_append`: A run in two parts.
* `history_invariant`: An invariant of the state and the events so far.
-/

namespace Transition

variable {σ ι : Type} (step : σ → ι → Option σ)

/-- The state after a list of events, if all of them can happen in turn. -/
def run (s : σ) : List ι → Option σ
  | [] => some s
  | e :: es => (step s e).bind (fun s' => run s' es)

/-- Every step of the run meets the condition, in the state it is taken in. -/
def Guarded (guard : σ → ι → Prop) : σ → List ι → Prop
  | _, [] => True
  | s, e :: es => guard s e ∧ ∀ s' ∈ step s e, Guarded guard s' es

instance decidableGuarded (guard : σ → ι → Prop) [∀ s e, Decidable (guard s e)] :
    ∀ s es, Decidable (Guarded step guard s es)
  | _, [] => isTrue trivial
  | s, e :: es =>
    have : DecidablePred (fun s' => Guarded step guard s' es) :=
      fun s' => decidableGuarded guard s' es
    inferInstanceAs (Decidable (guard s e ∧ ∀ s' ∈ step s e, Guarded step guard s' es))

variable {step}

theorem run_cons (s s' : σ) (e : ι) (es : List ι) :
    run step s (e :: es) = some s' ↔ ∃ s₁, step s e = some s₁ ∧ run step s₁ es = some s' :=
  Option.bind_eq_some_iff

theorem run_append (s s₁ : σ) (es es' : List ι) (h : run step s es = some s₁) :
    run step s (es ++ es') = run step s₁ es' := by
  induction es generalizing s with
  | nil =>
      rw [← Option.some.inj h, List.nil_append]
  | cons e es ih =>
      rcases (run_cons s s₁ e es).mp h with ⟨s₂, hfirst, hrest⟩
      calc run step s (e :: es ++ es')
          = (step s e).bind (fun s' => run step s' (es ++ es')) := rfl
        _ = run step s₂ (es ++ es') := by rw [hfirst, Option.bind_some]
        _ = run step s₁ es' := ih s₂ hrest

theorem run_append_of_none (s : σ) (es es' : List ι) (h : run step s es = none) :
    run step s (es ++ es') = none := by
  induction es generalizing s with
  | nil => exact absurd h (by simp [run])
  | cons e es ih =>
      unfold run at h
      change (step s e).bind (fun s' => run step s' (es ++ es')) = none
      cases hfirst : step s e with
      | none => rfl
      | some s₁ =>
          rw [hfirst] at h
          exact ih s₁ h

theorem run_append_eq_some (s s' : σ) (es es' : List ι) :
    run step s (es ++ es') = some s'
      ↔ ∃ s₁, run step s es = some s₁ ∧ run step s₁ es' = some s' := by
  constructor
  · intro h
    cases hfirst : run step s es with
    | some s₁ => exact ⟨s₁, rfl, (run_append s s₁ es es' hfirst).symm.trans h⟩
    | none =>
        rw [run_append_of_none s es es' hfirst] at h
        exact absurd h (by simp)
  · intro h
    rcases h with ⟨s₁, hfirst, hrest⟩
    exact (run_append s s₁ es es' hfirst).trans hrest

/-- The steps of a run in two parts meet the condition when those of both parts do. -/
theorem guarded_append (guard : σ → ι → Prop) (s s₁ : σ) (es es' : List ι)
    (h : run step s es = some s₁) :
    Guarded step guard s (es ++ es') ↔ Guarded step guard s es ∧ Guarded step guard s₁ es' := by
  induction es generalizing s with
  | nil =>
      rw [← Option.some.inj h]
      exact (iff_of_eq (true_and _)).symm
  | cons e es ih =>
      rcases (run_cons s s₁ e es).mp h with ⟨s₂, hfirst, hrest⟩
      have hnext : ∀ es'' : List ι, (∀ s' ∈ step s e, Guarded step guard s' es'')
          ↔ Guarded step guard s₂ es'' := by
        intro es''
        rw [hfirst]
        exact ⟨fun hall => hall s₂ rfl, fun h s' hs => Option.some.inj hs ▸ h⟩
      calc Guarded step guard s (e :: es ++ es')
          ↔ guard s e ∧ Guarded step guard s₂ (es ++ es') := and_congr_right fun _ => hnext _
        _ ↔ guard s e ∧ Guarded step guard s₂ es ∧ Guarded step guard s₁ es' := by
            rw [ih s₂ hrest]
        _ ↔ Guarded step guard s (e :: es) ∧ Guarded step guard s₁ es' := by
            rw [← and_assoc]
            exact and_congr_left fun _ => (and_congr_right fun _ => hnext es).symm

/-- A condition on the events alone, met by each of them. -/
theorem guarded_of_forall (guard : ι → Prop) (s : σ) (es : List ι) (h : ∀ e ∈ es, guard e) :
    Guarded step (fun _ => guard) s es := by
  induction es generalizing s with
  | nil => trivial
  | cons e es ih =>
      rcases List.forall_mem_cons.mp h with ⟨he, hes⟩
      exact ⟨he, fun s' _ => ih s' hes⟩

/-- Steps that meet two conditions. -/
theorem guarded_and (guard guard' : σ → ι → Prop) (s : σ) (es : List ι)
    (h : Guarded step guard s es) (h' : Guarded step guard' s es) :
    Guarded step (fun s e => guard s e ∧ guard' s e) s es := by
  induction es generalizing s with
  | nil => trivial
  | cons e es ih => exact ⟨⟨h.1, h'.1⟩, fun s' hs => ih s' (h.2 s' hs) (h'.2 s' hs)⟩

/-- A run of one step. -/
theorem run_single (s s' : σ) (e : ι) (h : step s e = some s') : run step s [e] = some s' :=
  (run_cons s s' e []).mpr ⟨s', h, rfl⟩

/-- What guarded steps preserve, guarded runs preserve. -/
theorem guarded_invariant (guard : σ → ι → Prop) (I : σ → Prop)
    (hstep : ∀ s e s', I s → guard s e → step s e = some s' → I s') (s s' : σ) (es : List ι)
    (hs : I s) (hguard : Guarded step guard s es) (hrun : run step s es = some s') : I s' := by
  induction es generalizing s with
  | nil =>
      rw [← Option.some.inj hrun]
      exact hs
  | cons e es ih =>
      rcases (run_cons s s' e es).mp hrun with ⟨s₁, hfirst, hrest⟩
      exact ih s₁ (hstep s e s₁ hs hguard.1 hfirst) (hguard.2 s₁ hfirst) hrest

/-- An invariant that also speaks of the events so far. The induction is on the
    events, from the last one. -/
theorem history_invariant (guard : σ → ι → Prop) (I : List ι → σ → Prop) (s₀ : σ) (h₀ : I [] s₀)
    (hstep : ∀ es s e s', I es s → guard s e → step s e = some s' → I (es ++ [e]) s')
    (es : List ι) (s : σ) (hguard : Guarded step guard s₀ es) (hrun : run step s₀ es = some s) :
    I es s := by
  induction es using List.reverseRecOn generalizing s with
  | nil =>
      rw [← Option.some.inj hrun]
      exact h₀
  | append_singleton es e ih =>
      rcases (run_append_eq_some s₀ s es [e]).mp hrun with ⟨s₁, hfirst, hlast⟩
      rcases (guarded_append guard s₀ s₁ es [e] hfirst).mp hguard with ⟨hes, he, -⟩
      rcases (run_cons s₁ s e []).mp hlast with ⟨s₂, hstep', hnil⟩
      rw [← Option.some.inj hnil]
      exact hstep es s₁ e s₂ (ih s₁ hes hfirst) he hstep'

end Transition
