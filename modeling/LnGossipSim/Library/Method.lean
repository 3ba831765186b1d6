import LnGossipSim.Library.Outcome

/-!
# Methods

Code that runs on a mutable receiver. A method takes the receiver's state and
returns an outcome together with the state it left, so the changes made before
an early return are kept, as they are in the language modelled.

A method also returns the list of external calls it made. The program never
reads it. It is there for statements that constrain what an external function
does on the calls of one run and on no others.

`run_bind_of_ok` and the lemmas for the primitive methods execute a method
forwards, one statement at a time. They are proved by rewriting, so that
`simp` applies them as equations and the steps of a long method are not
checked by unfolding it. `bind_eq_ok` reads a successful run
backwards: each statement before the last succeeded, and their states and
traces follow one another.

## Main definitions

* `Return`: An outcome, the state left behind, and the calls made.
* `Method`: A function from the receiver's state to a return.
* `Method.get`, `Method.modify`, `Method.record`, `Method.lift`: The
  primitive methods.
* `Method.zoom`: A method run on a part of the state.
* `Method.Keeps`: A part of the state that a method does not change.
* `Method.calls`: A sequence of calls, carrying on after failed ones.

## Theorems

* `Method.run_bind_of_ok`: A statement that succeeds is stepped over.
* `Method.bind_nested`: Sequences may be nested either way.
* `Method.run_zoom`: A method on a part of the state.
* `Method.bind_eq_ok`: Inversion of a successful sequence.
* `Method.keeps_bind`: A sequence keeps what both parts keep.
* `Method.calls_append`: A sequence of calls in two parts.
* `Method.calls_invariant`: What every call preserves, every sequence does.
-/

/-- What a run of a method returns: how it ended, the state it left and the
    external calls it made. -/
structure Return (τ σ ε α : Type) where
  outcome : Outcome ε α
  state : σ
  trace : List τ

/-- Code that runs on a mutable state of type `σ`. -/
def Method (τ σ ε α : Type) : Type := σ → Return τ σ ε α

namespace Return

variable {τ σ ε α : Type}

/-- The same return, with calls made earlier in front. -/
def after (calls : List τ) (r : Return τ σ ε α) : Return τ σ ε α :=
  ⟨r.outcome, r.state, calls ++ r.trace⟩

theorem eq_of_outcome (r : Return τ σ ε α) (o : Outcome ε α) (h : r.outcome = o) :
    r = ⟨o, r.state, r.trace⟩ := by
  rw [← h]

@[simp] theorem after_nil (r : Return τ σ ε α) : r.after [] = r := rfl

@[simp] theorem after_after (s t : List τ) (r : Return τ σ ε α) :
    (r.after t).after s = r.after (s ++ t) := by
  unfold after
  rw [List.append_assoc]

@[simp] theorem outcome_after (t : List τ) (r : Return τ σ ε α) :
    (r.after t).outcome = r.outcome := rfl

@[simp] theorem state_after (t : List τ) (r : Return τ σ ε α) : (r.after t).state = r.state := rfl

@[simp] theorem trace_after (t : List τ) (r : Return τ σ ε α) :
    (r.after t).trace = t ++ r.trace := rfl

end Return

namespace Method

variable {τ σ ρ ε ε' α β γ ι : Type}

/-- Run a method on a state. -/
def run (m : Method τ σ ε α) (s : σ) : Return τ σ ε α := m s

instance : Monad (Method τ σ ε) where
  pure a := fun s => ⟨.ok a, s, []⟩
  bind x f := fun s =>
    match x s with
    | ⟨.ok a, s', t⟩ => ((f a).run s').after t
    | ⟨.err e, s', t⟩ => ⟨.err e, s', t⟩
    | ⟨.panicked, s', t⟩ => ⟨.panicked, s', t⟩
    | ⟨.diverged, s', t⟩ => ⟨.diverged, s', t⟩

/-- The state. -/
def get : Method τ σ ε σ := fun s => ⟨.ok s, s, []⟩

/-- Change the state. -/
def modify (f : σ → σ) : Method τ σ ε Unit := fun s => ⟨.ok (), f s, []⟩

/-- Note an external call. -/
def record (call : τ) : Method τ σ ε Unit := fun s => ⟨.ok (), s, [call]⟩

/-- Code that does not touch the state. -/
def lift (x : Outcome ε α) : Method τ σ ε α := fun s => ⟨x, s, []⟩

/-- Replace the error a failing run reports. -/
def mapErr (f : ε → ε') (m : Method τ σ ε α) : Method τ σ ε' α := fun s =>
  let r := m.run s
  ⟨r.outcome.mapErr f, r.state, r.trace⟩

/-- Run a method on a part of the state. -/
def zoom (view : σ → ρ) (update : ρ → σ → σ) (m : Method τ ρ ε α) : Method τ σ ε α := fun s =>
  let r := m.run (view s)
  ⟨r.outcome, update r.state s, r.trace⟩

/-- What a sequence of calls returns: the outcome of each, the last state and
    all external calls made. -/
structure Calls (τ σ ε α : Type) where
  outcomes : List (Outcome ε α)
  state : σ
  trace : List τ

/-- However the method ends, it leaves the part of the state that `f` reads as
    it was. -/
def Keeps {β : Type} (f : σ → β) (m : Method τ σ ε α) : Prop :=
  ∀ s, f (m.run s).state = f s

/-- A sequence of calls, carrying on after failed ones. -/
def calls (act : ι → Method τ σ ε α) : List ι → σ → Calls τ σ ε α
  | [], s => ⟨[], s, []⟩
  | op :: ops, s =>
    let r := (act op).run s
    let rest := calls act ops r.state
    ⟨r.outcome :: rest.outcomes, rest.state, r.trace ++ rest.trace⟩

@[simp] theorem run_pure (a : α) (s : σ) :
    (pure a : Method τ σ ε α).run s = ⟨.ok a, s, []⟩ := rfl

@[simp] theorem run_get (s : σ) : (get : Method τ σ ε σ).run s = ⟨.ok s, s, []⟩ := rfl

@[simp] theorem run_modify (f : σ → σ) (s : σ) :
    (modify f : Method τ σ ε Unit).run s = ⟨.ok (), f s, []⟩ := rfl

@[simp] theorem run_record (call : τ) (s : σ) :
    (record call : Method τ σ ε Unit).run s = ⟨.ok (), s, [call]⟩ := rfl

@[simp] theorem run_lift (x : Outcome ε α) (s : σ) :
    (lift x : Method τ σ ε α).run s = ⟨x, s, []⟩ := rfl

theorem run_bind (x : Method τ σ ε α) (f : α → Method τ σ ε β) (s : σ) :
    (x >>= f).run s = match x.run s with
      | ⟨.ok a, s', t⟩ => ((f a).run s').after t
      | ⟨.err e, s', t⟩ => ⟨.err e, s', t⟩
      | ⟨.panicked, s', t⟩ => ⟨.panicked, s', t⟩
      | ⟨.diverged, s', t⟩ => ⟨.diverged, s', t⟩ := rfl

/-- A statement that succeeds is stepped over. -/
theorem run_bind_of_ok (x : Method τ σ ε α) (f : α → Method τ σ ε β) (s s' : σ) (a : α)
    (t : List τ) (h : x.run s = ⟨.ok a, s', t⟩) : (x >>= f).run s = ((f a).run s').after t := by
  rw [run_bind, h]

/-- A statement that fails ends the method, in the state it left. -/
theorem run_bind_of_err (x : Method τ σ ε α) (f : α → Method τ σ ε β) (s s' : σ) (e : ε)
    (t : List τ) (h : x.run s = ⟨.err e, s', t⟩) : (x >>= f).run s = ⟨.err e, s', t⟩ := by
  rw [run_bind, h]

/-- A method whose value is dropped. -/
theorem run_bind_pure_of_ok (x : Method τ σ ε α) (b : β) (s s' : σ) (a : α) (t : List τ)
    (h : x.run s = ⟨.ok a, s', t⟩) :
    (x >>= fun _ => (pure b : Method τ σ ε β)).run s = ⟨.ok b, s', t⟩ := by
  rw [run_bind_of_ok _ _ _ _ _ _ h, run_pure]
  unfold Return.after
  rw [List.append_nil]

@[simp] theorem run_get_bind (f : σ → Method τ σ ε β) (s : σ) :
    ((get : Method τ σ ε σ) >>= f).run s = (f s).run s := by
  rw [run_bind, run_get]
  exact Return.after_nil _

@[simp] theorem run_modify_bind (g : σ → σ) (f : Unit → Method τ σ ε β) (s : σ) :
    ((modify g : Method τ σ ε Unit) >>= f).run s = (f ()).run (g s) := by
  rw [run_bind, run_modify]
  exact Return.after_nil _

@[simp] theorem run_record_bind (call : τ) (f : Unit → Method τ σ ε β) (s : σ) :
    ((record call : Method τ σ ε Unit) >>= f).run s = ((f ()).run s).after [call] := by
  rw [run_bind, run_record]

@[simp] theorem run_lift_ok_bind (a : α) (f : α → Method τ σ ε β) (s : σ) :
    ((lift (.ok a) : Method τ σ ε α) >>= f).run s = (f a).run s := by
  rw [run_bind, run_lift]
  exact Return.after_nil _

@[simp] theorem run_lift_err_bind (e : ε) (f : α → Method τ σ ε β) (s : σ) :
    ((lift (.err e) : Method τ σ ε α) >>= f).run s = ⟨.err e, s, []⟩ := by
  rw [run_bind, run_lift]

@[simp] theorem run_lift_panicked_bind (f : α → Method τ σ ε β) (s : σ) :
    ((lift .panicked : Method τ σ ε α) >>= f).run s = ⟨.panicked, s, []⟩ := by
  rw [run_bind, run_lift]

@[simp] theorem run_pure_bind (a : α) (f : α → Method τ σ ε β) (s : σ) :
    ((pure a : Method τ σ ε α) >>= f).run s = (f a).run s := by
  rw [run_bind, run_pure]
  exact Return.after_nil _

/-- Sequences may be nested either way. -/
theorem bind_nested (x : Method τ σ ε α) (f : α → Method τ σ ε β) (g : β → Method τ σ ε γ) :
    x >>= f >>= g = x >>= fun a => f a >>= g := by
  funext s
  change (x >>= f >>= g).run s = (x >>= fun a => f a >>= g).run s
  rw [run_bind, run_bind, run_bind]
  rcases x.run s with ⟨o, s', t⟩
  -- Only a run that returns goes on, and then the two traces are appended either way.
  cases o with
  | ok a =>
      simp only [run_bind]
      rcases (f a).run s' with ⟨o', s'', t'⟩
      cases o' with
      | ok b => exact (Return.after_after t t' ((g b).run s'')).symm
      | err e => rfl
      | panicked => rfl
      | diverged => rfl
  | err e => rfl
  | panicked => rfl
  | diverged => rfl

theorem bind_pure_self (x : Method τ σ ε α) : x >>= pure = x := by
  funext s
  change (x >>= pure).run s = x.run s
  rw [run_bind]
  rcases x.run s with ⟨o, s', t⟩
  cases o with
  | ok a => exact congrArg (Return.mk _ _) (List.append_nil t)
  | err e => rfl
  | panicked => rfl
  | diverged => rfl

instance : LawfulMonad (Method τ σ ε) :=
  LawfulMonad.mk' _ bind_pure_self (fun a f => funext (run_pure_bind a f)) bind_nested

theorem lift_ok (a : α) : (lift (.ok a) : Method τ σ ε α) = pure a := rfl

/-- A method on a part of the state leaves the rest of it alone. -/
theorem run_zoom (view : σ → ρ) (update : ρ → σ → σ) (m : Method τ ρ ε α) (s : σ)
    (o : Outcome ε α) (r : ρ) (t : List τ) (h : m.run (view s) = ⟨o, r, t⟩) :
    (zoom view update m).run s = ⟨o, update r s, t⟩ := by
  change (⟨(m.run (view s)).outcome, update (m.run (view s)).state s, (m.run (view s)).trace⟩
    : Return τ σ ε α) = _
  rw [h]

/-- A sequence succeeds exactly when both parts do, the second from the state
    the first left. -/
theorem bind_eq_ok (x : Method τ σ ε α) (f : α → Method τ σ ε β) (s s' : σ) (b : β)
    (t : List τ) :
    (x >>= f).run s = ⟨.ok b, s', t⟩
      ↔ ∃ a s₁ t₁ t₂, x.run s = ⟨.ok a, s₁, t₁⟩ ∧ (f a).run s₁ = ⟨.ok b, s', t₂⟩
        ∧ t = t₁ ++ t₂ := by
  constructor
  · intro h
    rw [run_bind] at h
    rcases hx : x.run s with ⟨o, s₁, t₁⟩
    rw [hx] at h
    cases o with
    | ok a =>
        -- The second part is run from the state the first left.
        rcases hf : (f a).run s₁ with ⟨o₂, s₂, t₂⟩
        simp only [hf, Return.after, Return.mk.injEq] at h
        exact ⟨a, s₁, t₁, t₂, rfl, by rw [hf, h.1, h.2.1], h.2.2.symm⟩
    | err e => simp only [Return.mk.injEq, reduceCtorEq, false_and] at h
    | panicked => simp only [Return.mk.injEq, reduceCtorEq, false_and] at h
    | diverged => simp only [Return.mk.injEq, reduceCtorEq, false_and] at h
  · intro h
    rcases h with ⟨a, s₁, t₁, t₂, hx, hf, ht⟩
    rw [run_bind_of_ok x f s s₁ a t₁ hx, hf, ht]
    rfl

section

variable (f : σ → γ)

theorem keeps_pure (a : α) : (pure a : Method τ σ ε α).Keeps f := fun _ => rfl

theorem keeps_get : (get : Method τ σ ε σ).Keeps f := fun _ => rfl

theorem keeps_modify (g : σ → σ) (h : ∀ s, f (g s) = f s) :
    (modify g : Method τ σ ε Unit).Keeps f := h

theorem keeps_record (call : τ) : (record call : Method τ σ ε Unit).Keeps f := fun _ => rfl

theorem keeps_lift (x : Outcome ε α) : (lift x : Method τ σ ε α).Keeps f := fun _ => rfl

theorem keeps_mapErr (g : ε → ε') (m : Method τ σ ε α) (h : m.Keeps f) :
    (mapErr g m).Keeps f := h

/-- A sequence keeps what both parts keep. -/
theorem keeps_bind (x : Method τ σ ε α) (k : α → Method τ σ ε β) (hx : x.Keeps f)
    (hk : ∀ a, (k a).Keeps f) : (x >>= k).Keeps f := by
  intro s
  have h := hx s
  rw [run_bind]
  rcases hrun : x.run s with ⟨o, s', t⟩
  rw [hrun] at h
  cases o with
  | ok a => exact (hk a s').trans h
  | err e => exact h
  | panicked => exact h
  | diverged => exact h

end

theorem calls_nil (act : ι → Method τ σ ε α) (s : σ) : calls act [] s = ⟨[], s, []⟩ := rfl

theorem calls_cons (act : ι → Method τ σ ε α) (op : ι) (ops : List ι) (s : σ) :
    calls act (op :: ops) s
      = ⟨((act op).run s).outcome :: (calls act ops ((act op).run s).state).outcomes,
          (calls act ops ((act op).run s).state).state,
          ((act op).run s).trace ++ (calls act ops ((act op).run s).state).trace⟩ := rfl

/-- Only the calls in the sequence matter. -/
theorem calls_congr (act act' : ι → Method τ σ ε α) (ops : List ι)
    (h : ∀ op ∈ ops, act op = act' op) (s : σ) : calls act ops s = calls act' ops s := by
  induction ops generalizing s with
  | nil => rfl
  | cons op ops ih =>
      rw [calls_cons, calls_cons, h op List.mem_cons_self,
        ih (fun op' hop' => h op' (List.mem_cons_of_mem op hop'))]

@[simp] theorem length_calls_outcomes (act : ι → Method τ σ ε α) (ops : List ι) (s : σ) :
    (calls act ops s).outcomes.length = ops.length := by
  induction ops generalizing s with
  | nil => rfl
  | cons op ops ih => rw [calls_cons, List.length_cons, List.length_cons, ih]

/-- A sequence of calls in two parts: the second starts where the first
    ended. -/
theorem calls_append (act : ι → Method τ σ ε α) (ops ops' : List ι) (s : σ) :
    calls act (ops ++ ops') s
      = ⟨(calls act ops s).outcomes ++ (calls act ops' (calls act ops s).state).outcomes,
          (calls act ops' (calls act ops s).state).state,
          (calls act ops s).trace ++ (calls act ops' (calls act ops s).state).trace⟩ := by
  induction ops generalizing s with
  | nil => rfl
  | cons op ops ih =>
      rw [List.cons_append, calls_cons, calls_cons, ih]
      simp only [List.cons_append, List.append_assoc]

/-- What every call preserves, every sequence of calls preserves. -/
theorem calls_invariant (act : ι → Method τ σ ε α) (I : σ → Prop)
    (hstep : ∀ op s, I s → I ((act op).run s).state) (ops : List ι) (s : σ) (hs : I s) :
    I (calls act ops s).state := by
  induction ops generalizing s with
  | nil => exact hs
  | cons op ops ih => exact ih _ (hstep op s hs)

end Method
