import Mathlib.Logic.Basic

/-!
# Outcomes of Fallible Code

The result type of imperative code that may fail in two different ways. An
error is a value the caller receives and may handle; a panic is an assertion
of the program that did not hold, and nothing handles it. Keeping the two
apart is what lets a statement say that code rejects an input without
panicking on it.

A loop is written with a fuel argument, so that it stays a structural
recursion and can be evaluated. Running out of fuel is a fourth outcome
rather than some default value: a theorem that a loop terminates is then the
statement that this outcome never occurs.

## Main definitions

* `Outcome`: A value, an error, a panic, or fuel exhausted.
* `Outcome.Settles`: The run ends in a value or an error.
* `Outcome.FailsWith`: The run ends in an error of a given kind.
* `Outcome.mapErr`: Replace the error a failing run reports.
* `Outcome.okOr`: The value of an option, or an error.
* `Outcome.ofExcept`: The value of an answer, or what is made of its error.
* `Outcome.expect`: The value of an option, or a panic.
* `Outcome.rejectIf`: Stop with an error when a condition holds.

## Theorems

* `Outcome.bind_eq_ok`: A sequence succeeds exactly when both parts do.
* `Outcome.settles_bind`: Settling is preserved by sequencing.
* `Outcome.failsWith_bind`: A sequence fails when its first part does.
-/

/-- How a run of fallible code ends. -/
inductive Outcome (ε α : Type) where
  | ok (value : α)
  | err (error : ε)
  | panicked
  | diverged
  deriving DecidableEq

namespace Outcome

variable {ε ε' α β : Type}

instance : Monad (Outcome ε) where
  pure := Outcome.ok
  bind x f := match x with
    | .ok a => f a
    | .err e => .err e
    | .panicked => .panicked
    | .diverged => .diverged

/-- Replace the error a failing run reports. -/
def mapErr (f : ε → ε') : Outcome ε α → Outcome ε' α
  | .ok a => .ok a
  | .err e => .err (f e)
  | .panicked => .panicked
  | .diverged => .diverged

/-- The value of an option, or an error where there is none. -/
def okOr (e : ε) : Option α → Outcome ε α
  | some a => .ok a
  | none => .err e

/-- The value of an answer, or what is made of its error. -/
def ofExcept (f : ε' → ε) : Except ε' α → Outcome ε α
  | .ok a => .ok a
  | .error e => .err (f e)

/-- The value of an option, or a panic where there is none. -/
def expect : Option α → Outcome ε α
  | some a => .ok a
  | none => .panicked

/-- Stop with an error when a condition holds. -/
def rejectIf (c : Prop) [Decidable c] (e : ε) : Outcome ε Unit :=
  if c then .err e else .ok ()

/-- The value of a run that has one. -/
def toOption : Outcome ε α → Option α
  | .ok a => some a
  | _ => none

/-- The run ends in a value or an error: it does not panic, and no loop in it
    is left running. -/
def Settles (x : Outcome ε α) : Prop :=
  x ≠ .panicked ∧ x ≠ .diverged

/-- The run ends in an error of the given kind. -/
def FailsWith (Kind : ε → Prop) (x : Outcome ε α) : Prop :=
  ∃ e, Kind e ∧ x = .err e

@[simp] theorem pure_eq_ok (a : α) : (pure a : Outcome ε α) = .ok a := rfl

@[simp] theorem ok_bind (a : α) (f : α → Outcome ε β) : (Outcome.ok a >>= f) = f a := rfl

@[simp] theorem err_bind (e : ε) (f : α → Outcome ε β) :
    ((Outcome.err e : Outcome ε α) >>= f) = .err e := rfl

@[simp] theorem panicked_bind (f : α → Outcome ε β) :
    ((Outcome.panicked : Outcome ε α) >>= f) = .panicked := rfl

@[simp] theorem diverged_bind (f : α → Outcome ε β) :
    ((Outcome.diverged : Outcome ε α) >>= f) = .diverged := rfl

@[simp] theorem mapErr_ok (f : ε → ε') (a : α) : mapErr f (.ok a : Outcome ε α) = .ok a := rfl

@[simp] theorem mapErr_err (f : ε → ε') (e : ε) :
    mapErr f (.err e : Outcome ε α) = .err (f e) := rfl

@[simp] theorem okOr_some (e : ε) (a : α) : okOr e (some a) = .ok a := rfl

@[simp] theorem okOr_none (e : ε) : okOr e (none : Option α) = .err e := rfl

@[simp] theorem expect_some (a : α) : (expect (some a) : Outcome ε α) = .ok a := rfl

theorem rejectIf_of_not (c : Prop) [Decidable c] (e : ε) (h : ¬ c) : rejectIf c e = .ok () := by
  rw [rejectIf, if_neg h]

theorem rejectIf_eq_ok (c : Prop) [Decidable c] (e : ε) (u : Unit) :
    rejectIf c e = .ok u ↔ ¬ c := by
  by_cases h : c <;>
    simp only [rejectIf, h, if_true, if_false, reduceCtorEq, not_true, not_false_iff]

instance : LawfulMonad (Outcome ε) :=
  LawfulMonad.mk' (Outcome ε) (fun x => by cases x <;> rfl) (fun _ _ => rfl)
    (fun x _ _ => by cases x <;> rfl)

/-- A sequence succeeds exactly when its first part does and its second part
    succeeds on the value the first returned. -/
theorem bind_eq_ok (x : Outcome ε α) (f : α → Outcome ε β) (b : β) :
    (x >>= f) = .ok b ↔ ∃ a, x = .ok a ∧ f a = .ok b := by
  constructor
  · intro h
    cases x with
    | ok a => exact ⟨a, rfl, h⟩
    | err e => simp only [err_bind, reduceCtorEq] at h
    | panicked => simp only [panicked_bind, reduceCtorEq] at h
    | diverged => simp only [diverged_bind, reduceCtorEq] at h
  · rintro ⟨a, rfl, h⟩
    exact h

theorem mapErr_eq_ok (f : ε → ε') (x : Outcome ε α) (a : α) :
    mapErr f x = .ok a ↔ x = .ok a := by
  cases x <;> simp only [mapErr, reduceCtorEq, ok.injEq]

theorem okOr_eq_ok (e : ε) (x : Option α) (a : α) : okOr e x = .ok a ↔ x = some a := by
  cases x <;> simp only [okOr, reduceCtorEq, ok.injEq, Option.some.injEq]

theorem ofExcept_eq_ok (f : ε' → ε) (x : Except ε' α) (a : α) :
    ofExcept f x = .ok a ↔ x = .ok a := by
  cases x <;> simp only [ofExcept, reduceCtorEq, ok.injEq, Except.ok.injEq]

theorem expect_eq_ok (x : Option α) (a : α) : (expect x : Outcome ε α) = .ok a ↔ x = some a := by
  cases x <;> simp only [expect, reduceCtorEq, ok.injEq, Option.some.injEq]

@[simp] theorem settles_ok (a : α) : Settles (.ok a : Outcome ε α) := by
  simp only [Settles, ne_eq, reduceCtorEq, not_false_eq_true, and_self]

@[simp] theorem settles_err (e : ε) : Settles (.err e : Outcome ε α) := by
  simp only [Settles, ne_eq, reduceCtorEq, not_false_eq_true, and_self]

theorem settles_ite (c : Prop) [Decidable c] (x y : Outcome ε α) (hx : x.Settles)
    (hy : y.Settles) : (if c then x else y).Settles := by
  by_cases h : c
  · rw [if_pos h]
    exact hx
  · rw [if_neg h]
    exact hy

theorem settles_rejectIf (c : Prop) [Decidable c] (e : ε) : Settles (rejectIf c e) := by
  unfold rejectIf
  exact settles_ite c _ _ (settles_err e) (settles_ok ())

theorem settles_okOr (e : ε) (x : Option α) : Settles (okOr e x) := by
  cases x with
  | none => exact settles_err e
  | some a => exact settles_ok a

theorem settles_ofExcept (f : ε' → ε) (x : Except ε' α) : Settles (ofExcept f x) := by
  cases x with
  | error e => exact settles_err (f e)
  | ok a => exact settles_ok a

theorem settles_mapErr (f : ε → ε') (x : Outcome ε α) (h : Settles x) : Settles (mapErr f x) := by
  cases x with
  | ok a => exact settles_ok a
  | err e => exact settles_err (f e)
  | panicked => exact absurd rfl h.1
  | diverged => exact absurd rfl h.2

/-- Settling is preserved by sequencing. -/
theorem settles_bind (x : Outcome ε α) (f : α → Outcome ε β) (hx : Settles x)
    (hf : ∀ a, x = .ok a → Settles (f a)) : Settles (x >>= f) := by
  cases x with
  | ok a => exact hf a rfl
  | err e => exact settles_err e
  | panicked => exact absurd rfl hx.1
  | diverged => exact absurd rfl hx.2

/-- A sequence fails when its first part does. -/
theorem failsWith_bind (Kind : ε → Prop) {x : Outcome ε α} (f : α → Outcome ε β)
    (h : x.FailsWith Kind) : (x >>= f).FailsWith Kind := by
  rcases h with ⟨e, he, hx⟩
  exact ⟨e, he, by rw [hx, err_bind]⟩

end Outcome
