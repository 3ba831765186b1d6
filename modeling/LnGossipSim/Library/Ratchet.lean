import Mathlib.Logic.Function.Iterate
import Mathlib.Algebra.Order.Ring.Nat

/-!
# Lazy Key Ratchets

A key that serves a fixed number of uses and is then replaced by its
successor. The replacement is lazy: a key that is used up stays in place until
the next use, which settles the ratchet first. Two states are therefore at the
same use when they settle to the same state, and that is the relation the
lemmas are about. A state stays at its use when it is settled, and moves to
the next one when the use is taken.

The uses of a ratchet are numbered from zero. In closed form, use number `i`
is served by the key after `(c + i) / T` replacements, as its use number
`(c + i) % T`, where `c` is how often the first key had been used before.

## Main definitions

* `Ratchet`: A key and how often it has been used.
* `Ratchet.settle`: Replace the key when it is used up.
* `Ratchet.advance`: Count one use.
* `Ratchet.slot`: The settled state for each use.
* `Ratchet.AtSlot`: The next use of a state is the given one.

## Theorems

* `atSlot_settle`, `atSlot_advance`: How settling and using move a state.
* `slot_eq`: The uses in closed form.
* `slot_inj`: Different uses differ in key or count, while keys do.
-/

/-- A key and how often it has been used. -/
structure Ratchet (κ : Type) where
  key : κ
  count : Nat

namespace Ratchet

variable {κ : Type}

section

variable (next : κ → κ) (T : Nat)

/-- Replace the key by its successor when it has served its uses. -/
def settle (r : Ratchet κ) : Ratchet κ :=
  if T ≤ r.count then ⟨next r.key, 0⟩ else r

/-- Count one use. -/
def advance (r : Ratchet κ) : Ratchet κ := ⟨r.key, r.count + 1⟩

/-- The settled state that serves each use, counted from zero. -/
def slot (r : Ratchet κ) : Nat → Ratchet κ
  | 0 => settle next T r
  | i + 1 => settle next T (advance (slot r i))

/-- The next use of `r` is number `i` of the ratchet that started as `r₀`. -/
def AtSlot (r₀ : Ratchet κ) (i : Nat) (r : Ratchet κ) : Prop :=
  settle next T r = slot next T r₀ i

end

variable {next : κ → κ} {T : Nat}

/-- A settled state has uses left. -/
theorem settle_count_lt (hT : 0 < T) (r : Ratchet κ) : (settle next T r).count < T := by
  unfold settle
  by_cases h : T ≤ r.count
  · rw [if_pos h]
    exact hT
  · rw [if_neg h]
    omega

theorem settle_of_lt (r : Ratchet κ) (h : r.count < T) : settle next T r = r := by
  unfold settle
  rw [if_neg (by omega)]

theorem settle_settle (hT : 0 < T) (r : Ratchet κ) :
    settle next T (settle next T r) = settle next T r :=
  settle_of_lt _ (settle_count_lt hT r)

theorem atSlot_zero (r : Ratchet κ) : AtSlot next T r 0 r := rfl

/-- Settling does not take the use. -/
theorem atSlot_settle (hT : 0 < T) (r₀ r : Ratchet κ) (i : Nat) (h : AtSlot next T r₀ i r) :
    AtSlot next T r₀ i (settle next T r) := by
  unfold AtSlot at h ⊢
  rw [settle_settle hT, h]

/-- Taking the use of a settled state moves on to the next. -/
theorem atSlot_advance (r₀ r : Ratchet κ) (i : Nat) (h : AtSlot next T r₀ i r) :
    AtSlot next T r₀ (i + 1) (advance (settle next T r)) := by
  unfold AtSlot at h ⊢
  rw [h]
  rfl

/-- Past the last use of a key the quotient goes up by one. -/
theorem div_mod_succ_of_le (p : Nat) (hT : 0 < T) (h : T ≤ p % T + 1) :
    (p + 1) / T = p / T + 1 ∧ (p + 1) % T = 0 := by
  have hmod := Nat.mod_lt p hT
  -- The remainder was the greatest there is, so one more is a multiple of `T`.
  have hnext : p + 1 = T * (p / T + 1) := by
    have hsplit := Nat.div_add_mod p T
    rw [Nat.mul_add]
    omega
  refine ⟨Nat.div_eq_of_eq_mul_right hT hnext, ?_⟩
  rw [hnext, Nat.mul_mod_right]

/-- Before that, only the remainder does. -/
theorem div_mod_succ_of_lt (p : Nat) (h : p % T + 1 < T) :
    (p + 1) / T = p / T ∧ (p + 1) % T = p % T + 1 := by
  have hsplit := Nat.div_add_mod p T
  refine ⟨?_, ?_⟩
  · refine Nat.div_eq_of_lt_le ?_ ?_
    · rw [Nat.mul_comm]
      omega
    · rw [Nat.mul_comm, Nat.mul_add]
      omega
  · rw [← Nat.mod_add_mod, Nat.mod_eq_of_lt h]

/-- The uses in closed form. -/
theorem slot_eq (hT : 0 < T) (r : Ratchet κ) (i : Nat) :
    slot next T r i
      = ⟨next^[(min r.count T + i) / T] r.key, (min r.count T + i) % T⟩ := by
  induction i with
  | zero =>
      unfold slot settle
      -- A key that has served its uses is replaced before the first use.
      by_cases h : T ≤ r.count
      · rw [if_pos h, Nat.min_eq_right h, Nat.add_zero, Nat.div_self hT, Nat.mod_self]
        rfl
      · rw [if_neg h, Nat.min_eq_left (by omega), Nat.add_zero, Nat.div_eq_of_lt (by omega),
          Nat.mod_eq_of_lt (by omega)]
        rfl
  | succ i ih =>
      unfold slot
      rw [ih]
      unfold settle advance
      simp only
      rw [← Nat.add_assoc]
      -- The use just counted was the last of its key, or it was not.
      by_cases hlast : T ≤ (min r.count T + i) % T + 1
      · rcases div_mod_succ_of_le (min r.count T + i) hT hlast with ⟨hdiv, hmod⟩
        rw [if_pos hlast, hdiv, hmod, Function.iterate_succ_apply']
      · rcases div_mod_succ_of_lt (min r.count T + i) (Nat.lt_of_not_le hlast) with ⟨hdiv, hmod⟩
        rw [if_neg hlast, hdiv, hmod]

/-- While the keys differ, as told by `f`, different uses differ in key or in
    count. -/
theorem slot_inj {β : Type} (hT : 0 < T) (f : κ → β) (r : Ratchet κ) (N : Nat)
    (hkeys : ∀ a b, a ≤ N → b ≤ N → f (next^[a] r.key) = f (next^[b] r.key) → a = b)
    (i j : Nat) (hi : (min r.count T + i) / T ≤ N) (hj : (min r.count T + j) / T ≤ N)
    (hkey : f (slot next T r i).key = f (slot next T r j).key)
    (hcount : (slot next T r i).count = (slot next T r j).count) : i = j := by
  rw [slot_eq hT, slot_eq hT] at hkey hcount
  simp only at hkey hcount
  have hdiv := hkeys _ _ hi hj hkey
  have hi' := Nat.div_add_mod (min r.count T + i) T
  have hj' := Nat.div_add_mod (min r.count T + j) T
  rw [hdiv, hcount] at hi'
  omega

end Ratchet
