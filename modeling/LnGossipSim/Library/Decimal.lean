import Mathlib.Data.List.Basic

/-!
# Unsigned Decimal Numbers

Reading an unsigned number of a fixed width from its digits. The reader adds
one digit at a time and stops as soon as the value no longer fits, so a long
text is rejected without computing the number it spells. Digits only make a
value larger, so this is the same as asking whether the number fits in the
end.

A leading plus sign and leading zeros are accepted, so a number has many
texts. The one it is printed as is among them.

## Main definitions

* `Decimal.parseUnsigned`: The number below a bound that a text spells.
* `Decimal.Spells`: What it means for a text to spell a number.

## Theorems

* `Decimal.parseUnsigned_eq_some`: The reader accepts what spells a number
  below the bound.
* `Decimal.spells_toDigits`: A number is spelled by its digits.
* `Decimal.not_mem_of_spells`: No other character is in a text that spells a
  number.
-/

namespace Decimal

/-- The value of a decimal digit. -/
def digitValue (c : Char) : Option Nat :=
  if c.isDigit then some (c.toNat - '0'.toNat) else none

/-- A value that fits below the bound. -/
def checked (bound n : Nat) : Option Nat := if n < bound then some n else none

/-- Reads the digits after those of `acc`. -/
def digitsBelow (bound : Nat) : Nat → List Char → Option Nat
  | acc, [] => some acc
  | acc, c :: cs => do
    let shifted ← checked bound (10 * acc)
    let d ← digitValue c
    let next ← checked bound (shifted + d)
    digitsBelow bound next cs

/-- A text without the plus sign it may start with. -/
def stripPlus : List Char → List Char
  | '+' :: digits => digits
  | digits => digits

/-- The number below a bound that a text spells. -/
def parseUnsigned (bound : Nat) (s : List Char) : Option Nat :=
  if stripPlus s = [] then none else digitsBelow bound 0 (stripPlus s)

/-- The text is at least one digit, maybe after a plus sign, and the digits have
    the value. -/
def Spells (s : List Char) (n : Nat) : Prop :=
  ∃ digits, (s = digits ∨ s = '+' :: digits) ∧ digits ≠ [] ∧ (∀ c ∈ digits, c.isDigit)
    ∧ n = Nat.ofDigitChars 10 digits 0

theorem le_ofDigitChars (cs : List Char) (acc : Nat) : acc ≤ Nat.ofDigitChars 10 cs acc := by
  rw [Nat.ofDigitChars_eq_ofDigitChars_zero]
  have hpow : 1 ≤ 10 ^ cs.length := Nat.one_le_pow _ _ (by omega)
  have hmul : 1 * acc ≤ 10 ^ cs.length * acc := Nat.mul_le_mul_right acc hpow
  omega

/-- The digits are read to the end exactly when the number they make fits. The
    induction is on the digits; a value that does not fit never fits again. -/
theorem digitsBelow_eq_some (bound acc : Nat) (cs : List Char) (n : Nat) (hacc : acc < bound) :
    digitsBelow bound acc cs = some n
      ↔ (∀ c ∈ cs, c.isDigit) ∧ n = Nat.ofDigitChars 10 cs acc ∧ n < bound := by
  induction cs generalizing acc with
  | nil =>
      simp only [digitsBelow, Option.some.injEq, List.not_mem_nil, IsEmpty.forall_iff,
        implies_true, Nat.ofDigitChars_nil, true_and]
      constructor
      · intro h
        exact ⟨h.symm, by omega⟩
      · intro h
        exact h.1.symm
  | cons c cs ih =>
      rw [Nat.ofDigitChars_cons, List.forall_mem_cons]
      have hmono := le_ofDigitChars cs (10 * acc + (c.toNat - '0'.toNat))
      by_cases hc : c.isDigit
      · by_cases hfits : 10 * acc + (c.toNat - '0'.toNat) < bound
        · have hshift : 10 * acc < bound := by omega
          simp only [digitsBelow, checked, digitValue, hc, hshift, hfits, if_true,
            Option.bind_eq_bind, Option.bind_some, ih _ hfits, true_and]
        · -- One of the two checks fails, and the number is even larger.
          have hnone : digitsBelow bound acc (c :: cs) = none := by
            by_cases hshift : 10 * acc < bound
            · simp only [digitsBelow, checked, digitValue, hc, hshift, hfits, if_true, if_false,
                Option.bind_eq_bind, Option.bind_some, Option.bind_none]
            · simp only [digitsBelow, checked, hshift, if_false, Option.bind_eq_bind,
                Option.bind_none]
          rw [hnone]
          constructor
          · intro h
            simp only [reduceCtorEq] at h
          · intro h
            omega
      · have hnone : digitsBelow bound acc (c :: cs) = none := by
          by_cases hshift : 10 * acc < bound <;>
            simp only [digitsBelow, checked, digitValue, hc, hshift, if_true, if_false,
              Option.bind_eq_bind, Option.bind_some, Option.bind_none, Bool.false_eq_true]
        simp only [hnone, hc, reduceCtorEq, Bool.false_eq_true, false_and]

theorem eq_stripPlus (s : List Char) : s = stripPlus s ∨ s = '+' :: stripPlus s := by
  unfold stripPlus
  split
  · exact Or.inr rfl
  · exact Or.inl rfl

/-- A text that starts with a digit has no plus sign to strip. -/
theorem stripPlus_of_digits (digits : List Char) (h : ∀ c ∈ digits, c.isDigit) :
    stripPlus digits = digits := by
  rcases eq_stripPlus digits with heq | heq
  · exact heq.symm
  · have hplus : '+' ∈ digits := by
      rw [heq]
      exact List.mem_cons_self
    exact absurd (h '+' hplus) (by decide)

/-- A text is accepted exactly when it spells a number below the bound. -/
theorem parseUnsigned_eq_some (bound : Nat) (s : List Char) (n : Nat) (hbound : 0 < bound) :
    parseUnsigned bound s = some n ↔ Spells s n ∧ n < bound := by
  unfold parseUnsigned
  constructor
  · intro h
    by_cases hne : stripPlus s = []
    · simp only [hne, if_true, reduceCtorEq] at h
    · rw [if_neg hne, digitsBelow_eq_some bound 0 _ n hbound] at h
      rcases h with ⟨hdigits, hvalue, hfits⟩
      exact ⟨⟨stripPlus s, eq_stripPlus s, hne, hdigits, hvalue⟩, hfits⟩
  · intro h
    rcases h with ⟨⟨digits, hs, hne, hdigits, hvalue⟩, hfits⟩
    have hstrip : stripPlus s = digits := by
      rcases hs with hs | hs
      · rw [hs, stripPlus_of_digits digits hdigits]
      · rw [hs, stripPlus]
    rw [hstrip, if_neg hne, digitsBelow_eq_some bound 0 _ n hbound]
    exact ⟨hdigits, hvalue, hfits⟩

/-- A number is spelled by its digits. -/
theorem spells_toDigits (n : Nat) : Spells (Nat.toDigits 10 n) n :=
  ⟨Nat.toDigits 10 n, Or.inl rfl, Nat.toDigits_ne_nil,
    fun _ hc => Nat.isDigit_of_mem_toDigits (by decide) (by decide) hc,
    Nat.ofDigitChars_ten_toDigits.symm⟩

/-- No other character is in a text that spells a number. -/
theorem not_mem_of_spells (s : List Char) (n : Nat) (h : Spells s n) (c : Char)
    (hplus : c ≠ '+') (hc : c.isDigit = false) : c ∉ s := by
  rcases h with ⟨digits, hs, -, hdigits, -⟩
  have hnot : c ∉ digits := by
    intro hmem
    rw [hdigits c hmem] at hc
    exact absurd hc (by decide)
  rcases hs with hs | hs
  · rwa [hs]
  · rw [hs, List.mem_cons, not_or]
    exact ⟨hplus, hnot⟩

end Decimal
