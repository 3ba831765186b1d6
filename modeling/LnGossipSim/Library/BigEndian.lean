import Mathlib.Data.List.Induction
import Mathlib.Algebra.Order.Ring.Nat

/-!
# Big-Endian Numbers

A number written as a fixed count of base-256 digits, most significant first,
and read back. The two directions are inverse to each other on the numbers
that fit and on the digit strings of that length, so a fixed-width integer has
exactly one encoding.

## Main definitions

* `beBytes`: The low digits of a number, most significant first.
* `beNat`: The number a digit string denotes.

## Theorems

* `beBytes_length`: An encoding has the requested length.
* `beNat_lt`: A digit string denotes a number that fits its length.
* `beNat_beBytes`: Reading undoes writing, for a number that fits.
* `beBytes_beNat`: Writing undoes reading, at the string's own length.
* `beBytes_inj`: Numbers that fit have different encodings.
-/

namespace BigEndian

/-- The `w` low base-256 digits of `n`, most significant first. -/
def beBytes : Nat → Nat → List UInt8
  | 0, _ => []
  | w + 1, n => beBytes w (n / 256) ++ [UInt8.ofNat n]

/-- The number a string of base-256 digits denotes, most significant first. -/
def beNat (bs : List UInt8) : Nat :=
  bs.foldl (fun acc b => acc * 256 + b.toNat) 0

theorem beNat_append_singleton (bs : List UInt8) (b : UInt8) :
    beNat (bs ++ [b]) = beNat bs * 256 + b.toNat := by
  simp only [beNat, List.foldl_append, List.foldl_cons, List.foldl_nil]

@[simp] theorem beBytes_length (w n : Nat) : (beBytes w n).length = w := by
  induction w generalizing n with
  | zero => rfl
  | succ k ih => simp only [beBytes, List.length_append, ih, List.length_singleton]

theorem beNat_lt (w : Nat) (bs : List UInt8) (h : bs.length = w) : beNat bs < 256 ^ w := by
  rw [← h]
  clear h
  induction bs using List.reverseRecOn with
  | nil => simp only [beNat, List.foldl_nil, List.length_nil, pow_zero, Nat.lt_one_iff]
  | append_singleton xs b ih =>
      rw [beNat_append_singleton, List.length_append, List.length_singleton, pow_succ]
      have hb := b.toNat_lt
      omega

/-- Reading undoes writing, for a number that fits the width. -/
theorem beNat_beBytes (w n : Nat) (h : n < 256 ^ w) : beNat (beBytes w n) = n := by
  induction w generalizing n with
  | zero =>
      have hn : n = 0 := by simpa only [pow_zero, Nat.lt_one_iff] using h
      rw [hn]
      rfl
  | succ k ih =>
      have hdiv : n / 256 < 256 ^ k := by
        rw [Nat.div_lt_iff_lt_mul (by decide), ← pow_succ]
        exact h
      rw [beBytes, beNat_append_singleton, ih _ hdiv, UInt8.toNat_ofNat']
      omega

/-- Writing undoes reading, at the string's own length. -/
theorem beBytes_beNat (w : Nat) (bs : List UInt8) (h : bs.length = w) :
    beBytes w (beNat bs) = bs := by
  rw [← h]
  clear h
  induction bs using List.reverseRecOn with
  | nil => rfl
  | append_singleton xs b ih =>
      have hb := b.toNat_lt
      -- The last digit is the remainder, and the others are the quotient.
      have hdiv : beNat (xs ++ [b]) / 256 = beNat xs := by
        rw [beNat_append_singleton]
        omega
      have hlow : UInt8.ofNat (beNat (xs ++ [b])) = b := by
        apply UInt8.toNat_inj.mp
        rw [UInt8.toNat_ofNat', beNat_append_singleton]
        omega
      rw [List.length_append, List.length_singleton, beBytes, hdiv, hlow, ih]

theorem beBytes_inj (w m n : Nat) (hm : m < 256 ^ w) (hn : n < 256 ^ w)
    (h : beBytes w m = beBytes w n) : m = n := by
  rw [← beNat_beBytes w m hm, ← beNat_beBytes w n hn, h]

end BigEndian
