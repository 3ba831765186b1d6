import Mathlib.Data.Vector.Basic
import LnGossipSim.Library.Outcome

/-!
# Slices with Checked Bounds

Cutting and copying lists the way a language with checked array access does:
outside the bounds of its argument an operation panics. Inside them it is a
`take`, a `drop` or the list itself, which is what the lemmas below say.

`asChunks` cuts a list into arrays of one length and whatever is left over at
the end. It is the inverse of concatenating arrays and a short remainder.

## Main definitions

* `upTo`, `startingAt`: The two halves of a list cut at an index.
* `pack`, `copyInto`: A list as an array of a given length.
* `asChunks`: A list as arrays of one length, and a remainder.

## Theorems

* `upTo_of_le`, `startingAt_of_le`: In bounds, a cut succeeds.
* `copyInto_of_length`: A list of the right length is copied.
* `length_flatMap_toList`: The length of concatenated arrays.
* `asChunks_flatten`: Chunks and remainder make up the list.
* `asChunks_append`: Concatenated arrays are cut at their boundaries.
* `asChunks_remainder_lt`: The remainder is too short for another array.
-/

namespace Slice

variable {ε α : Type}

/-- The first `n` elements, panicking when there are fewer. -/
def upTo (xs : List α) (n : Nat) : Outcome ε (List α) :=
  if n ≤ xs.length then .ok (xs.take n) else .panicked

/-- The elements from index `n` on, panicking when the index is past the
    end. -/
def startingAt (xs : List α) (n : Nat) : Outcome ε (List α) :=
  if n ≤ xs.length then .ok (xs.drop n) else .panicked

/-- A list of length `n` as an array. -/
def pack {n : Nat} (xs : List α) (h : xs.length = n) : List.Vector α n := ⟨xs, h⟩

/-- A list copied into an array of length `n`, panicking when the lengths
    differ. -/
def copyInto (n : Nat) (xs : List α) : Outcome ε (List.Vector α n) :=
  if h : xs.length = n then .ok (pack xs h) else .panicked

/-- At most `fuel` arrays of length `n` off the front of a list, and the
    rest. -/
def takeChunks (n : Nat) : Nat → List α → List (List.Vector α n) × List α
  | 0, xs => ([], xs)
  | fuel + 1, xs =>
    if h : n ≤ xs.length then
      let (chunks, remainder) := takeChunks n fuel (xs.drop n)
      (pack (xs.take n) (List.length_take_of_le h) :: chunks, remainder)
    else ([], xs)

/-- A list cut into arrays of length `n`, and the remainder that is too short
    for another. -/
def asChunks (n : Nat) (xs : List α) : List (List.Vector α n) × List α :=
  takeChunks n xs.length xs

@[simp] theorem pack_toList {n : Nat} (xs : List α) (h : xs.length = n) :
    (pack xs h).toList = xs := rfl

theorem pack_of_toList {n : Nat} (v : List.Vector α n) (xs : List α) (h : xs.length = n)
    (hv : xs = v.toList) : pack xs h = v := by
  ext i
  have hlist : (pack xs h).toList = v.toList := hv
  rw [List.Vector.toList_injective hlist]

theorem upTo_of_le (xs : List α) (n : Nat) (h : n ≤ xs.length) :
    (upTo xs n : Outcome ε (List α)) = .ok (xs.take n) := by
  rw [upTo, if_pos h]

theorem startingAt_of_le (xs : List α) (n : Nat) (h : n ≤ xs.length) :
    (startingAt xs n : Outcome ε (List α)) = .ok (xs.drop n) := by
  rw [startingAt, if_pos h]

theorem copyInto_of_length (n : Nat) (xs : List α) (h : xs.length = n) :
    (copyInto n xs : Outcome ε (List.Vector α n)) = .ok (pack xs h) := by
  rw [copyInto, dif_pos h]

/-- A list that fits an array is one. -/
theorem exists_toList (n : Nat) (xs : List α) (h : xs.length = n) :
    ∃ v : List.Vector α n, xs = v.toList :=
  ⟨pack xs h, rfl⟩

@[simp] theorem copyInto_toList {n : Nat} (v : List.Vector α n) :
    (copyInto n v.toList : Outcome ε (List.Vector α n)) = .ok v := by
  rw [copyInto, dif_pos v.toList_length, pack_of_toList v _ _ rfl]

theorem copyInto_of_ne (n : Nat) (xs : List α) (h : xs.length ≠ n) :
    (copyInto n xs : Outcome ε (List.Vector α n)) = .panicked := by
  rw [copyInto, dif_neg h]

theorem length_flatMap_toList (n : Nat) (chunks : List (List.Vector α n)) :
    (chunks.flatMap List.Vector.toList).length = chunks.length * n := by
  induction chunks with
  | nil => rw [List.flatMap_nil, List.length_nil, List.length_nil, Nat.zero_mul]
  | cons c cs ih =>
      have hlen : c.toList.length = n := c.toList_length
      rw [List.flatMap_cons, List.length_append, hlen, ih, List.length_cons, Nat.succ_mul]
      omega

theorem takeChunks_flatten (n fuel : Nat) (xs : List α) :
    (takeChunks n fuel xs).1.flatMap List.Vector.toList ++ (takeChunks n fuel xs).2 = xs := by
  induction fuel generalizing xs with
  | zero => rfl
  | succ fuel ih =>
      unfold takeChunks
      by_cases h : n ≤ xs.length
      · rw [dif_pos h]
        simp only [List.flatMap_cons, pack_toList, List.append_assoc]
        rw [ih, List.take_append_drop]
      · rw [dif_neg h]
        rfl

/-- Chunks and remainder make up the list. -/
theorem asChunks_flatten (n : Nat) (xs : List α) :
    (asChunks n xs).1.flatMap List.Vector.toList ++ (asChunks n xs).2 = xs :=
  takeChunks_flatten n xs.length xs

theorem takeChunks_remainder_lt (n fuel : Nat) (xs : List α) (hn : 0 < n)
    (hfuel : xs.length ≤ fuel) : (takeChunks n fuel xs).2.length < n := by
  induction fuel generalizing xs with
  | zero =>
      rw [takeChunks]
      exact Nat.lt_of_le_of_lt hfuel hn
  | succ fuel ih =>
      unfold takeChunks
      by_cases h : n ≤ xs.length
      · rw [dif_pos h]
        exact ih (xs.drop n) (by rw [List.length_drop]; omega)
      · rw [dif_neg h]
        exact Nat.lt_of_not_le h

/-- The remainder is too short for another array. -/
theorem asChunks_remainder_lt (n : Nat) (xs : List α) (hn : 0 < n) :
    (asChunks n xs).2.length < n :=
  takeChunks_remainder_lt n xs.length xs hn (Nat.le_refl _)

/-- Concatenated arrays are cut at their boundaries, and what is too short for
    another array is the remainder. -/
theorem takeChunks_append (n fuel : Nat) (chunks : List (List.Vector α n)) (remainder : List α)
    (hrem : remainder.length < n) (hfuel : chunks.length ≤ fuel) :
    takeChunks n fuel (chunks.flatMap List.Vector.toList ++ remainder) = (chunks, remainder) := by
  induction chunks generalizing fuel with
  | nil =>
      rw [List.flatMap_nil, List.nil_append]
      cases fuel with
      | zero => rfl
      | succ fuel =>
          unfold takeChunks
          -- No array is left, and what remains is too short for one.
          rw [dif_neg (by omega)]
  | cons c cs ih =>
      have hlen : c.toList.length = n := c.toList_length
      cases fuel with
      | zero => exact absurd hfuel (Nat.not_succ_le_zero _)
      | succ fuel =>
          unfold takeChunks
          have hle : n ≤ ((c :: cs).flatMap List.Vector.toList ++ remainder).length := by
            rw [List.flatMap_cons, List.length_append, List.length_append]
            omega
          rw [dif_pos hle]
          -- Cutting at `n` separates the first array from the others.
          have hdrop : ((c :: cs).flatMap List.Vector.toList ++ remainder).drop n
              = cs.flatMap List.Vector.toList ++ remainder := by
            rw [List.flatMap_cons, List.append_assoc, List.drop_left' hlen]
          have htake : ((c :: cs).flatMap List.Vector.toList ++ remainder).take n = c.toList := by
            rw [List.flatMap_cons, List.append_assoc, List.take_left' hlen]
          rw [hdrop, ih fuel (Nat.le_of_succ_le_succ hfuel), pack_of_toList c _ _ htake]

theorem asChunks_append (n : Nat) (chunks : List (List.Vector α n)) (remainder : List α)
    (hrem : remainder.length < n) :
    asChunks n (chunks.flatMap List.Vector.toList ++ remainder) = (chunks, remainder) := by
  refine takeChunks_append n _ chunks remainder hrem ?_
  -- Every chunk takes at least one element, so the length bounds their number.
  have hcount : chunks.length ≤ (chunks.flatMap List.Vector.toList).length := by
    rw [length_flatMap_toList]
    exact Nat.le_mul_of_pos_right _ (by omega)
  rw [List.length_append]
  omega

end Slice
