import Mathlib.Logic.Basic

/-!
# First Hits in Numbered Pages

A search through pages that are read one after the other. A page is a list, and
it may turn out not to be readable. What is sought is the first item that meets a
condition, in the order of the pages and within a page in the order of its
items. Pages after the one it is on need not be readable, those before it must
be.

The two equations follow a search. Either the first page has a hit, and then its
first hit is the answer, or it is readable and has none, and then the search goes
on in the pages after it.

## Main definitions

* `FirstHit`: The first item that meets a condition, by page and index.

## Theorems

* `FirstHit.unique`: There is only one.
* `firstHit_zero`, `firstHit_succ`: On the first page, or after it.
-/

/-- Item `j` of page `i` meets the condition and no earlier one does, and the
    pages up to it are readable. -/
structure FirstHit {α : Type} (pages : Nat → Option (List α)) (p : α → Prop) (i j : Nat) :
    Prop where
  readable : ∀ i' ≤ i, pages i' ≠ none
  hit : ∃ items a, pages i = some items ∧ items[j]? = some a ∧ p a
  first : ∀ i' j' items a, pages i' = some items → items[j']? = some a → p a →
    i < i' ∨ (i = i' ∧ j ≤ j')

variable {α : Type} {pages : Nat → Option (List α)} {p : α → Prop}

/-- Two first hits are each no later than the other. -/
theorem FirstHit.unique {i j i' j' : Nat} (h : FirstHit pages p i j) (h' : FirstHit pages p i' j') :
    i = i' ∧ j = j' := by
  rcases h.hit with ⟨items, a, hpage, hitem, ha⟩
  rcases h'.hit with ⟨items', a', hpage', hitem', ha'⟩
  have hle := h.first i' j' items' a' hpage' hitem' ha'
  have hge := h'.first i j items a hpage hitem ha
  omega

/-- The first item of the first page that meets the condition. -/
theorem firstHit_zero [DecidablePred p] (items : List α) (j : Nat) (hpage : pages 0 = some items) :
    FirstHit pages p 0 j ↔ items.findIdx? (fun a => p a) = some j := by
  constructor
  · intro h
    rcases h.hit with ⟨items', a, hpage', hitem, ha⟩
    rw [hpage, Option.some.injEq] at hpage'
    rw [← hpage'] at hitem
    rcases List.getElem?_eq_some_iff.mp hitem with ⟨hj, hget⟩
    refine List.findIdx?_eq_some_iff_getElem.mpr ⟨hj, ?_, ?_⟩
    · rw [hget]
      exact decide_eq_true ha
    · intro j' hj'
      simp only [decide_eq_true_eq]
      intro ha'
      have hlater := h.first 0 j' items items[j'] hpage (List.getElem?_eq_getElem (by omega)) ha'
      omega
  · intro h
    rcases List.findIdx?_eq_some_iff_getElem.mp h with ⟨hj, ha, hbefore⟩
    refine ⟨?_, ⟨items, items[j], hpage, List.getElem?_eq_getElem hj, of_decide_eq_true ha⟩, ?_⟩
    · intro i' hi'
      rw [Nat.le_zero.mp hi', hpage]
      exact Option.some_ne_none items
    · intro i' j' items' a' hpage' hitem' ha'
      by_cases hi' : i' = 0
      · -- On the first page no item before `j` meets the condition.
        rw [hi', hpage, Option.some.injEq] at hpage'
        rw [← hpage'] at hitem'
        rcases List.getElem?_eq_some_iff.mp hitem' with ⟨hlen, hget⟩
        refine Or.inr ⟨hi'.symm, Nat.le_of_not_lt fun hlt => ?_⟩
        have hnot := hbefore j' hlt
        simp only [decide_eq_true_eq] at hnot
        rw [hget] at hnot
        exact hnot ha'
      · exact Or.inl (Nat.pos_of_ne_zero hi')

/-- When the first page has no hit, the search goes on after it. -/
theorem firstHit_succ (items : List α) (i j : Nat) (hpage : pages 0 = some items)
    (hnone : ∀ a ∈ items, ¬ p a) :
    FirstHit pages p (i + 1) j ↔ FirstHit (fun n => pages (n + 1)) p i j := by
  constructor
  · intro h
    refine ⟨fun i' hi' => h.readable (i' + 1) (Nat.succ_le_succ hi'), h.hit, ?_⟩
    intro i' j' items' a' hpage' hitem' ha'
    have hlater := h.first (i' + 1) j' items' a' hpage' hitem' ha'
    omega
  · intro h
    refine ⟨?_, h.hit, ?_⟩
    · intro i' hi'
      cases i' with
      | zero =>
          rw [hpage]
          exact Option.some_ne_none items
      | succ n => exact h.readable n (Nat.le_of_succ_le_succ hi')
    · intro i' j' items' a' hpage' hitem' ha'
      cases i' with
      | zero =>
          rw [hpage, Option.some.injEq] at hpage'
          rw [← hpage'] at hitem'
          exact absurd ha' (hnone a' (List.mem_of_getElem? hitem'))
      | succ n =>
          have hlater := h.first n j' items' a' hpage' hitem' ha'
          omega

/-- Where the first page has no hit, there is none on it. -/
theorem FirstHit.ne_zero {i j : Nat} (items : List α) (h : FirstHit pages p i j)
    (hpage : pages 0 = some items) (hnone : ∀ a ∈ items, ¬ p a) : i ≠ 0 := by
  intro hi
  rcases h.hit with ⟨items', a, hpage', hitem, ha⟩
  rw [hi, hpage, Option.some.injEq] at hpage'
  rw [← hpage'] at hitem
  exact hnone a (List.mem_of_getElem? hitem) ha
