import LnGossipSim.Library.Caller

/-!
# Justified Entries of a Log

A log of what code has done only grows. Some of its entries count for something,
and such an entry needs a reason, which is to be found in what the log held before
it. There may also be only so many of them: what they count for is, in order, taken
from a list of what was granted.

Both are statements about the part of the log that is new, and they are proved
piece by piece. When a piece is justified and the next one is, the two are
justified together, and what was granted for them adds up. A piece for which
nothing was granted has no entry that counts.

## Main definitions

* `Justified`: The log grew by justified entries.

## Theorems

* `Justified.trans`: One piece after the other.
* `Justified.single`, `Justified.idle`: One entry, and entries that do not count.
* `Justified.absorbs`: What does not count may stand before and after.
* `Justified.calls`: One call after the other.
* `Justified.of_nil`: The log as a whole.
-/

variable {α β : Type}

/-- The log grew. Every new entry has a reason in what was there before it, and what
    the new entries count for is taken from the grants, in order. -/
def Justified (reason : List α → α → Prop) (counts : α → Option β) (grants : List β)
    (log log' : List α) : Prop :=
  ∃ new, log' = log ++ new
    ∧ (∀ before a after, new = before ++ a :: after → reason (log ++ before) a)
    ∧ (new.filterMap counts).Sublist grants

namespace Justified

variable {reason : List α → α → Prop} {counts : α → Option β} {grants grants' : List β}
  {log log' log'' : List α}

theorem refl (log : List α) : Justified reason counts grants log log := by
  refine ⟨[], (List.append_nil log).symm, fun before a after h => ?_, List.nil_sublist _⟩
  exact absurd h (by simp)

/-- One piece after the other. An entry of the second has the first in front of it. -/
theorem trans (h : Justified reason counts grants log log')
    (h' : Justified reason counts grants' log' log'') :
    Justified reason counts (grants ++ grants') log log'' := by
  rcases h with ⟨new, rfl, hnew, hcounts⟩
  rcases h' with ⟨more, rfl, hmore, hcounts'⟩
  refine ⟨new ++ more, List.append_assoc _ _ _, fun before a after hsplit => ?_, ?_⟩
  -- The entry is in the second piece, or in the first one.
  · rcases List.append_eq_append_iff.mp hsplit with ⟨behind, rfl, hbehind⟩ | ⟨rest, hrest, hafter⟩
    · rw [← List.append_assoc]
      exact hmore behind a after hbehind
    · cases rest with
      | nil =>
          rw [List.append_nil] at hrest
          rw [← hrest, ← List.append_nil (log ++ new)]
          exact hmore [] a after hafter.symm
      | cons b rest =>
          rw [List.cons_append, List.cons.injEq] at hafter
          rw [← hafter.1] at hrest
          exact hnew before a rest hrest
  · rw [List.filterMap_append]
    exact hcounts.append hcounts'

/-- More may be granted, and other reasons may do, as long as they do in a log that
    grew from this one. -/
theorem weaken {reason' : List α → α → Prop} (h : Justified reason counts grants log log')
    (hreason : ∀ new a, reason (log ++ new) a → reason' (log ++ new) a)
    (hgrants : grants.Sublist grants') : Justified reason' counts grants' log log' := by
  rcases h with ⟨new, rfl, hnew, hcounts⟩
  exact ⟨new, rfl, fun before a after hsplit => hreason _ a (hnew before a after hsplit),
    hcounts.trans hgrants⟩

/-- One entry, which is granted. -/
theorem single (a : α) (h : reason log a) :
    Justified reason counts (counts a).toList log (log ++ [a]) := by
  refine ⟨[a], rfl, fun before b after hsplit => ?_, ?_⟩
  · rcases List.append_eq_singleton_iff.mp hsplit.symm with ⟨rfl, hb⟩ | ⟨-, hb⟩
    · rw [List.append_nil, List.head_eq_of_cons_eq hb]
      exact h
    · exact absurd hb (by simp)
  · rw [List.filterMap_cons]
    cases counts a with
    | none => exact List.Sublist.refl _
    | some b => exact List.Sublist.refl _

/-- An entry that does not count, and needs no reason. -/
theorem idle (a : α) (h : reason log a) (hcounts : counts a = none) :
    Justified reason counts [] log (log ++ [a]) := by
  have hsingle : Justified reason counts (counts a).toList log (log ++ [a]) := single a h
  rw [hcounts] at hsingle
  exact hsingle

instance : IsPreorder (List α) (Justified reason counts ([] : List β)) where
  refl := refl
  trans _ _ _ h h' := trans h h'

/-- What does not count may stand before and after. -/
theorem absorbs (grants : List β) :
    Method.Absorbs (Justified reason counts []) (Justified reason counts grants) where
  only _ _ h := h.weaken (fun _ _ hr => hr) (List.nil_sublist grants)
  before _ _ _ h h' := h.trans h'
  after _ _ _ h h' := by
    have hboth := h.trans h'
    rw [List.append_nil] at hboth
    exact hboth

/-- One call after the other, each with its own grants. The induction is on the
    calls. -/
theorem calls {τ σ ε γ ι : Type} (act : ι → Method τ σ ε γ) (log : σ → List α)
    (grants : ι → List β) (ops : List ι)
    (h : ∀ op ∈ ops, ∀ s, Justified reason counts (grants op) (log s) (log ((act op).run s).state))
    (s : σ) :
    Justified reason counts (ops.flatMap grants) (log s) (log (Method.calls act ops s).state) := by
  induction ops generalizing s with
  | nil => exact refl (log s)
  | cons op ops ih =>
      have hrest := ih (fun op' hop' => h op' (List.mem_cons_of_mem op hop')) ((act op).run s).state
      rw [List.flatMap_cons]
      exact (h op List.mem_cons_self s).trans hrest

/-- A log that was empty is justified as a whole. -/
theorem of_nil (h : Justified reason counts grants [] log) :
    (∀ before a after, log = before ++ a :: after → reason before a)
      ∧ (log.filterMap counts).Sublist grants := by
  rcases h with ⟨new, rfl, hnew, hcounts⟩
  exact ⟨hnew, hcounts⟩

end Justified
