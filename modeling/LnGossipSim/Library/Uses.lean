import LnGossipSim.Library.Part

/-!
# Numbered Uses

A resource whose uses are numbered, such as a key with a counter: a state is
about to take some use, the external calls of a method take that use and those
after it one by one, and the method leaves the state about to take the next.
`Method.Takes` says this of one method, for the calls that a selection picks
out of the trace. It holds of a sequence when it holds of the parts, so it is
proved for the methods that make the calls and follows for the others, and for
any run of calls.

A method whose trace has no selected call takes no use. That is the same
statement, of states that stay at use zero.

## Main definitions

* `Method.Takes`: A method takes the uses from the next one on.
* `Method.Idle`: A method makes no selected call.

## Theorems

* `Method.takes_bind`: A sequence takes the uses of both parts.
* `Method.takes_on`, `Method.takes_of_idle`: Uses of a part of the state.
* `Method.calls_takes`: The uses of a sequence of calls.
-/

namespace Method

variable {τ σ ρ ε α β κ ι : Type}

/-- From a state that stands before use `i`, the selected calls of the method
    are use `i` and those after it, and the state it leaves stands before the
    use after them. -/
def Takes (stands : Nat → σ → Prop) (select : τ → Option κ) (use : Nat → κ)
    (m : Method τ σ ε α) : Prop :=
  ∀ i s, stands i s → ∃ n,
    (m.run s).trace.filterMap select = (List.range' i n).map use ∧ stands (i + n) (m.run s).state

/-- The method makes no selected call. -/
def Idle (select : τ → Option κ) (m : Method τ σ ε α) : Prop :=
  ∀ s, (m.run s).trace.filterMap select = []

section

variable {stands : Nat → σ → Prop} {select : τ → Option κ} {use : Nat → κ}

theorem takes_pure (a : α) : (pure a : Method τ σ ε α).Takes stands select use :=
  fun _ _ h => ⟨0, rfl, h⟩

theorem takes_lift (x : Outcome ε α) : (lift x : Method τ σ ε α).Takes stands select use :=
  fun _ _ h => ⟨0, rfl, h⟩

/-- A sequence takes the uses of the first part and then those of the second. -/
theorem takes_bind (x : Method τ σ ε α) (k : α → Method τ σ ε β)
    (hx : x.Takes stands select use) (hk : ∀ a, (k a).Takes stands select use) :
    (x >>= k).Takes stands select use := by
  intro i s hs
  rcases hx i s hs with ⟨m, htrace, hstands⟩
  rw [run_bind]
  rcases hrun : x.run s with ⟨o, s', t⟩
  rw [hrun] at htrace hstands
  cases o with
  | ok a =>
      -- The second part stands where the first left off.
      rcases hk a (i + m) s' hstands with ⟨n, htrace', hstands'⟩
      refine ⟨m + n, ?_, ?_⟩
      · simp only [Return.trace_after]
        rw [List.filterMap_append, htrace, htrace', ← List.map_append, List.range'_append_1]
      · rw [← Nat.add_assoc]
        exact hstands'
  | err e => exact ⟨m, htrace, hstands⟩
  | panicked => exact ⟨m, htrace, hstands⟩
  | diverged => exact ⟨m, htrace, hstands⟩

theorem takes_map (f : α → β) (x : Method τ σ ε α) (hx : x.Takes stands select use) :
    (f <$> x).Takes stands select use := by
  rw [← bind_pure_comp]
  exact takes_bind x _ hx (fun a => takes_pure (f a))

/-- Calls that each take uses take them one after the other. The induction is
    on the calls. -/
theorem calls_takes (act : ι → Method τ σ ε α) (hact : ∀ op, (act op).Takes stands select use)
    (ops : List ι) (i : Nat) (s : σ) (hs : stands i s) :
    ∃ n, (calls act ops s).trace.filterMap select = (List.range' i n).map use
      ∧ stands (i + n) (calls act ops s).state := by
  induction ops generalizing i s with
  | nil => exact ⟨0, rfl, hs⟩
  | cons op ops ih =>
      rcases hact op i s hs with ⟨m, htrace, hstands⟩
      rcases ih (i + m) _ hstands with ⟨n, htrace', hstands'⟩
      rw [calls_cons]
      refine ⟨m + n, ?_, ?_⟩
      · rw [List.filterMap_append, htrace, htrace', ← List.map_append, List.range'_append_1]
      · rw [← Nat.add_assoc]
        exact hstands'

end

/-- To make no selected call is to stay at use zero, whatever the uses are. -/
theorem idle_iff_takes (select : τ → Option κ) (use : Nat → κ) (m : Method τ σ ε α) :
    m.Idle select ↔ m.Takes (fun i _ => i = 0) select use := by
  constructor
  · intro h i s hi
    exact ⟨0, h s, hi⟩
  · intro h s
    rcases h 0 s rfl with ⟨n, htrace, hn⟩
    have hnone : n = 0 := (Nat.zero_add n).symm.trans hn
    rw [htrace, hnone]
    rfl

variable {stands : Nat → ρ → Prop} {select : τ → Option κ} {use : Nat → κ}

/-- What a method takes, it takes when it is run on a part of the state. -/
theorem takes_on (p : StatePart σ ρ) (m : Method τ ρ ε α) (h : m.Takes stands select use) :
    (on p m).Takes (fun i s => stands i (p.view s)) select use := by
  intro i s hs
  rcases h i (p.view s) hs with ⟨n, htrace, hstands⟩
  refine ⟨n, htrace, ?_⟩
  have hview : p.view ((on p m).run s).state = (m.run (p.view s)).state := p.view_update _ _
  simp only [hview]
  exact hstands

/-- A method that makes no selected call takes no use of a part that it
    keeps. -/
theorem takes_of_idle (f : σ → ρ) (m : Method τ σ ε α) (hidle : m.Idle select)
    (hkeeps : m.Keeps f) : m.Takes (fun i s => stands i (f s)) select use := by
  intro i s hs
  refine ⟨0, hidle s, ?_⟩
  simp only [hkeeps s]
  exact hs

end Method
