import LnGossipSim.Library.Codec

/-!
# Inputs Cut Short

What a reader does with an input that ends too early. A proper prefix of an
encoding ends inside one of the values the encoding is made of: the values
before it are whole and are read, and the reader of that one has to notice
that bytes are missing.

`Delimits` is what the argument needs of one value: with anything following it
is read back, and cut short it is rejected with an error of a given kind. A
decoder that reads one delimited value after the other then rejects every
proper prefix of what it reads, which `failsWith_read` proves one value at a
time.

## Main definitions

* `ProperPrefix`: A byte string that stops before the end of another.
* `Delimits`: A reader takes the whole of a value and rejects less.

## Theorems

* `prefix_of_append`, `properPrefix_append`: Where a prefix of two parts ends.
* `delimits_via`: A conversion keeps a value delimited.
* `failsWith_read`: Cut short, a sequence of readers fails.
-/

namespace Codec

variable {ε α β : Type}

/-- A byte string that stops before the end of another. -/
def ProperPrefix (p b : List UInt8) : Prop := p <+: b ∧ p ≠ b

/-- A reader takes the whole of what was written for a value, whatever follows
    it, and rejects any less with an error of the given kind. -/
def Delimits (Kind : ε → Prop) (written : List UInt8) (read : Reader ε α) (v : α) : Prop :=
  (∀ rest, read (written ++ rest) = .ok (v, rest))
    ∧ ∀ p, ProperPrefix p written → (read p).FailsWith Kind

theorem properPrefix_length {p b : List UInt8} (h : ProperPrefix p b) : p.length < b.length := by
  rcases h with ⟨hpre, hne⟩
  refine Nat.lt_of_le_of_ne hpre.length_le ?_
  intro hlen
  exact hne (hpre.eq_of_length hlen)

theorem properPrefix_of_length {p b : List UInt8} (hpre : p <+: b) (h : p.length < b.length) :
    ProperPrefix p b := by
  refine ⟨hpre, ?_⟩
  intro heq
  rw [heq] at h
  omega

/-- A prefix of two parts ends before the first part does, or consists of the
    first part and a prefix of the second. -/
theorem prefix_of_append {p a b : List UInt8} (h : p <+: a ++ b) :
    ProperPrefix p a ∨ ∃ q, p = a ++ q ∧ q <+: b := by
  by_cases hshort : p.length < a.length
  · left
    exact properPrefix_of_length
      (List.prefix_of_prefix_length_le h (List.prefix_append a b) (by omega)) hshort
  · right
    have ha : a <+: p := List.prefix_of_prefix_length_le (List.prefix_append a b) h (by omega)
    rcases ha with ⟨q, hq⟩
    rw [← hq] at h
    exact ⟨q, hq.symm, (List.prefix_append_right_inj a).mp h⟩

/-- Of a proper prefix, what is left of the second part is one too. -/
theorem properPrefix_append {p a b : List UInt8} (h : ProperPrefix p (a ++ b)) :
    ProperPrefix p a ∨ ∃ q, p = a ++ q ∧ ProperPrefix q b := by
  rcases h with ⟨hpre, hne⟩
  rcases prefix_of_append hpre with hcut | ⟨q, hpq, hq⟩
  · exact Or.inl hcut
  · refine Or.inr ⟨q, hpq, hq, ?_⟩
    intro hqb
    rw [hpq, hqb] at hne
    exact hne rfl

/-- A conversion of the value keeps it delimited. -/
theorem delimits_via (Kind : ε → Prop) (conv : β → Outcome ε α) (read : Reader ε β)
    (written : List UInt8) (b : β) (v : α) (h : Delimits Kind written read b)
    (hconv : conv b = .ok v) : Delimits Kind written (readVia conv read) v := by
  refine ⟨?_, ?_⟩
  · intro rest
    exact (readVia_eq_ok conv read _ rest v).mpr ⟨b, h.1 rest, hconv⟩
  · intro p hp
    exact Outcome.failsWith_bind _ _ (h.2 p hp)

/-- Renaming the errors renames the kind. -/
theorem delimits_mapErr {ε' : Type} (Kind : ε → Prop) (Kind' : ε' → Prop) (f : ε → ε')
    (read : Reader ε α) (written : List UInt8) (v : α) (h : Delimits Kind written read v)
    (hkind : ∀ e, Kind e → Kind' (f e)) :
    Delimits Kind' written (fun data => (read data).mapErr f) v := by
  refine ⟨?_, ?_⟩
  · intro rest
    simp only [h.1 rest, Outcome.mapErr_ok]
  · intro p hp
    rcases h.2 p hp with ⟨e, he, hread⟩
    exact ⟨f e, hkind e he, by simp only [hread, Outcome.mapErr_err]⟩

/-- Where a delimited value comes next, a run on an input that is cut short
    fails: in the value, or else in what reads the rest. -/
theorem failsWith_read (Kind : ε → Prop) {written tail p : List UInt8} {read : Reader ε α} {v : α}
    {f : α × List UInt8 → Outcome ε β} (hv : Delimits Kind written read v)
    (hp : ProperPrefix p (written ++ tail))
    (hf : ∀ q, ProperPrefix q tail → (f (v, q)).FailsWith Kind) :
    (read p >>= f).FailsWith Kind := by
  rcases properPrefix_append hp with hcut | ⟨q, hpq, hq⟩
  · exact Outcome.failsWith_bind _ _ (hv.2 p hcut)
  · rw [hpq, hv.1 q, Outcome.ok_bind]
    exact hf q hq

/-- The same of the last value there is. -/
theorem failsWith_read_last (Kind : ε → Prop) {written p : List UInt8} {read : Reader ε α} {v : α}
    {f : α × List UInt8 → Outcome ε β} (hv : Delimits Kind written read v)
    (hp : ProperPrefix p written) : (read p >>= f).FailsWith Kind :=
  Outcome.failsWith_bind _ _ (hv.2 p hp)

end Codec
