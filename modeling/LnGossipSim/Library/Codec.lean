import LnGossipSim.Library.Outcome

/-!
# Readers and Writers

The two laws that relate a reader, which takes a value off the front of a byte
string, to the writer of the same type. `ReadsBack` says that reading what was
written returns the value and leaves exactly what followed it. `Canonical`
says the converse, that a reader accepts nothing but the writer's output, so
that every value has one encoding.

Both are relative to a predicate `Fits` on values. A length prefix of a fixed
width describes only some strings, and a writer handed any other string does
not fail: it writes a prefix that has wrapped around. The predicate is where
that restriction is stated.

A decoder of whole messages has no rest to return. It ignores what follows the
last field, so `AcceptsOnly` speaks of the front of the input.

`readVia` is how one format is built on another: read the underlying value,
then convert it or fail. Both laws pass through it, so a format defined this
way needs only the facts about its conversion.

## Main definitions

* `Reader`: A function taking a value off the front of a byte string.
* `ReadsBack`: Reading undoes writing, with anything following.
* `Canonical`: A reader accepts only what the writer produces.
* `DecodesBack`, `AcceptsOnly`: The two laws of a decoder of whole messages.
* `readVia`: Read an underlying value, then convert it.

## Theorems

* `readsBack_via`: A conversion that undoes its inverse reads back.
* `canonical_via`: A conversion with one preimage per value is canonical.
* `write_inj`: A writer that is read back loses nothing.
-/

namespace Codec

variable {ε α β : Type}

/-- A function taking a value off the front of a byte string, and returning
    it with the bytes that follow. -/
abbrev Reader (ε α : Type) := List UInt8 → Outcome ε (α × List UInt8)

/-- Reading undoes writing: the value comes back, and what followed its
    encoding is left untouched. -/
def ReadsBack (write : α → List UInt8) (read : Reader ε α) (Fits : α → Prop) : Prop :=
  ∀ (v : α) (rest : List UInt8), Fits v → read (write v ++ rest) = .ok (v, rest)

/-- A reader accepts only what the writer produces. -/
def Canonical (write : α → List UInt8) (read : Reader ε α) (Fits : α → Prop) : Prop :=
  ∀ (b : List UInt8) (v : α) (rest : List UInt8),
    read b = .ok (v, rest) → b = write v ++ rest ∧ Fits v

/-- A decoder of whole messages undoes its encoder, and ignores what
    follows. -/
def DecodesBack (encode : α → List UInt8) (decode : List UInt8 → Outcome ε α)
    (Fits : α → Prop) : Prop :=
  ∀ (m : α) (rest : List UInt8), Fits m → decode (encode m ++ rest) = .ok m

/-- A decoder of whole messages accepts only inputs that start with the
    encoding of its result. -/
def AcceptsOnly (encode : α → List UInt8) (decode : List UInt8 → Outcome ε α)
    (Fits : α → Prop) : Prop :=
  ∀ (b : List UInt8) (m : α), decode b = .ok m → ∃ rest, b = encode m ++ rest ∧ Fits m

/-- Read an underlying value, then convert it or fail. -/
def readVia (conv : β → Outcome ε α) (read : Reader ε β) : Reader ε α := fun data => do
  let (b, rest) ← read data
  let v ← conv b
  return (v, rest)

/-- What a converted reader returns is the conversion of what the underlying
    reader returned, with the same bytes left over. -/
theorem readVia_eq_ok (conv : β → Outcome ε α) (read : Reader ε β) (data rest : List UInt8)
    (v : α) :
    readVia conv read data = .ok (v, rest) ↔ ∃ b, read data = .ok (b, rest) ∧ conv b = .ok v := by
  simp only [readVia, Outcome.bind_eq_ok, Outcome.pure_eq_ok, Outcome.ok.injEq, Prod.mk.injEq]
  constructor
  · rintro ⟨⟨b, r⟩, hb, w, hw, rfl, rfl⟩
    exact ⟨b, hb, hw⟩
  · rintro ⟨b, hb, hv⟩
    exact ⟨(b, rest), hb, v, hv, rfl, rfl⟩

/-- A conversion that settles keeps a reader from panicking. -/
theorem settles_via (conv : β → Outcome ε α) (read : Reader ε β)
    (hread : ∀ data, (read data).Settles) (hconv : ∀ b, (conv b).Settles) (data : List UInt8) :
    (readVia conv read data).Settles := by
  unfold readVia
  refine Outcome.settles_bind _ _ (hread data) ?_
  intro p _
  exact Outcome.settles_bind _ _ (hconv p.1) (fun v _ => Outcome.settles_ok _)

theorem readsBack_via (conv : β → Outcome ε α) (unconv : α → β) (write : β → List UInt8)
    (read : Reader ε β) (FitsB : β → Prop) (Fits : α → Prop)
    (hread : ReadsBack write read FitsB)
    (hconv : ∀ v, Fits v → FitsB (unconv v) ∧ conv (unconv v) = .ok v) :
    ReadsBack (fun v => write (unconv v)) (readVia conv read) Fits := by
  intro v rest hv
  rcases hconv v hv with ⟨hfit, hback⟩
  exact (readVia_eq_ok conv read _ rest v).mpr ⟨unconv v, hread _ rest hfit, hback⟩

theorem canonical_via (conv : β → Outcome ε α) (unconv : α → β) (write : β → List UInt8)
    (read : Reader ε β) (FitsB : β → Prop) (Fits : α → Prop)
    (hread : Canonical write read FitsB)
    (hconv : ∀ b v, FitsB b → conv b = .ok v → unconv v = b ∧ Fits v) :
    Canonical (fun v => write (unconv v)) (readVia conv read) Fits := by
  intro data v rest h
  rcases (readVia_eq_ok conv read data rest v).mp h with ⟨b, hb, hv⟩
  rcases hread data b rest hb with ⟨hdata, hfit⟩
  rcases hconv b v hfit hv with ⟨hun, hfits⟩
  refine ⟨?_, hfits⟩
  simp only [hun]
  exact hdata

/-- Under the first law a writer loses nothing: values that fit and are
    written alike are equal, and so is what followed them. -/
theorem write_inj (write : α → List UInt8) (read : Reader ε α) (Fits : α → Prop)
    (hread : ReadsBack write read Fits) (v w : α) (r s : List UInt8) (hv : Fits v) (hw : Fits w)
    (h : write v ++ r = write w ++ s) : v = w ∧ r = s := by
  have hvr := hread v r hv
  rw [h, hread w s hw] at hvr
  simp only [Outcome.ok.injEq, Prod.mk.injEq] at hvr
  exact ⟨hvr.1.symm, hvr.2.symm⟩

end Codec
