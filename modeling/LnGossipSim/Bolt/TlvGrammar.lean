import Mathlib.Data.List.Forall2
import LnGossipSim.Bolt.Tlv

/-!
# The TLV Grammar

What a TLV stream is, stated as a grammar and not as a parser: a
concatenation of records with strictly increasing types, each a type, a
length and a value, where the two numbers are in the shortest of the four
`BigSize` forms that can hold them.

The grammar is related to the code through the encoder. The shortest form of
a number is what `writeBigSize` produces, so the bytes of a record are
`TlvRecord.encode`, and a stream generated by the grammar is an encoding of
admitted records, which is what the decoding loop accepts.

## Main definitions

* `BigSizeForm`: A number in one of the four widths.
* `MinimalBigSize`: A number in its shortest form.
* `RecordForm`: The bytes of a record.
* `TlvGrammar`: The bytes of a list of records.
* `BuiltByAdd`: A stream made by `new` and `add`.

## Theorems

* `minimalBigSize_iff`: The shortest form is the one that is written.
* `tlvGrammar_iff`: The grammar generates the encodings of admitted records.
* `builtByAdd_increasing`: A stream built by `add` is sorted.
* `decodeWithKnown_grammar`: The decoder accepts exactly the grammar.
-/

namespace LnGossipSim

namespace Bolt

open BigEndian

/-- `bs` holds the number `v` in one of the four `BigSize` widths, not
    necessarily the shortest. -/
inductive BigSizeForm : Nat → Bytes → Prop
  | one (v : Nat) (h : v < 0xfd) : BigSizeForm v [UInt8.ofNat v]
  | three (v : Nat) (h : v < 2 ^ 16) : BigSizeForm v (0xfd :: beBytes 2 v)
  | five (v : Nat) (h : v < 2 ^ 32) : BigSizeForm v (0xfe :: beBytes 4 v)
  | nine (v : Nat) (h : v < 2 ^ 64) : BigSizeForm v (0xff :: beBytes 8 v)

/-- `bs` holds the number `v` in a form no other form is shorter than. -/
def MinimalBigSize (v : Nat) (bs : Bytes) : Prop :=
  BigSizeForm v bs ∧ ∀ bs', BigSizeForm v bs' → bs.length ≤ bs'.length

/-- The bytes of a record: type, length of the value, value. -/
inductive RecordForm (r : TlvRecord) : Bytes → Prop
  | record (t l : Bytes) (ht : MinimalBigSize r.tlvType.toNat t)
      (hl : MinimalBigSize r.value.val.length l) : RecordForm r (t ++ l ++ r.value.val)

/-- `data` is the concatenation of the records, their types strictly
    increasing and every even one known. -/
structure TlvGrammar (knownEven : List UInt64) (records : List TlvRecord) (data : Bytes) :
    Prop where
  concat : ∃ parts, List.Forall₂ RecordForm records parts ∧ data = parts.flatten
  increasing : records.Pairwise (fun r r' => r.tlvType < r'.tlvType)
  known : ∀ r ∈ records, r.tlvType % 2 = 0 → r.tlvType ∈ knownEven

/-- A stream made from the empty one by adding records. -/
inductive BuiltByAdd : TlvStream → Prop
  | new : BuiltByAdd TlvStream.new
  | add (s s' : TlvStream) (t : UInt64) (v : ByteVec) (hs : BuiltByAdd s)
      (h : s.add t v = .ok s') : BuiltByAdd s'

/-- The writer, on the number the value denotes. -/
theorem writeBigSize_eq (n : BigSize) :
    writeBigSize n
      = if n.value.toNat < 0xfd then [UInt8.ofNat n.value.toNat]
        else if n.value.toNat < 2 ^ 16 then 0xfd :: beBytes 2 n.value.toNat
        else if n.value.toNat < 2 ^ 32 then 0xfe :: beBytes 4 n.value.toNat
        else 0xff :: beBytes 8 n.value.toNat := by
  have h1 : n.value < 0xfd ↔ n.value.toNat < 0xfd := UInt64.lt_iff_toNat_lt
  have h2 : n.value < 0x10000 ↔ n.value.toNat < 2 ^ 16 := UInt64.lt_iff_toNat_lt
  have h3 : n.value < 0x100000000 ↔ n.value.toNat < 2 ^ 32 := UInt64.lt_iff_toNat_lt
  unfold writeBigSize
  simp only [h1, h2, h3]
  -- The bounds of each branch make the narrowing casts exact.
  split_ifs with c1 c2 c3
  · change beBytes 1 n.value.toUInt8.toNat = _
    rw [UInt64.toNat_toUInt8, Nat.mod_eq_of_lt (by omega)]
    rfl
  · change 0xfd :: beBytes 2 n.value.toUInt16.toNat = _
    rw [UInt64.toNat_toUInt16, Nat.mod_eq_of_lt (by omega)]
  · change 0xfe :: beBytes 4 n.value.toUInt32.toNat = _
    rw [UInt64.toNat_toUInt32, Nat.mod_eq_of_lt (by omega)]
  · rfl

/-- What is written is one of the four forms. -/
theorem bigSizeForm_write (n : BigSize) : BigSizeForm n.value.toNat (writeBigSize n) := by
  rw [writeBigSize_eq]
  split_ifs with c1 c2 c3
  · exact BigSizeForm.one _ c1
  · exact BigSizeForm.three _ c2
  · exact BigSizeForm.five _ c3
  · exact BigSizeForm.nine _ n.value.toNat_lt

/-- No form of a number is shorter than the one that is written. -/
theorem writeBigSize_le_form (n : BigSize) (bs : Bytes) (h : BigSizeForm n.value.toNat bs) :
    (writeBigSize n).length ≤ bs.length := by
  rw [writeBigSize_eq]
  -- The form fixes a lower bound, the writer picks the first width that fits.
  cases h with
  | one h1 => rw [if_pos h1]
  | three h2 =>
      split_ifs
      · exact Nat.le_add_left 1 _
      · exact Nat.le_refl _
  | five h3 =>
      split_ifs
      · exact Nat.le_add_left 1 _
      · exact Nat.le_add_left 3 2
      · exact Nat.le_refl _
  | nine h4 =>
      split_ifs
      · exact Nat.le_add_left 1 _
      · exact Nat.le_add_left 3 6
      · exact Nat.le_add_left 5 4
      · exact Nat.le_refl _

/-- The shortest form of a number is the one that is written. -/
theorem minimalBigSize_iff (n : BigSize) (bs : Bytes) :
    MinimalBigSize n.value.toNat bs ↔ bs = writeBigSize n := by
  constructor
  · intro h
    rcases h with ⟨hform, hmin⟩
    have hle := hmin _ (bigSizeForm_write n)
    rw [writeBigSize_eq] at hle ⊢
    -- Each form is written where no shorter one holds the number, and a
    -- shorter one would contradict minimality.
    cases hform with
    | one h1 => rw [if_pos h1]
    | three h2 =>
        split_ifs at hle ⊢ with c1
        · simp only [List.length_cons, List.length_nil, beBytes_length, Nat.reduceAdd,
            Nat.reduceLeDiff] at hle
        · rfl
    | five h3 =>
        split_ifs at hle ⊢ with c1 c2
        · simp only [List.length_cons, List.length_nil, beBytes_length, Nat.reduceAdd,
            Nat.reduceLeDiff] at hle
        · simp only [List.length_cons, beBytes_length, Nat.reduceAdd, Nat.reduceLeDiff] at hle
        · rfl
    | nine h4 =>
        split_ifs at hle ⊢ with c1 c2 c3
        · simp only [List.length_cons, List.length_nil, beBytes_length, Nat.reduceAdd,
            Nat.reduceLeDiff] at hle
        · simp only [List.length_cons, beBytes_length, Nat.reduceAdd, Nat.reduceLeDiff] at hle
        · simp only [List.length_cons, beBytes_length, Nat.reduceAdd, Nat.reduceLeDiff] at hle
        · rfl
  · intro h
    rw [h]
    exact ⟨bigSizeForm_write n, fun bs' h' => writeBigSize_le_form n bs' h'⟩

/-- The bytes of a record are those the encoder writes. -/
theorem recordForm_iff (r : TlvRecord) (bs : Bytes) : RecordForm r bs ↔ bs = r.encode := by
  have hlen : (⟨UInt64.ofNat r.value.val.length⟩ : BigSize).value.toNat = r.value.val.length :=
    TlvStream.length_toNat r.value
  constructor
  · intro h
    cases h with
    | record t l ht hl =>
        rw [(minimalBigSize_iff ⟨r.tlvType⟩ t).mp ht]
        rw [← hlen] at hl
        rw [(minimalBigSize_iff _ l).mp hl]
        rfl
  · intro h
    have hl := (minimalBigSize_iff ⟨UInt64.ofNat r.value.val.length⟩ _).mpr rfl
    rw [hlen] at hl
    rw [h]
    exact RecordForm.record _ _ ((minimalBigSize_iff ⟨r.tlvType⟩ _).mpr rfl) hl

/-- Concatenated records are the encoding of the stream. -/
theorem concat_iff (rs : List TlvRecord) (data : Bytes) :
    (∃ parts, List.Forall₂ RecordForm rs parts ∧ data = parts.flatten)
      ↔ data = TlvStream.encode ⟨rs⟩ := by
  -- Each part is determined by its record.
  have hforall : ∀ parts, List.Forall₂ RecordForm rs parts ↔ parts = rs.map TlvRecord.encode := by
    intro parts
    induction rs generalizing parts with
    | nil => rw [List.forall₂_nil_left_iff, List.map_nil]
    | cons r rs ih =>
        rw [List.forall₂_cons_left_iff, List.map_cons]
        constructor
        · intro h
          rcases h with ⟨b, bs, hb, hbs, heq⟩
          rw [heq, (recordForm_iff r b).mp hb, (ih bs).mp hbs]
        · intro h
          exact ⟨r.encode, rs.map TlvRecord.encode, (recordForm_iff r _).mpr rfl, (ih _).mpr rfl, h⟩
  unfold TlvStream.encode
  rw [List.flatMap_def]
  constructor
  · intro h
    rcases h with ⟨parts, hparts, hdata⟩
    rw [hdata, (hforall parts).mp hparts]
  · intro h
    exact ⟨rs.map TlvRecord.encode, (hforall _).mpr rfl, h⟩

/-- The grammar generates exactly the encodings of admitted records. -/
theorem tlvGrammar_iff (knownEven : List UInt64) (rs : List TlvRecord) (data : Bytes) :
    TlvGrammar knownEven rs data
      ↔ data = TlvStream.encode ⟨rs⟩ ∧ Admitted knownEven none rs := by
  rw [admitted_iff]
  constructor
  · intro h
    exact ⟨(concat_iff rs data).mp h.concat, h.increasing, h.known⟩
  · intro h
    exact ⟨(concat_iff rs data).mpr h.1, h.2.1, h.2.2⟩

/-- A stream built by `add` is sorted by type. -/
theorem builtByAdd_increasing (s : TlvStream) (h : BuiltByAdd s) : s.Increasing := by
  induction h with
  | new => exact List.Pairwise.nil
  | add s s' t v _ hadd ih => exact TlvStream.add_increasing s s' t v ih hadd

/-- The decoder accepts exactly the TLV grammar, an accepted input is the
    encoding of the stream it gives, and a stream built by `add` whose even
    types are known is read back. Decoding always terminates, with no slice
    out of bounds. -/
theorem decodeWithKnown_grammar (data : Bytes) (knownEven : List UInt64) :
    (∀ s, TlvStream.decodeWithKnown data knownEven = .ok s ↔ TlvGrammar knownEven s.records data)
    ∧ (∀ s, TlvStream.decodeWithKnown data knownEven = .ok s → s.encode = data)
    ∧ (∀ s data', TlvStream.decodeWithKnown data knownEven = .ok s →
        TlvStream.decodeWithKnown data' knownEven = .ok s → data' = data)
    ∧ (∀ s, BuiltByAdd s → (∀ r ∈ s.records, r.tlvType % 2 = 0 → r.tlvType ∈ knownEven) →
        TlvStream.decodeWithKnown s.encode knownEven = .ok s)
    ∧ (TlvStream.decodeWithKnown data knownEven).Settles := by
  refine ⟨?_, ?_, ?_, ?_, TlvStream.decodeWithKnown_settles data knownEven⟩
  · intro s
    rw [TlvStream.decodeWithKnown_eq_ok, tlvGrammar_iff]
  · intro s h
    exact ((TlvStream.decodeWithKnown_eq_ok data knownEven s).mp h).1.symm
  · intro s data' h h'
    rw [((TlvStream.decodeWithKnown_eq_ok data knownEven s).mp h).1,
      ((TlvStream.decodeWithKnown_eq_ok data' knownEven s).mp h').1]
  · intro s hs hknown
    rw [TlvStream.decodeWithKnown_eq_ok]
    exact ⟨rfl, (admitted_iff knownEven s.records).mpr ⟨builtByAdd_increasing s hs, hknown⟩⟩

example : TlvStream.decodeWithKnown [0x01, 0x00, 0x02, 0x01, 0xaa] [2]
    = .ok ⟨[⟨1, ⟨[], by decide⟩⟩, ⟨2, ⟨[0xaa], by decide⟩⟩]⟩ := by decide

end Bolt

end LnGossipSim
