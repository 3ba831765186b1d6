import Mathlib.Data.List.InsertIdx
import LnGossipSim.Bolt.Wire

/-!
# TLV Streams

Type-length-value streams carry the optional and extension fields of a
message. A stream is built by `add`, which keeps its records sorted by type,
or by `decodeWithKnown`, a loop that takes one record after the other off the
input and stops at the first that breaks a rule.

The loop is given the length of the input as fuel. Each record consumes at
least its type, so the fuel never runs out.

What one turn of the loop does is said once, by `decodeRecord_encode` and
`decodeRecord_eq_ok`: it reads exactly the encoding of a record that may
follow the previous one. The two run lemmas lift this to whole streams by
induction on the records and on the fuel.

## Main definitions

* `TlvRecord`, `TlvStream`: A record, and a stream of them.
* `TlvStream.add`, `TlvStream.get`: Building and querying a stream.
* `TlvStream.encode`, `TlvStream.decodeWithKnown`: The wire form of a stream.
* `MayFollow`: A record is allowed after a given type.
* `Admitted`: Every record of a list is allowed after the one before it.

## Theorems

* `add_eq_ok`: Where `add` puts the record, and when it does not panic.
* `decodeRecord_encode`, `decodeRecord_eq_ok`: One turn of the loop.
* `decodeLoop_append`: A run of the loop up to some later input.
* `decodeLoop_encode`, `decodeLoop_eq_ok`: A whole run of the loop.
* `decodeWithKnown_eq_ok`: A stream is accepted exactly from its encoding.
* `decodeWithKnown_settles`: Decoding terminates and stays in bounds.
-/

namespace LnGossipSim

namespace Bolt

open Codec

/-- A single TLV record. -/
structure TlvRecord where
  tlvType : UInt64
  value : ByteVec
  deriving DecidableEq

/-- A parsed TLV stream containing zero or more records. -/
structure TlvStream where
  records : List TlvRecord
  deriving DecidableEq

/-- The bytes of one record: type, length of the value, value. -/
def TlvRecord.encode (r : TlvRecord) : Bytes :=
  WireFormat.write (⟨r.tlvType⟩ : BigSize)
    ++ WireFormat.write (⟨UInt64.ofNat r.value.val.length⟩ : BigSize)
    ++ r.value.val

namespace TlvStream

/-- Creates an empty TLV stream. -/
def new : TlvStream := ⟨[]⟩

/-- Adds a record to the stream, before the first record whose type is not
    smaller. Panics if a record with this type already exists. -/
def add (stream : TlvStream) (tlvType : UInt64) (value : ByteVec) :
    Outcome BoltError TlvStream :=
  -- `findIdx` is the length of the list where no record qualifies.
  let pos := stream.records.findIdx (fun r => decide (tlvType ≤ r.tlvType))
  if pos = stream.records.length
      ∨ (stream.records[pos]?.map TlvRecord.tlvType) ≠ some tlvType then
    .ok ⟨stream.records.insertIdx pos ⟨tlvType, value⟩⟩
  else .panicked

/-- Gets a record by type, returning the value if found. -/
def get (stream : TlvStream) (tlvType : UInt64) : Option ByteVec :=
  (stream.records.find? (fun r => r.tlvType == tlvType)).map TlvRecord.value

/-- Encodes the TLV stream to bytes. -/
def encode (stream : TlvStream) : Bytes :=
  stream.records.flatMap TlvRecord.encode

/-- Checks that a type is greater than the last one, if there is one. -/
def checkOrder (lastType : Option UInt64) (tlvType : UInt64) : Outcome BoltError Unit :=
  match lastType with
  | some prev => Outcome.rejectIf (tlvType ≤ prev) (.tlvNotIncreasing prev tlvType)
  | none => .ok ()

/-- One turn of the decoding loop: takes a record off the front of the
    input. -/
def decodeRecord (knownEven : List UInt64) (lastType : Option UInt64) :
    Reader BoltError TlvRecord := fun cursor => do
  let (t, cursor) ← readAs BigSize cursor
  let tlvType := t.value
  checkOrder lastType tlvType
  let (len, cursor) ← readAs BigSize cursor
  let length := len.value.toNat
  Outcome.rejectIf (cursor.length < length) .tlvLengthOverflow
  Outcome.rejectIf (tlvType % 2 = 0 ∧ tlvType ∉ knownEven) (.tlvUnknownEvenType tlvType)
  let slice ← Slice.upTo cursor length
  let value ← toVec slice
  let cursor ← Slice.startingAt cursor length
  return (⟨tlvType, value⟩, cursor)

/-- The decoding loop, with the records pushed so far. -/
def decodeLoop (knownEven : List UInt64) :
    Nat → Option UInt64 → Bytes → List TlvRecord → Outcome BoltError TlvStream
  | _, _, [], records => .ok ⟨records⟩
  | 0, _, _ :: _, _ => .diverged
  | fuel + 1, lastType, byte :: rest, records => do
    let (r, cursor) ← decodeRecord knownEven lastType (byte :: rest)
    decodeLoop knownEven fuel (some r.tlvType) cursor (records ++ [r])

/-- Decodes a TLV stream from bytes, treating the specified even types as
    known. -/
def decodeWithKnown (data : Bytes) (knownEven : List UInt64) : Outcome BoltError TlvStream :=
  decodeLoop knownEven data.length none data []

/-- Decodes a TLV stream from bytes, rejecting all even types. -/
def decode (data : Bytes) : Outcome BoltError TlvStream :=
  decodeWithKnown data []

end TlvStream

/-- A record of this type may come next, after a record of type `lastType`:
    the types increase, and an even type is known. -/
def MayFollow (knownEven : List UInt64) (lastType : Option UInt64) (tlvType : UInt64) : Prop :=
  (∀ prev, lastType = some prev → prev < tlvType) ∧ (tlvType % 2 = 0 → tlvType ∈ knownEven)

/-- Every record of the list may follow the one before it. -/
def Admitted (knownEven : List UInt64) : Option UInt64 → List TlvRecord → Prop
  | _, [] => True
  | lastType, r :: rs =>
    MayFollow knownEven lastType r.tlvType ∧ Admitted knownEven (some r.tlvType) rs

/-- The type of the last record of a list, or the one before it when there is
    none. -/
def lastTypeOf (lastType : Option UInt64) : List TlvRecord → Option UInt64
  | [] => lastType
  | r :: rs => lastTypeOf (some r.tlvType) rs

/-- The records of the stream are sorted by type, without repetition. -/
def TlvStream.Increasing (stream : TlvStream) : Prop :=
  stream.records.Pairwise (fun r r' => r.tlvType < r'.tlvType)

namespace TlvStream

@[simp] theorem encode_nil : encode ⟨[]⟩ = [] := rfl

theorem encode_cons (r : TlvRecord) (rs : List TlvRecord) :
    encode ⟨r :: rs⟩ = r.encode ++ encode ⟨rs⟩ := rfl

theorem encode_append (rs ss : List TlvRecord) :
    encode ⟨rs ++ ss⟩ = encode ⟨rs⟩ ++ encode ⟨ss⟩ := by
  unfold encode
  exact List.flatMap_append

/-- A record takes at least one byte, that of its type. -/
theorem record_encode_length_pos (r : TlvRecord) : 0 < r.encode.length := by
  have hpos : 0 < (WireFormat.write (⟨r.tlvType⟩ : BigSize)).length := by
    change 0 < (writeBigSize _).length
    rw [writeBigSize_length]
    unfold BigSize.len
    split_ifs <;> omega
  unfold TlvRecord.encode
  rw [List.length_append, List.length_append]
  omega

/-- The insertion point of a type in a list cut into records of smaller types
    and a rest that starts with a type that is not smaller. -/
theorem findIdx_split (before after : List TlvRecord) (t : UInt64)
    (hbefore : ∀ r ∈ before, r.tlvType < t) (hafter : ∀ r ∈ after.head?, t ≤ r.tlvType) :
    (before ++ after).findIdx (fun r => decide (t ≤ r.tlvType)) = before.length := by
  induction before with
  | nil =>
      cases after with
      | nil => rfl
      | cons a as =>
          have ha : t ≤ a.tlvType := hafter a rfl
          rw [List.nil_append, List.findIdx_cons, decide_eq_true ha]
          rfl
  | cons b bs ih =>
      have hb : b.tlvType < t := hbefore b List.mem_cons_self
      have hbs := ih (fun r hr => hbefore r (List.mem_cons_of_mem b hr))
      rw [List.cons_append, List.findIdx_cons, decide_eq_false (UInt64.not_le.mpr hb), hbs]
      rfl

theorem insertIdx_split (before after : List TlvRecord) (r : TlvRecord) :
    (before ++ after).insertIdx before.length r = before ++ r :: after := by
  induction before with
  | nil => rfl
  | cons b bs ih =>
      rw [List.cons_append, List.length_cons, List.insertIdx_succ_cons, ih]
      rfl

/-- What `add` does on a stream cut at the insertion point: it panics when the
    record there has the same type, and otherwise inserts the new one. -/
theorem add_split (before after : List TlvRecord) (t : UInt64) (v : ByteVec)
    (hbefore : ∀ r ∈ before, r.tlvType < t) (hafter : ∀ r ∈ after.head?, t ≤ r.tlvType) :
    add ⟨before ++ after⟩ t v
      = if after.head?.map TlvRecord.tlvType = some t then .panicked
        else .ok ⟨before ++ ⟨t, v⟩ :: after⟩ := by
  unfold add
  simp only
  rw [findIdx_split before after t hbefore hafter, insertIdx_split]
  cases after with
  | nil =>
      -- Nothing follows, so the new record is pushed.
      rw [if_pos (Or.inl (by rw [List.append_nil])), if_neg (by simp only [List.head?_nil,
        Option.map_none, reduceCtorEq, not_false_eq_true])]
  | cons a as =>
      have hget : (before ++ a :: as)[before.length]? = some a := by
        rw [List.getElem?_append_right (Nat.le_refl _), Nat.sub_self, List.getElem?_cons_zero]
      have hlen : before.length ≠ (before ++ a :: as).length := by
        rw [List.length_append, List.length_cons]
        omega
      rw [hget, List.head?_cons]
      -- The assertion of the source compares with the record found there.
      by_cases ht : (some a).map TlvRecord.tlvType = some t
      · rw [if_pos ht, if_neg (by rw [not_or, not_not]; exact ⟨hlen, ht⟩)]
      · rw [if_neg ht, if_pos (Or.inr ht)]

/-- Every stream can be cut at the insertion point of a type. -/
theorem exists_split (records : List TlvRecord) (t : UInt64) :
    ∃ before after, records = before ++ after ∧ (∀ r ∈ before, r.tlvType < t)
      ∧ (∀ r ∈ after.head?, t ≤ r.tlvType) := by
  induction records with
  | nil => exact ⟨[], [], rfl, fun r hr => absurd hr List.not_mem_nil, fun r hr => by cases hr⟩
  | cons a as ih =>
      -- The cut is in front of the first record that is not smaller.
      by_cases ha : t ≤ a.tlvType
      · refine ⟨[], a :: as, rfl, fun r hr => absurd hr List.not_mem_nil, ?_⟩
        intro r hr
        rw [List.head?_cons, Option.mem_some_iff] at hr
        rw [← hr]
        exact ha
      · rcases ih with ⟨before, after, has, hbefore, hafter⟩
        refine ⟨a :: before, after, by rw [has, List.cons_append], ?_, hafter⟩
        intro r hr
        rcases List.mem_cons.mp hr with hra | hrb
        · rw [hra]
          exact UInt64.not_le.mp ha
        · exact hbefore r hrb

/-- A successful `add` splits the stream around the new record: what stands
    before it has smaller types, and what stands right after it a greater
    one. -/
theorem add_eq_ok (s s' : TlvStream) (t : UInt64) (v : ByteVec) (h : s.add t v = .ok s') :
    ∃ before after, s.records = before ++ after ∧ s'.records = before ++ ⟨t, v⟩ :: after
      ∧ (∀ r ∈ before, r.tlvType < t) ∧ (∀ r ∈ after.head?, t < r.tlvType) := by
  rcases exists_split s.records t with ⟨before, after, hs, hbefore, hafter⟩
  have hadd := add_split before after t v hbefore hafter
  rw [← hs] at hadd
  rw [hadd] at h
  by_cases hdup : after.head?.map TlvRecord.tlvType = some t
  · rw [if_pos hdup] at h
    simp only [reduceCtorEq] at h
  · rw [if_neg hdup, Outcome.ok.injEq] at h
    refine ⟨before, after, hs, by rw [← h], hbefore, ?_⟩
    intro r hr
    -- An equal type is the case that panics, so the next one is greater.
    have hne : r.tlvType ≠ t := by
      intro heq
      rw [Option.mem_def.mp hr, Option.map_some, heq] at hdup
      exact hdup rfl
    exact UInt64.lt_of_le_of_ne (hafter r hr) (Ne.symm hne)

/-- A type greater than every type present is appended. -/
theorem add_of_forall_lt (records : List TlvRecord) (t : UInt64) (v : ByteVec)
    (h : ∀ r ∈ records, r.tlvType < t) :
    add ⟨records⟩ t v = .ok ⟨records ++ [⟨t, v⟩]⟩ := by
  have hadd := add_split records [] t v h (fun r hr => by cases hr)
  rw [List.append_nil] at hadd
  rw [hadd, if_neg (by simp only [List.head?_nil, Option.map_none, reduceCtorEq,
    not_false_eq_true])]

/-- Adding a record keeps the stream sorted. -/
theorem add_increasing (s s' : TlvStream) (t : UInt64) (v : ByteVec) (hs : s.Increasing)
    (h : s.add t v = .ok s') : s'.Increasing := by
  rcases add_eq_ok s s' t v h with ⟨before, after, hrec, hrec', hbefore, hafter⟩
  unfold Increasing at hs ⊢
  rw [hrec, List.pairwise_append] at hs
  rcases hs with ⟨hbb, haa, hba⟩
  -- The rest is sorted, so its first type bounds every type in it.
  have hlt : ∀ r ∈ after, t < r.tlvType := by
    cases after with
    | nil => exact fun r hr => absurd hr List.not_mem_nil
    | cons a as =>
        intro r hr
        have hta : t < a.tlvType := hafter a rfl
        rcases List.mem_cons.mp hr with hra | hras
        · rw [hra]
          exact hta
        · exact UInt64.lt_trans hta (List.rel_of_pairwise_cons haa hras)
  rw [hrec', List.pairwise_append]
  refine ⟨hbb, List.pairwise_cons.mpr ⟨hlt, haa⟩, ?_⟩
  intro r hr r' hr'
  rcases List.mem_cons.mp hr' with heq | hafter'
  · rw [heq]
    exact hbefore r hr
  · exact hba r hr r' hafter'

/-- The length of a vector survives the cast to 64 bits. -/
theorem length_toNat (value : ByteVec) :
    (UInt64.ofNat value.val.length).toNat = value.val.length := by
  rw [UInt64.toNat_ofNat']
  exact Nat.mod_eq_of_lt value.property

theorem checkOrder_eq_ok (lastType : Option UInt64) (tlvType : UInt64) (u : Unit) :
    checkOrder lastType tlvType = .ok u ↔ ∀ prev, lastType = some prev → prev < tlvType := by
  cases lastType with
  | none =>
      refine ⟨fun _ prev hprev => ?_, fun _ => rfl⟩
      simp only [reduceCtorEq] at hprev
  | some last =>
      simp only [checkOrder, Outcome.rejectIf_eq_ok, Option.some.injEq, forall_eq']
      exact UInt64.not_le

theorem settles_checkOrder (lastType : Option UInt64) (tlvType : UInt64) :
    (checkOrder lastType tlvType).Settles := by
  cases lastType with
  | none => exact Outcome.settles_ok _
  | some prev => exact Outcome.settles_rejectIf _ _

/-- A record with a longer value takes no fewer bytes. -/
theorem record_encode_length_mono (t : UInt64) (v w : ByteVec)
    (h : v.val.length ≤ w.val.length) :
    (TlvRecord.encode ⟨t, v⟩).length ≤ (TlvRecord.encode ⟨t, w⟩).length := by
  have hle : UInt64.ofNat v.val.length ≤ UInt64.ofNat w.val.length := by
    rw [UInt64.le_iff_toNat_le, length_toNat, length_toNat]
    exact h
  have hlen : (writeBigSize ⟨UInt64.ofNat v.val.length⟩).length
      ≤ (writeBigSize ⟨UInt64.ofNat w.val.length⟩).length := by
    rw [writeBigSize_length, writeBigSize_length]
    exact bigSize_len_mono _ _ hle
  have hlen' : (WireFormat.write (⟨UInt64.ofNat v.val.length⟩ : BigSize)).length
      ≤ (WireFormat.write (⟨UInt64.ofNat w.val.length⟩ : BigSize)).length := hlen
  unfold TlvRecord.encode
  simp only [List.length_append]
  omega

/-- One turn of the loop reads back the encoding of a record that may come
    next. -/
theorem decodeRecord_encode (knownEven : List UInt64) (lastType : Option UInt64) (r : TlvRecord)
    (rest : Bytes) (h : MayFollow knownEven lastType r.tlvType) :
    decodeRecord knownEven lastType (r.encode ++ rest) = .ok (r, rest) := by
  rcases h with ⟨hinc, heven⟩
  unfold decodeRecord TlvRecord.encode
  rw [List.append_assoc, List.append_assoc, read_write, Outcome.ok_bind]
  simp only
  have horder := (checkOrder_eq_ok lastType r.tlvType ()).mpr hinc
  have hlen : (r.value.val ++ rest).length = r.value.val.length + rest.length :=
    List.length_append
  rw [horder, Outcome.ok_bind, read_write, Outcome.ok_bind]
  simp only [length_toNat]
  -- The value is there in full, so both slices stay in bounds.
  rw [Outcome.rejectIf_of_not _ _ (by omega), Outcome.ok_bind,
    Outcome.rejectIf_of_not _ _ (by rw [not_and, not_not]; exact heven), Outcome.ok_bind,
    Slice.upTo_of_le _ _ (by omega), Outcome.ok_bind, List.take_left' rfl,
    toVec_of_lt _ r.value.property, Outcome.ok_bind, Slice.startingAt_of_le _ _ (by omega),
    Outcome.ok_bind, List.drop_left' rfl]
  rfl

/-- The checks one turn of the loop makes, in the order it makes them. -/
theorem decodeRecord_eq_ok (knownEven : List UInt64) (lastType : Option UInt64)
    (cursor rest : Bytes) (r : TlvRecord) (h : decodeRecord knownEven lastType cursor = .ok (r, rest)) :
    cursor = r.encode ++ rest ∧ MayFollow knownEven lastType r.tlvType := by
  unfold decodeRecord at h
  rw [Outcome.bind_eq_ok] at h
  rcases h with ⟨⟨t, c1⟩, htype, h⟩
  simp only [Outcome.bind_eq_ok] at h
  rcases h with ⟨_, horder, ⟨len, c2⟩, hlength, _, hoverflow, _, heven, slice, hslice, value,
    hvalue, c3, hc3, h⟩
  rw [Outcome.rejectIf_eq_ok] at hoverflow heven
  simp only [Outcome.pure_eq_ok, Outcome.ok.injEq, Prod.mk.injEq] at h
  -- The overflow check is what keeps both slices in bounds.
  have hle : len.value.toNat ≤ c2.length := Nat.le_of_not_lt hoverflow
  rw [Slice.upTo_of_le _ _ hle, Outcome.ok.injEq] at hslice
  rw [Slice.startingAt_of_le _ _ hle, Outcome.ok.injEq] at hc3
  have hslen : slice.length = len.value.toNat := by
    rw [← hslice]
    exact List.length_take_of_le hle
  have hlt : slice.length < 2 ^ 64 := by
    rw [hslen]
    exact len.value.toNat_lt
  rw [toVec_of_lt _ hlt, Outcome.ok.injEq] at hvalue
  have hcut : c2 = slice ++ c3 := by
    rw [← hslice, ← hc3, List.take_append_drop]
  -- The length read is the length of the slice, so it is written back.
  have hback : (⟨UInt64.ofNat slice.length⟩ : BigSize) = len := by
    rw [hslen, UInt64.ofNat_toNat]
  rw [← h.1, ← h.2]
  refine ⟨?_, ?_, ?_⟩
  · unfold TlvRecord.encode
    simp only [← hvalue]
    rw [hback, eq_write_of_read htype, eq_write_of_read hlength, hcut, List.append_assoc,
      List.append_assoc]
  · rw [← (checkOrder_eq_ok lastType t.value ())]
    exact horder
  · rw [not_and, not_not] at heven
    exact heven

/-- No slice of one turn of the loop is out of bounds. -/
theorem decodeRecord_settles (knownEven : List UInt64) (lastType : Option UInt64) (cursor : Bytes) :
    (decodeRecord knownEven lastType cursor).Settles := by
  unfold decodeRecord
  refine Outcome.settles_bind _ _ (TotalWire.settles cursor) ?_
  intro p _
  rcases p with ⟨t, c1⟩
  refine Outcome.settles_bind _ _ (settles_checkOrder lastType t.value) ?_
  intro _ _
  refine Outcome.settles_bind _ _ (TotalWire.settles c1) ?_
  intro q _
  rcases q with ⟨len, c2⟩
  refine Outcome.settles_bind _ _ (Outcome.settles_rejectIf _ _) ?_
  intro _ hoverflow
  -- The length check is what keeps both slices and the copy in bounds.
  have hle : len.value.toNat ≤ c2.length :=
    Nat.le_of_not_lt ((Outcome.rejectIf_eq_ok _ _ _).mp hoverflow)
  have hlt : (c2.take len.value.toNat).length < 2 ^ 64 := by
    rw [List.length_take_of_le hle]
    exact len.value.toNat_lt
  refine Outcome.settles_bind _ _ (Outcome.settles_rejectIf _ _) ?_
  intro _ _
  rw [Slice.upTo_of_le _ _ hle, Outcome.ok_bind, toVec_of_lt _ hlt, Outcome.ok_bind,
    Slice.startingAt_of_le _ _ hle, Outcome.ok_bind]
  exact Outcome.settles_ok _

/-- The loop on a non-empty input takes one turn and goes on. -/
theorem decodeLoop_succ (knownEven : List UInt64) (fuel : Nat) (lastType : Option UInt64)
    (cursor : Bytes) (records : List TlvRecord) (h : cursor ≠ []) :
    decodeLoop knownEven (fuel + 1) lastType cursor records
      = (decodeRecord knownEven lastType cursor >>= fun p =>
          decodeLoop knownEven fuel (some p.1.tlvType) p.2 (records ++ [p.1])) := by
  cases cursor with
  | nil => exact absurd rfl h
  | cons byte rest => rfl

theorem decodeLoop_nil (knownEven : List UInt64) (fuel : Nat) (lastType : Option UInt64)
    (records : List TlvRecord) : decodeLoop knownEven fuel lastType [] records = .ok ⟨records⟩ := by
  cases fuel <;> rfl

/-- The loop reads the encoding of any list of admitted records, and then goes
    on with what follows it, with enough fuel left for that. -/
theorem decodeLoop_append (knownEven : List UInt64) (fuel : Nat) (lastType : Option UInt64)
    (rs records : List TlvRecord) (tail : Bytes) (h : Admitted knownEven lastType rs)
    (hfuel : (encode ⟨rs⟩ ++ tail).length ≤ fuel) :
    ∃ left, tail.length ≤ left
      ∧ decodeLoop knownEven fuel lastType (encode ⟨rs⟩ ++ tail) records
        = decodeLoop knownEven left (lastTypeOf lastType rs) tail (records ++ rs) := by
  induction rs generalizing fuel lastType records with
  | nil =>
      refine ⟨fuel, hfuel, ?_⟩
      rw [encode_nil, List.nil_append, List.append_nil]
      rfl
  | cons r rs ih =>
      rcases h with ⟨hr, hrs⟩
      -- A record takes at least one byte, so one unit of fuel per record is enough.
      have hpos := record_encode_length_pos r
      rw [encode_cons, List.append_assoc, List.length_append] at hfuel
      cases fuel with
      | zero => omega
      | succ fuel =>
          have hne : r.encode ++ (encode ⟨rs⟩ ++ tail) ≠ [] := by
            intro hnil
            rw [List.append_eq_nil_iff] at hnil
            rw [hnil.1, List.length_nil] at hpos
            omega
          rcases ih fuel (some r.tlvType) (records ++ [r]) hrs (by omega) with ⟨left, hleft, hloop⟩
          refine ⟨left, hleft, ?_⟩
          rw [encode_cons, List.append_assoc, decodeLoop_succ _ _ _ _ _ hne,
            decodeRecord_encode knownEven lastType r _ hr, Outcome.ok_bind]
          simp only
          rw [hloop, List.append_assoc, List.singleton_append]
          rfl

/-- The loop reads back the encoding of any list of admitted records. -/
theorem decodeLoop_encode (knownEven : List UInt64) (fuel : Nat) (lastType : Option UInt64)
    (rs records : List TlvRecord) (h : Admitted knownEven lastType rs)
    (hfuel : (encode ⟨rs⟩).length ≤ fuel) :
    decodeLoop knownEven fuel lastType (encode ⟨rs⟩) records = .ok ⟨records ++ rs⟩ := by
  have happend := decodeLoop_append knownEven fuel lastType rs records [] h
  rw [List.append_nil] at happend
  rcases happend hfuel with ⟨left, -, hloop⟩
  rw [hloop, decodeLoop_nil]

/-- What a successful run of the loop pushed is an admitted list of records,
    and the input was their encoding. -/
theorem decodeLoop_eq_ok (knownEven : List UInt64) (fuel : Nat) (lastType : Option UInt64)
    (cursor : Bytes) (records : List TlvRecord) (s : TlvStream)
    (h : decodeLoop knownEven fuel lastType cursor records = .ok s) :
    ∃ rs, s.records = records ++ rs ∧ cursor = encode ⟨rs⟩ ∧ Admitted knownEven lastType rs := by
  induction fuel generalizing lastType cursor records with
  | zero =>
      cases cursor with
      | nil =>
          rw [decodeLoop_nil, Outcome.ok.injEq] at h
          exact ⟨[], by rw [← h, List.append_nil], rfl, trivial⟩
      | cons byte rest => simp only [decodeLoop, reduceCtorEq] at h
  | succ fuel ih =>
      by_cases hnil : cursor = []
      · rw [hnil, decodeLoop_nil, Outcome.ok.injEq] at h
        exact ⟨[], by rw [← h, List.append_nil], hnil, trivial⟩
      · rw [decodeLoop_succ _ _ _ _ _ hnil, Outcome.bind_eq_ok] at h
        rcases h with ⟨⟨r, rest⟩, hrec, h⟩
        rcases decodeRecord_eq_ok knownEven lastType cursor rest r hrec with ⟨hcursor, hr⟩
        simp only at h
        -- The record read comes first, and the rest of the run gives the others.
        rcases ih _ _ _ h with ⟨rs, hs, hrest, hrs⟩
        refine ⟨r :: rs, ?_, ?_, hr, hrs⟩
        · rw [hs, List.append_assoc, List.singleton_append]
        · rw [hcursor, hrest, encode_cons]

/-- With as much fuel as there are bytes the loop terminates, and it never
    slices out of bounds. -/
theorem decodeLoop_settles (knownEven : List UInt64) (fuel : Nat) (lastType : Option UInt64)
    (cursor : Bytes) (records : List TlvRecord) (hfuel : cursor.length ≤ fuel) :
    (decodeLoop knownEven fuel lastType cursor records).Settles := by
  induction fuel generalizing lastType cursor records with
  | zero =>
      rw [List.length_eq_zero_iff.mp (Nat.le_zero.mp hfuel), decodeLoop_nil]
      exact Outcome.settles_ok _
  | succ fuel ih =>
      by_cases hnil : cursor = []
      · rw [hnil, decodeLoop_nil]
        exact Outcome.settles_ok _
      · rw [decodeLoop_succ _ _ _ _ _ hnil]
        refine Outcome.settles_bind _ _ (decodeRecord_settles _ _ _) ?_
        intro p hp
        rcases p with ⟨r, rest⟩
        have hcursor := (decodeRecord_eq_ok knownEven lastType cursor rest r hp).1
        -- Each turn takes at least one byte off the cursor.
        have hpos := record_encode_length_pos r
        rw [hcursor, List.length_append] at hfuel
        exact ih _ _ _ (by simp only; omega)

/-- A stream is accepted exactly from its own encoding, when its records are
    admitted. -/
theorem decodeWithKnown_eq_ok (data : Bytes) (knownEven : List UInt64) (s : TlvStream) :
    decodeWithKnown data knownEven = .ok s
      ↔ data = s.encode ∧ Admitted knownEven none s.records := by
  unfold decodeWithKnown
  constructor
  · intro h
    rcases decodeLoop_eq_ok _ _ _ _ _ _ h with ⟨rs, hs, hdata, hrs⟩
    rw [List.nil_append] at hs
    rw [hs]
    exact ⟨by rw [hdata, ← hs], hrs⟩
  · intro h
    rw [h.1, show s.encode = encode ⟨s.records⟩ from rfl,
      decodeLoop_encode knownEven _ none s.records [] h.2 (Nat.le_refl _)]
    rfl

theorem decodeWithKnown_settles (data : Bytes) (knownEven : List UInt64) :
    (decodeWithKnown data knownEven).Settles :=
  decodeLoop_settles _ _ _ _ _ (Nat.le_refl _)

end TlvStream

/-- Admitted records after a given type, said without following the list: the
    types exceed it and increase, and every even one is known. -/
theorem admitted_iff_of_last (knownEven : List UInt64) (lastType : Option UInt64)
    (rs : List TlvRecord) :
    Admitted knownEven lastType rs
      ↔ (∀ prev, lastType = some prev → ∀ r ∈ rs, prev < r.tlvType)
        ∧ rs.Pairwise (fun r r' => r.tlvType < r'.tlvType)
        ∧ ∀ r ∈ rs, r.tlvType % 2 = 0 → r.tlvType ∈ knownEven := by
  induction rs generalizing lastType with
  | nil =>
      refine ⟨fun _ => ⟨?_, List.Pairwise.nil, ?_⟩, fun _ => trivial⟩
      · exact fun _ _ r hr => absurd hr List.not_mem_nil
      · exact fun r hr => absurd hr List.not_mem_nil
  | cons r rs ih =>
      unfold Admitted MayFollow
      rw [ih (some r.tlvType), List.pairwise_cons]
      constructor
      · intro h
        rcases h with ⟨⟨hlast, heven⟩, habove, hsorted, hevens⟩
        -- The head bounds the rest, so the previous type does too.
        have hall : ∀ r' ∈ rs, r.tlvType < r'.tlvType := habove r.tlvType rfl
        refine ⟨?_, ⟨hall, hsorted⟩, ?_⟩
        · intro prev hprev r' hr'
          rcases List.mem_cons.mp hr' with heq | hmem
          · rw [heq]
            exact hlast prev hprev
          · exact UInt64.lt_trans (hlast prev hprev) (hall r' hmem)
        · intro r' hr'
          rcases List.mem_cons.mp hr' with heq | hmem
          · rw [heq]
            exact heven
          · exact hevens r' hmem
      · intro h
        rcases h with ⟨hlast, ⟨hall, hsorted⟩, hevens⟩
        refine ⟨⟨?_, hevens r List.mem_cons_self⟩, ?_, hsorted, ?_⟩
        · exact fun prev hprev => hlast prev hprev r List.mem_cons_self
        · intro prev hprev r' hr'
          rw [← Option.some.inj hprev]
          exact hall r' hr'
        · exact fun r' hr' => hevens r' (List.mem_cons_of_mem r hr')

/-- Admitted records, said without the loop: the types increase, and every
    even one is known. -/
theorem admitted_iff (knownEven : List UInt64) (rs : List TlvRecord) :
    Admitted knownEven none rs
      ↔ rs.Pairwise (fun r r' => r.tlvType < r'.tlvType)
        ∧ ∀ r ∈ rs, r.tlvType % 2 = 0 → r.tlvType ∈ knownEven := by
  rw [admitted_iff_of_last]
  constructor
  · exact fun h => h.2
  · intro h
    refine ⟨?_, h⟩
    intro prev hprev
    simp only [reduceCtorEq] at hprev

end Bolt

end LnGossipSim
