import LnGossipSim.Bolt.WireCut
import LnGossipSim.Bolt.Tlv

/-!
# Errors in a TLV Stream

Which error a stream that is not accepted is rejected with. The loop reads the
records it admits whatever stands behind them, so the error of a stream is that
of its first record that is not admitted, or that is not all there.

## Main definitions

* `IsCutRecord`: What the decoder reports of a record that is cut short.

## Theorems

* `decodeRecord_unknownEven`: One turn of the loop at an unknown even type.
* `decodeRecord_cut`: One turn of the loop at a record that is cut short.
* `decodeWithKnown_err`: The first error is that of the stream.
* `decodeWithKnown_unknownEven`: A stream with an unknown even type.
* `decodeWithKnown_cut`: A stream that ends inside a record.
-/

namespace LnGossipSim

namespace Bolt

open Codec

/-- What the decoder reports of a record that is cut short: in its type or its
    length, or in its value. -/
def IsCutRecord (e : BoltError) : Prop := e = .bigSizeTruncated ∨ e = .tlvLengthOverflow

/-- What a list adds to the last type is the type of one of its records. -/
theorem lastTypeOf_lt (lastType : Option UInt64) (rs : List TlvRecord) (t : UInt64)
    (hlast : ∀ prev, lastType = some prev → prev < t) (hrs : ∀ r ∈ rs, r.tlvType < t) :
    ∀ prev, lastTypeOf lastType rs = some prev → prev < t := by
  induction rs generalizing lastType with
  | nil => exact hlast
  | cons r rs ih =>
      refine ih (some r.tlvType) ?_ (fun r' hr' => hrs r' (List.mem_cons_of_mem r hr'))
      intro prev hprev
      rw [← Option.some.inj hprev]
      exact hrs r List.mem_cons_self

/-- A list is admitted when its first part is, and the rest is after it. -/
theorem admitted_append (knownEven : List UInt64) (lastType : Option UInt64)
    (rs ss : List TlvRecord) :
    Admitted knownEven lastType (rs ++ ss)
      ↔ Admitted knownEven lastType rs ∧ Admitted knownEven (lastTypeOf lastType rs) ss := by
  induction rs generalizing lastType with
  | nil => exact ⟨fun h => ⟨trivial, h⟩, fun h => h.2⟩
  | cons r rs ih =>
      change MayFollow knownEven lastType r.tlvType ∧ Admitted knownEven (some r.tlvType) (rs ++ ss)
        ↔ (MayFollow knownEven lastType r.tlvType ∧ Admitted knownEven (some r.tlvType) rs)
          ∧ Admitted knownEven (lastTypeOf (some r.tlvType) rs) ss
      rw [ih (some r.tlvType), and_assoc]

namespace TlvStream

/-- A whole record of an even type that is not known is rejected for its
    type. -/
theorem decodeRecord_unknownEven (knownEven : List UInt64) (lastType : Option UInt64)
    (r : TlvRecord) (rest : Bytes) (hlast : ∀ prev, lastType = some prev → prev < r.tlvType)
    (heven : r.tlvType % 2 = 0) (hunknown : r.tlvType ∉ knownEven) :
    decodeRecord knownEven lastType (r.encode ++ rest)
      = .err (.tlvUnknownEvenType r.tlvType) := by
  unfold decodeRecord TlvRecord.encode
  have horder := (checkOrder_eq_ok lastType r.tlvType ()).mpr hlast
  have hlen : (r.value.val ++ rest).length = r.value.val.length + rest.length :=
    List.length_append
  rw [List.append_assoc, List.append_assoc, read_write, Outcome.ok_bind]
  simp only
  rw [horder, Outcome.ok_bind, read_write, Outcome.ok_bind]
  simp only [length_toNat]
  -- The value is all there, so only the type is left to object to.
  rw [Outcome.rejectIf_of_not _ _ (by omega), Outcome.ok_bind, Outcome.rejectIf,
    if_pos ⟨heven, hunknown⟩, Outcome.err_bind]

/-- A record that may come next and is cut short is rejected for that: its type
    or its length is not whole, or its value is shorter than its length
    says. -/
theorem decodeRecord_cut (knownEven : List UInt64) (lastType : Option UInt64) (r : TlvRecord)
    (p : Bytes) (h : MayFollow knownEven lastType r.tlvType) (hp : ProperPrefix p r.encode) :
    (decodeRecord knownEven lastType p).FailsWith IsCutRecord := by
  -- A type or a length that is cut has an error of its own.
  have hbig : ∀ n : BigSize, Delimits IsCutRecord (WireFormat.write n) (readAs BigSize) n := by
    intro n
    refine ⟨(delimits_bigSize n).1, ?_⟩
    intro q hq
    rcases (delimits_bigSize n).2 q hq with ⟨e, he, hread⟩
    exact ⟨e, Or.inl he, hread⟩
  unfold TlvRecord.encode at hp
  rw [List.append_assoc] at hp
  unfold decodeRecord
  refine failsWith_read IsCutRecord (hbig ⟨r.tlvType⟩) hp ?_
  intro p1 hp1
  have horder := (checkOrder_eq_ok lastType r.tlvType ()).mpr h.1
  simp only
  rw [horder, Outcome.ok_bind]
  refine failsWith_read IsCutRecord (hbig _) hp1 ?_
  intro p2 hp2
  -- Both are whole, so what is missing belongs to the value.
  have hshort := properPrefix_length hp2
  refine ⟨.tlvLengthOverflow, Or.inr rfl, ?_⟩
  simp only [length_toNat]
  rw [Outcome.rejectIf, if_pos hshort, Outcome.err_bind]

/-- The loop reads the records it admits, so the first error is that of the
    stream. -/
theorem decodeWithKnown_err (knownEven : List UInt64) (rs : List TlvRecord) (tail : Bytes)
    (e : BoltError) (h : Admitted knownEven none rs) (htail : tail ≠ [])
    (herr : decodeRecord knownEven (lastTypeOf none rs) tail = .err e) :
    decodeWithKnown (encode ⟨rs⟩ ++ tail) knownEven = .err e := by
  unfold decodeWithKnown
  rcases decodeLoop_append knownEven _ none rs [] tail h (Nat.le_refl _) with ⟨left, hleft, hloop⟩
  rw [hloop]
  cases left with
  | zero => exact absurd (List.length_eq_zero_iff.mp (Nat.le_zero.mp hleft)) htail
  | succ left => rw [decodeLoop_succ _ _ _ _ _ htail, herr, Outcome.err_bind]

theorem record_encode_ne_nil (r : TlvRecord) (rest : Bytes) : r.encode ++ rest ≠ [] := by
  intro hnil
  have hpos := record_encode_length_pos r
  rw [(List.append_eq_nil_iff.mp hnil).1, List.length_nil] at hpos
  omega

/-- A stream is rejected for the first of its records whose type is even and
    not known. -/
theorem decodeWithKnown_unknownEven (knownEven : List UInt64) (before after : List TlvRecord)
    (r : TlvRecord) (h : Admitted knownEven none before)
    (hlast : ∀ b ∈ before, b.tlvType < r.tlvType) (heven : r.tlvType % 2 = 0)
    (hunknown : r.tlvType ∉ knownEven) :
    decodeWithKnown (encode ⟨before ++ r :: after⟩) knownEven
      = .err (.tlvUnknownEvenType r.tlvType) := by
  rw [encode_append, encode_cons]
  refine decodeWithKnown_err knownEven before _ _ h (record_encode_ne_nil r _) ?_
  have hprev := lastTypeOf_lt none before r.tlvType (fun prev hprev => nomatch hprev) hlast
  exact decodeRecord_unknownEven knownEven _ r _ hprev heven hunknown

/-- A stream that ends inside a record is rejected for that record. -/
theorem decodeWithKnown_cut (knownEven : List UInt64) (before after : List TlvRecord)
    (r : TlvRecord) (p : Bytes) (h : Admitted knownEven none (before ++ r :: after))
    (hp : ProperPrefix p r.encode) (hne : p ≠ []) :
    (decodeWithKnown (encode ⟨before⟩ ++ p) knownEven).FailsWith IsCutRecord := by
  rcases (admitted_append knownEven none before (r :: after)).mp h with ⟨hbefore, hr, -⟩
  rcases decodeRecord_cut knownEven _ r p hr hp with ⟨e, he, hrec⟩
  exact ⟨e, he, decodeWithKnown_err knownEven before p e hbefore hne hrec⟩

end TlvStream

end Bolt

end LnGossipSim
