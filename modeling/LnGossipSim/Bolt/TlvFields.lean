import Mathlib.Data.List.Flatten
import Mathlib.Data.List.Sort
import Mathlib.Data.List.Nodup
import LnGossipSim.Bolt.Tlv

/-!
# Optional Fields in a TLV Stream

A message that ends in a TLV stream names a few record types and holds an
optional value for each. Its encoder adds the values that are present to an
empty stream, and its decoder looks the types up in the stream it parsed.

`tlvRecords` is what the first of these writes. On a sorted stream `get` is
membership, so both directions come down to which records a list contains:
the fields are looked up again in their own records, and the records of the
named types in any sorted stream are those of the fields looked up in it.

The four codecs that end in a stream differ in their fixed part and in how
they read a field's value. `TlvCodec` lists what each of them establishes, and
the round trip and the canonical form are proved from that list once.

## Main definitions

* `TlvStream.addIfSome`: Add a value that may be absent.
* `tlvRecords`: The records of the fields that are present.
* `FieldsIncreasing`: The field types are listed in increasing order.
* `LooksUp`: A stream has the values of the fields.
* `TlvEncoder`, `TlvCodec`: What relates the two halves of a codec that ends
  in a stream.

## Theorems

* `get_eq_some`: In a sorted stream, looking up a type is membership.
* `addIfSome_of_forall_lt`: Adding a greater type appends its record.
* `addIfSome_two`: The stream a message with two fields builds.
* `tlvRecords_increasing`: Present fields are sorted as their types are.
* `get_tlvRecords`: A field is looked up again in the records written.
* `decode_tlvRecords`: The records written for the fields are read back.
* `filter_eq_tlvRecords`: The records of named types are those looked up.
* `TlvEncoder.reads_own`: Such a codec decodes what it encodes.
* `TlvCodec.canonical`: What such a codec keeps of an accepted payload.
-/

namespace LnGossipSim

namespace Bolt

/-- Adds a record to the stream when the value is present. -/
def TlvStream.addIfSome (stream : TlvStream) (tlvType : UInt64) (value : Option ByteVec) :
    Outcome BoltError TlvStream :=
  match value with
  | some v => stream.add tlvType v
  | none => .ok stream

/-- The records of the fields that are present, in the order they are
    listed. -/
def tlvRecords (fields : List (UInt64 × Option ByteVec)) : List TlvRecord :=
  fields.flatMap (fun f => f.2.toList.map (TlvRecord.mk f.1))

/-- The field types are listed in increasing order. -/
def FieldsIncreasing (fields : List (UInt64 × Option ByteVec)) : Prop :=
  (fields.map Prod.fst).Pairwise (fun t t' => t < t')

/-- In a list sorted by a key, the key determines the element. -/
theorem eq_of_key_eq {α : Type} (l : List α) (key : α → UInt64)
    (h : l.Pairwise (fun a b => key a < key b)) (a b : α) (ha : a ∈ l) (hb : b ∈ l)
    (hkey : key a = key b) : a = b := by
  have hnodup : (l.map key).Nodup :=
    List.pairwise_map.mpr (h.imp (fun hlt => UInt64.ne_of_lt hlt))
  exact List.inj_on_of_nodup_map hnodup ha hb hkey

/-- The stream has the values of the fields, or nothing where a field is
    absent. -/
def LooksUp (stream : TlvStream) (fields : List (UInt64 × Option ByteVec)) : Prop :=
  ∀ f ∈ fields, stream.get f.1 = f.2

section

variable {α : Type} (encode : α → Outcome BoltError Bytes) (decode : Bytes → Outcome BoltError α)
variable (fixedPart : α → Bytes) (fields : α → List (UInt64 × Option ByteVec))
variable (types knownEven : List UInt64) (Fits : α → Prop) (Extracts : TlvStream → α → Prop)

/-- A codec whose encoding is a fixed part followed by a TLV stream with fields
    of the given types. The relation `Extracts` says when the values of a
    stream are those of a message. -/
structure TlvEncoder : Prop where
  types_eq : ∀ m, (fields m).map Prod.fst = types
  increasing : types.Pairwise (fun t t' => t < t')
  known : ∀ t ∈ types, t % 2 = 0 → t ∈ knownEven
  encode_eq : ∀ m, encode m = .ok (fixedPart m ++ TlvStream.encode ⟨tlvRecords (fields m)⟩)
  extracts_own : ∀ m, Extracts ⟨tlvRecords (fields m)⟩ m
  decode_stream : ∀ m s data, Fits m → TlvStream.decodeWithKnown data knownEven = .ok s →
    Extracts s m → decode (fixedPart m ++ data) = .ok m

/-- Such a codec, when it accepts only payloads of that shape and never writes
    more than it read. -/
structure TlvCodec : Prop extends
    TlvEncoder encode decode fixedPart fields types knownEven Fits Extracts where
  decode_eq_ok : ∀ payload m, decode payload = .ok m → ∃ s data, payload = fixedPart m ++ data
    ∧ Fits m ∧ TlvStream.decodeWithKnown data knownEven = .ok s ∧ Extracts s m
  shrinks : ∀ m s, s.Increasing → Extracts s m →
    (TlvStream.encode ⟨tlvRecords (fields m)⟩).length ≤ s.encode.length

end

theorem types_increasing (t u : UInt64) (h : t < u) : [t, u].Pairwise (fun t t' => t < t') := by
  refine List.pairwise_cons.mpr ⟨?_, List.pairwise_singleton _ _⟩
  intro u' hu'
  rw [List.mem_singleton.mp hu']
  exact h

theorem mem_tlvRecords (fields : List (UInt64 × Option ByteVec)) (r : TlvRecord) :
    r ∈ tlvRecords fields ↔ (r.tlvType, some r.value) ∈ fields := by
  unfold tlvRecords
  rw [List.mem_flatMap]
  constructor
  · intro h
    rcases h with ⟨⟨t, v⟩, hf, hr⟩
    rcases List.mem_map.mp hr with ⟨w, hw, heq⟩
    rw [Option.mem_toList] at hw
    simp only at hw heq
    rw [← heq, ← hw]
    exact hf
  · intro h
    refine ⟨_, h, ?_⟩
    rw [Option.toList_some, List.map_singleton, List.mem_singleton]

/-- Present fields are sorted by type when the fields are. -/
theorem tlvRecords_increasing (fields : List (UInt64 × Option ByteVec))
    (h : FieldsIncreasing fields) : TlvStream.Increasing ⟨tlvRecords fields⟩ := by
  induction fields with
  | nil => exact List.Pairwise.nil
  | cons f fs ih =>
      unfold FieldsIncreasing at h
      rw [List.map_cons, List.pairwise_cons] at h
      rcases h with ⟨habove, hfs⟩
      have hhead : ∀ r ∈ f.2.toList.map (TlvRecord.mk f.1), r.tlvType = f.1 := by
        intro r hr
        rcases List.mem_map.mp hr with ⟨v, -, heq⟩
        rw [← heq]
      -- A field gives one record or none.
      have hone : (f.2.toList.map (TlvRecord.mk f.1)).Pairwise
          (fun r r' => r.tlvType < r'.tlvType) := by
        cases f.2 with
        | none => exact List.Pairwise.nil
        | some v => exact List.pairwise_singleton _ _
      refine List.pairwise_append.mpr ⟨hone, ih hfs, ?_⟩
      intro r hr r' hr'
      rw [hhead r hr]
      exact habove _ (List.mem_map.mpr ⟨_, (mem_tlvRecords fs r').mp hr', rfl⟩)

namespace TlvStream

/-- In a sorted stream, looking up a type is membership. -/
theorem get_eq_some (s : TlvStream) (hs : s.Increasing) (t : UInt64) (v : ByteVec) :
    s.get t = some v ↔ ⟨t, v⟩ ∈ s.records := by
  unfold get
  rw [Option.map_eq_some_iff]
  constructor
  · intro h
    rcases h with ⟨r, hfind, hv⟩
    have ht : r.tlvType = t := by
      have hp := List.find?_some hfind
      exact eq_of_beq hp
    rw [← hv, ← ht]
    exact List.mem_of_find?_eq_some hfind
  · intro h
    have hsome : (s.records.find? (fun r => r.tlvType == t)).isSome := by
      rw [List.find?_isSome]
      exact ⟨_, h, BEq.rfl⟩
    rcases Option.isSome_iff_exists.mp hsome with ⟨r, hfind⟩
    have ht : r.tlvType = t := by
      have hp := List.find?_some hfind
      exact eq_of_beq hp
    -- A sorted stream has one record for a type.
    have heq := eq_of_key_eq s.records TlvRecord.tlvType hs r ⟨t, v⟩
      (List.mem_of_find?_eq_some hfind) h ht
    exact ⟨r, hfind, by rw [heq]⟩

theorem get_eq_none (s : TlvStream) (t : UInt64) :
    s.get t = none ↔ ∀ r ∈ s.records, r.tlvType ≠ t := by
  unfold get
  rw [Option.map_eq_none_iff, List.find?_eq_none]
  simp only [beq_iff_eq, ne_eq]

/-- Adding a type greater than every type present appends its record, if there
    is one. -/
theorem addIfSome_of_forall_lt (records : List TlvRecord) (t : UInt64) (v : Option ByteVec)
    (h : ∀ r ∈ records, r.tlvType < t) :
    addIfSome ⟨records⟩ t v = .ok ⟨records ++ tlvRecords [(t, v)]⟩ := by
  cases v with
  | none =>
      rw [addIfSome]
      change _ = Outcome.ok (⟨records ++ []⟩ : TlvStream)
      rw [List.append_nil]
  | some v => exact add_of_forall_lt records t v h

/-- The stream of a message with one optional field. -/
theorem addIfSome_one (t : UInt64) (v : Option ByteVec) :
    new.addIfSome t v = .ok ⟨tlvRecords [(t, v)]⟩ :=
  addIfSome_of_forall_lt [] t v (fun _ hr => absurd hr List.not_mem_nil)

/-- The stream of a message with two optional fields, added in the order of
    their types. -/
theorem addIfSome_two (t u : UInt64) (v w : Option ByteVec) (h : t < u) :
    (new.addIfSome t v >>= fun stream => stream.addIfSome u w)
      = .ok ⟨tlvRecords [(t, v), (u, w)]⟩ := by
  rw [addIfSome_one, Outcome.ok_bind]
  have hlt : ∀ r ∈ tlvRecords [(t, v)], r.tlvType < u := by
    intro r hr
    have hmem := (mem_tlvRecords [(t, v)] r).mp hr
    rw [List.mem_singleton, Prod.mk.injEq] at hmem
    rw [hmem.1]
    exact h
  rw [addIfSome_of_forall_lt _ u w hlt]
  unfold tlvRecords
  rw [← List.flatMap_append]
  rfl

end TlvStream

/-- A field is looked up again in the records written for all of them. -/
theorem get_tlvRecords (fields : List (UInt64 × Option ByteVec)) (h : FieldsIncreasing fields)
    (t : UInt64) (v : Option ByteVec) (hf : (t, v) ∈ fields) :
    TlvStream.get ⟨tlvRecords fields⟩ t = v := by
  cases v with
  | some v =>
      rw [TlvStream.get_eq_some _ (tlvRecords_increasing fields h)]
      exact (mem_tlvRecords fields ⟨t, v⟩).mpr hf
  | none =>
      rw [TlvStream.get_eq_none]
      intro r hr ht
      have hr' := (mem_tlvRecords fields r).mp hr
      -- Two fields of one type are one field, but here only one has a value.
      have heq := eq_of_key_eq fields Prod.fst (List.pairwise_map.mp h) _ _ hr' hf ht
      simp only [Prod.mk.injEq, reduceCtorEq, and_false] at heq

/-- Written fields are admitted when every even type among them is known. -/
theorem tlvRecords_admitted (knownEven : List UInt64) (fields : List (UInt64 × Option ByteVec))
    (h : FieldsIncreasing fields)
    (heven : ∀ t ∈ fields.map Prod.fst, t % 2 = 0 → t ∈ knownEven) :
    Admitted knownEven none (tlvRecords fields) := by
  rw [admitted_iff]
  refine ⟨tlvRecords_increasing fields h, ?_⟩
  intro r hr
  exact heven _ (List.mem_map.mpr ⟨_, (mem_tlvRecords fields r).mp hr, rfl⟩)

/-- The records written for the fields are read back. -/
theorem decode_tlvRecords (knownEven : List UInt64) (fields : List (UInt64 × Option ByteVec))
    (h : FieldsIncreasing fields)
    (heven : ∀ t ∈ fields.map Prod.fst, t % 2 = 0 → t ∈ knownEven) :
    TlvStream.decodeWithKnown (TlvStream.encode ⟨tlvRecords fields⟩) knownEven
      = .ok ⟨tlvRecords fields⟩ := by
  rw [TlvStream.decodeWithKnown_eq_ok]
  exact ⟨rfl, tlvRecords_admitted knownEven fields h heven⟩

/-- The records of a sorted stream whose types are named are those of the
    fields looked up in it. -/
theorem filter_eq_tlvRecords (s : TlvStream) (hs : s.Increasing)
    (fields : List (UInt64 × Option ByteVec)) (h : FieldsIncreasing fields)
    (hget : LooksUp s fields) :
    s.records.filter (fun r => decide (r.tlvType ∈ fields.map Prod.fst)) = tlvRecords fields := by
  have hirrefl : Std.Irrefl (fun r r' : TlvRecord => r.tlvType < r'.tlvType) :=
    ⟨fun r => UInt64.lt_irrefl r.tlvType⟩
  have hanti : Std.Antisymm (fun r r' : TlvRecord => r.tlvType < r'.tlvType) :=
    ⟨fun r r' hlt hgt => absurd hgt (UInt64.lt_asymm hlt)⟩
  -- Both lists are sorted, so it is enough that they have the same members.
  refine List.Pairwise.eq_of_mem_iff (r := fun r r' : TlvRecord => r.tlvType < r'.tlvType)
    (hs.filter _) (tlvRecords_increasing fields h) ?_
  intro r
  rw [List.mem_filter, decide_eq_true_iff, mem_tlvRecords]
  constructor
  · intro hr
    rcases hr with ⟨hmem, hnamed⟩
    rcases List.mem_map.mp hnamed with ⟨⟨t, v⟩, hf, ht⟩
    simp only at ht
    have hv : s.get t = v := hget _ hf
    have hr : s.get t = some r.value := by
      rw [TlvStream.get_eq_some s hs, ht]
      exact hmem
    rw [← hr, ← ht, hv]
    exact hf
  · intro hr
    have hget' := hget _ hr
    simp only at hget'
    rw [TlvStream.get_eq_some s hs] at hget'
    exact ⟨hget', List.mem_map.mpr ⟨_, hr, rfl⟩⟩

/-- The fields are looked up in their own records. -/
theorem looksUp_own (fields : List (UInt64 × Option ByteVec)) (h : FieldsIncreasing fields) :
    LooksUp ⟨tlvRecords fields⟩ fields :=
  fun f hf => get_tlvRecords fields h f.1 f.2 hf

/-- Dropping the records that are not named leaves no more bytes. -/
theorem looksUp_shrinks (s : TlvStream) (hs : s.Increasing)
    (fields : List (UInt64 × Option ByteVec)) (h : FieldsIncreasing fields)
    (hget : LooksUp s fields) :
    (TlvStream.encode ⟨tlvRecords fields⟩).length ≤ s.encode.length := by
  rw [← filter_eq_tlvRecords s hs fields h hget]
  exact (List.filter_sublist.flatMap TlvRecord.encode).length_le

section

variable {α : Type} {encode : α → Outcome BoltError Bytes} {decode : Bytes → Outcome BoltError α}
variable {fixedPart : α → Bytes} {fields : α → List (UInt64 × Option ByteVec)}
variable {types knownEven : List UInt64} {Fits : α → Prop} {Extracts : TlvStream → α → Prop}

theorem TlvEncoder.fieldsIncreasing
    (codec : TlvEncoder encode decode fixedPart fields types knownEven Fits Extracts) (m : α) :
    FieldsIncreasing (fields m) := by
  unfold FieldsIncreasing
  rw [codec.types_eq m]
  exact codec.increasing

/-- What such a codec encodes it decodes. -/
theorem TlvEncoder.reads_own
    (codec : TlvEncoder encode decode fixedPart fields types knownEven Fits Extracts) (m : α)
    (h : Fits m) :
    decode (fixedPart m ++ TlvStream.encode ⟨tlvRecords (fields m)⟩) = .ok m := by
  have heven : ∀ t ∈ (fields m).map Prod.fst, t % 2 = 0 → t ∈ knownEven := by
    rw [codec.types_eq m]
    exact codec.known
  have hrecords := decode_tlvRecords knownEven (fields m) (codec.fieldsIncreasing m) heven
  exact codec.decode_stream m _ _ h hrecords (codec.extracts_own m)

/-- An accepted payload is the fixed part followed by an admitted stream, and
    the encoding of its result is no longer. -/
theorem TlvCodec.canonical
    (codec : TlvCodec encode decode fixedPart fields types knownEven Fits Extracts)
    (payload : Bytes) (m : α) (h : decode payload = .ok m) :
    ∃ s : TlvStream, payload = fixedPart m ++ s.encode
      ∧ Admitted knownEven none s.records ∧ Extracts s m ∧ Fits m
      ∧ (fixedPart m ++ TlvStream.encode ⟨tlvRecords (fields m)⟩).length ≤ payload.length := by
  rcases codec.decode_eq_ok payload m h with ⟨s, data, hpayload, hfits, hs, hext⟩
  rcases (TlvStream.decodeWithKnown_eq_ok data knownEven s).mp hs with ⟨hdata, hadm⟩
  have hinc : s.Increasing := ((admitted_iff knownEven s.records).mp hadm).1
  have hshort := codec.shrinks m s hinc hext
  refine ⟨s, by rw [hpayload, hdata], hadm, hext, hfits, ?_⟩
  rw [hpayload, hdata, List.length_append, List.length_append]
  omega

end

end Bolt

end LnGossipSim
