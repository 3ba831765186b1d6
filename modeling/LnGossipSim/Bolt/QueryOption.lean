import LnGossipSim.Bolt.RangeQuery
import LnGossipSim.Bolt.TlvGrammar

/-!
# The Option of a Range Query

What an accepted `query_channel_range` says about the value of its one known
record. The payload is the fixed part followed by a stream of odd types, and
the flags are at the front of the value. Nothing looks at what is left of the
value, so a value that goes on behind its `BigSize` is accepted for the same
flags as the value that does not. The `networks` record of an `init` is checked
for a remainder, and this one is not.

The first byte of a `BigSize` announces how many bytes it takes. A value is
consumed exactly when that is its length, which is a condition on the payload
alone.

## Main definitions

* `announcedWidth`: The length a first byte announces.
* `optionValue`: The value of the record in a payload.
* `OptionFills`: The value is as long as its first byte announces.

## Theorems

* `length_eq_announced_iff`: Such a value has nothing behind its number.
* `query_option_exact`: When the value is consumed exactly.
* `query_option_trailing`: A value with a byte left over.
-/

namespace LnGossipSim

namespace Bolt

open BigEndian

namespace QueryChannelRange

/-- Size of the fields before the TLV stream. -/
def fixedSize : Nat := 40

/-- How many bytes a `BigSize` with this first byte takes. -/
def announcedWidth (first : UInt8) : Nat :=
  if first ≤ 0xfc then 1
  else if first = 0xfd then 3
  else if first = 0xfe then 5
  else 9

/-- The value of the payload's record for the flags, when its stream has
    one. -/
def optionValue (payload : Bytes) : Option ByteVec :=
  (TlvStream.decode (payload.drop fixedSize)).toOption.bind
    fun stream => stream.get tlvQueryOption

/-- The value for the flags, when there is one, is as long as its first byte
    announces. -/
def OptionFills (payload : Bytes) : Prop :=
  ∀ value first, optionValue payload = some value → value.val.head? = some first →
    value.val.length = announcedWidth first

/-- The first byte of a number that is written announces its length. -/
theorem write_head (n : BigSize) :
    ∃ first tail, WireFormat.write n = first :: tail
      ∧ announcedWidth first = (WireFormat.write n).length := by
  change ∃ first tail, writeBigSize n = first :: tail
    ∧ announcedWidth first = (writeBigSize n).length
  rw [writeBigSize_eq]
  by_cases h1 : n.value.toNat < 0xfd
  · rw [if_pos h1]
    refine ⟨_, _, rfl, ?_⟩
    have hfirst : UInt8.ofNat n.value.toNat ≤ 0xfc := by
      rw [UInt8.le_iff_toNat_le, UInt8.toNat_ofNat']
      change n.value.toNat % 2 ^ 8 ≤ 252
      omega
    unfold announcedWidth
    rw [if_pos hfirst]
    rfl
  · rw [if_neg h1]
    -- The three wider forms start with a byte of their own.
    split_ifs with h2 h3
    · refine ⟨_, _, rfl, ?_⟩
      rw [List.length_cons, beBytes_length]
      decide
    · refine ⟨_, _, rfl, ?_⟩
      rw [List.length_cons, beBytes_length]
      decide
    · refine ⟨_, _, rfl, ?_⟩
      rw [List.length_cons, beBytes_length]
      decide

/-- A value that starts with a number is as long as its first byte announces
    when nothing follows the number, and only then. -/
theorem length_eq_announced_iff (n : BigSize) (rest : Bytes) :
    (∀ first, (WireFormat.write n ++ rest).head? = some first →
        (WireFormat.write n ++ rest).length = announcedWidth first)
      ↔ rest = [] := by
  rcases write_head n with ⟨first, tail, hwrite, hwidth⟩
  have hhead : (WireFormat.write n ++ rest).head? = some first := by
    rw [hwrite, List.cons_append, List.head?_cons]
  rw [hhead, List.length_append]
  constructor
  · intro h
    have hlen := h first rfl
    rw [hwidth] at hlen
    exact List.eq_nil_of_length_eq_zero (by omega)
  · intro h first' hfirst'
    rw [← Option.some.inj hfirst', h, hwidth, List.length_nil, Nat.add_zero]

theorem fixedPart_length (m : QueryChannelRange) : m.fixedPart.length = fixedSize := by
  unfold fixedPart
  simp only [List.length_append, write_byteArr_length, write_uInt32_length]
  rfl

/-- Behind a fixed part and an admitted stream, the value is that of the
    stream. -/
theorem optionValue_eq (m : QueryChannelRange) (s : TlvStream)
    (hs : TlvStream.decodeWithKnown s.encode [] = .ok s) :
    optionValue (m.fixedPart ++ s.encode) = s.get tlvQueryOption := by
  have hdrop : (m.fixedPart ++ s.encode).drop fixedSize = s.encode :=
    List.drop_left' m.fixedPart_length
  unfold optionValue
  rw [hdrop, TlvStream.decode, hs]
  rfl

/-- What is written for a query has the flags as its whole value. -/
theorem optionValue_own (m : QueryChannelRange) :
    optionValue (m.fixedPart ++ TlvStream.encode ⟨tlvRecords m.fields⟩)
      = m.queryOption.map bigSizeValue := by
  have hodd : ¬ tlvQueryOption % 2 = 0 := by decide
  have hs := decode_tlvRecords [] m.fields m.fields_increasing
    (List.forall_mem_singleton.mpr fun heven => absurd heven hodd)
  rw [optionValue_eq m _ hs]
  exact looksUp_own m.fields m.fields_increasing _ List.mem_cons_self

/-- An accepted payload, with the stream behind its fixed part. -/
theorem accepted_stream (payload : Bytes) (m : QueryChannelRange) (h : decode payload = .ok m) :
    ∃ s, payload = m.fixedPart ++ s.encode
      ∧ TlvStream.decodeWithKnown s.encode [] = .ok s ∧ Extracts s m
      ∧ optionValue payload = s.get tlvQueryOption := by
  rcases decode_eq_ok payload m h with ⟨s, data, hpayload, -, hs, hext⟩
  have hdata := ((TlvStream.decodeWithKnown_eq_ok data [] s).mp hs).1
  rw [hdata] at hpayload hs
  exact ⟨s, hpayload, hs, hext, by rw [hpayload, optionValue_eq m s hs]⟩

/-- The value of an accepted payload is the flags and what nothing reads. -/
theorem optionValue_of_extracts (payload : Bytes) (s : TlvStream) (m : QueryChannelRange)
    (hext : Extracts s m) (hvalue : optionValue payload = s.get tlvQueryOption) :
    (m.queryOption = none ∧ optionValue payload = none)
      ∨ ∃ n value rest, m.queryOption = some n ∧ optionValue payload = some value
        ∧ value.val = WireFormat.write (⟨n⟩ : BigSize) ++ rest := by
  unfold Extracts at hext
  rw [hvalue]
  cases hopt : m.queryOption with
  | none =>
      rw [hopt] at hext
      exact Or.inl ⟨rfl, hext⟩
  | some n =>
      rw [hopt] at hext
      rcases hext with ⟨value, rest, hget, hval⟩
      exact Or.inr ⟨n, value, rest, rfl, hget, hval⟩

/-- The value fills its record exactly when it is the flags as they are
    written. -/
theorem optionFills_iff (payload : Bytes) (s : TlvStream) (m : QueryChannelRange)
    (hext : Extracts s m) (hvalue : optionValue payload = s.get tlvQueryOption) :
    OptionFills payload ↔ optionValue payload = m.queryOption.map bigSizeValue := by
  rcases optionValue_of_extracts payload s m hext hvalue with
    ⟨hopt, hnone⟩ | ⟨n, value, rest, hopt, hsome, hval⟩
  · rw [hopt, hnone]
    refine ⟨fun _ => rfl, fun _ value first hv => ?_⟩
    rw [hnone] at hv
    exact nomatch hv
  · have hiff := length_eq_announced_iff ⟨n⟩ rest
    have hfills : OptionFills payload ↔ rest = [] := by
      rw [← hiff, ← hval]
      unfold OptionFills
      rw [hsome]
      exact ⟨fun h first => h value first rfl,
        fun h v first hv => by rw [← Option.some.inj hv]; exact h first⟩
    rw [hfills, hopt, hsome, Option.map_some, Option.some.injEq, Subtype.ext_iff, hval]
    exact List.append_right_eq_self.symm

/-- What is accepted, and when the value for the flags is consumed exactly. The
    payload is 40 bytes and a stream of odd types. The value is the flags as they
    are written exactly when its length is the one its first byte announces.
    Among payloads of that kind different values are different flags, and a
    payload that is not of that kind is taken for one that is. -/
theorem query_option_exact (payload : Bytes) (m : QueryChannelRange)
    (h : decode payload = .ok m) :
    (∃ s : TlvStream, payload = m.fixedPart ++ s.encode ∧ m.fixedPart.length = 40
      ∧ TlvGrammar [] s.records s.encode ∧ (∀ r ∈ s.records, r.tlvType % 2 ≠ 0)
      ∧ s.get tlvQueryOption = optionValue payload)
    ∧ ((∀ value, optionValue payload = some value →
          ∃ n, m.queryOption = some n ∧ value.val = WireFormat.write (⟨n⟩ : BigSize))
        ↔ OptionFills payload)
    ∧ (OptionFills payload ↔ ∀ payload' m', decode payload' = .ok m' → OptionFills payload' →
        optionValue payload' ≠ optionValue payload → m'.queryOption ≠ m.queryOption) := by
  rcases accepted_stream payload m h with ⟨s, hpayload, hs, hext, hvalue⟩
  have hadm := ((TlvStream.decodeWithKnown_eq_ok s.encode [] s).mp hs).2
  have hfills := optionFills_iff payload s m hext hvalue
  refine ⟨⟨s, hpayload, m.fixedPart_length, ?_, ?_, hvalue.symm⟩, ?_, ?_⟩
  · exact (tlvGrammar_iff [] s.records s.encode).mpr ⟨rfl, hadm⟩
  · intro r hr heven
    exact absurd (((admitted_iff [] s.records).mp hadm).2 r hr heven) List.not_mem_nil
  · rw [hfills]
    rcases optionValue_of_extracts payload s m hext hvalue with
      ⟨hopt, hnone⟩ | ⟨n, value, rest, hopt, hsome, hval⟩
    · rw [hopt, hnone]
      exact ⟨fun _ => rfl, fun _ value hv => nomatch hv⟩
    · rw [hopt, hsome, Option.map_some]
      constructor
      · intro hall
        rcases hall value rfl with ⟨n', hn', hv⟩
        rw [← Option.some.inj hn'] at hv
        exact congrArg some (Subtype.ext hv)
      · intro heq v hv
        rw [← Option.some.inj hv, Option.some.inj heq]
        exact ⟨n, rfl, rfl⟩
  · constructor
    · intro hfill payload' m' h' hfill' hne hsame
      rcases accepted_stream payload' m' h' with ⟨s', -, -, hext', hvalue'⟩
      -- Both values are the flags as they are written, and the flags are the same.
      rw [(optionFills_iff payload' s' m' hext' hvalue').mp hfill', hfills.mp hfill, hsame] at hne
      exact hne rfl
    · intro hall
      by_contra hfill
      -- The encoding of the query decodes to the same flags, and has no other value.
      have hown : decode (m.fixedPart ++ TlvStream.encode ⟨tlvRecords m.fields⟩) = .ok m :=
        tlvCodec.reads_own m trivial
      rcases accepted_stream _ m hown with ⟨s', -, -, hext', hvalue'⟩
      have hfill' := (optionFills_iff _ s' m hext' hvalue').mpr m.optionValue_own
      refine hall _ m hown hfill' ?_ rfl
      rw [m.optionValue_own]
      exact fun hsame => hfill (hfills.mpr hsame.symm)

/-- A query with the flags 5 and nothing behind them. -/
theorem query_option_exact_five :
    OptionFills (List.replicate 40 0 ++ [1, 1, 5]) := by
  let m : QueryChannelRange := ⟨List.Vector.replicate 32 0, 0, 0, some 5⟩
  refine (query_option_exact _ m (by decide +kernel)).2.1.mp ?_
  intro value hvalue
  have hfive : optionValue (List.replicate 40 0 ++ [1, 1, 5]) = some (bigSizeValue 5) := by
    decide +kernel
  rw [hfive] at hvalue
  exact ⟨5, rfl, by rw [← Option.some.inj hvalue]; rfl⟩

/-- A query with the flags 5, and the same with a byte behind them: both are
    accepted, for the same flags. -/
theorem query_option_trailing :
    let front : Bytes := List.replicate 40 0
    let exactly := front ++ [1, 1, 5]
    let longer := front ++ [1, 2, 5, 0xff]
    ∃ m m', decode exactly = .ok m ∧ decode longer = .ok m'
      ∧ (optionValue longer).map Subtype.val = some [5, 0xff]
      ∧ optionValue longer ≠ optionValue exactly ∧ m'.queryOption = m.queryOption
      ∧ ∀ n : BigSize, WireFormat.write n ≠ [5, 0xff] := by
  intro front exactly longer
  let m : QueryChannelRange := ⟨List.Vector.replicate 32 0, 0, 0, some 5⟩
  refine ⟨m, m, by decide +kernel, by decide +kernel, by decide +kernel, by decide +kernel, rfl, ?_⟩
  intro n hn
  rcases write_head n with ⟨first, tail, hwrite, hwidth⟩
  rw [hn] at hwrite hwidth
  rw [← (List.cons.inj hwrite).1] at hwidth
  exact absurd hwidth (by decide)

end QueryChannelRange

end Bolt

end LnGossipSim
