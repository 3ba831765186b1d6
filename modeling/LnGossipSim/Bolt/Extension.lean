import LnGossipSim.Bolt.Layout
import LnGossipSim.Bolt.TlvErrors

/-!
# Extensions of a Message

What a decoder makes of data it does not know. A codec without a TLV stream
ignores whatever follows its last field. A codec with one skips every record of
an odd type it does not name, wherever in the stream it stands, and rejects the
first record of an even type it does not know.

The extension records are merged into the stream in the order of their types.
The merged stream is sorted again, and looking up a type a message names finds
what it found before, since no extension record has such a type. An even type
splits the stream at the smallest one: the records before it are admitted, so
the loop reaches it whatever stands behind it.

## Main definitions

* `mergeByType`: Two lists of records in the order of their types.
* `Message.Unnamed`: Records of distinct types that a message does not name.

## Theorems

* `mergeByType_increasing`: Records of distinct types merge to a stream.
* `Message.looksUp_merged`: The fields are looked up as before.
* `Message.decode_trailing`: Without a stream, what follows is ignored.
* `Message.decode_odd`: Odd extension records change nothing.
* `Message.decode_even`: The smallest even extension type is rejected.
* `Message.extension_tolerance`: What becomes of an extended message.
-/

namespace LnGossipSim

namespace Bolt

open Codec

/-- The records of two lists in the order of their types. -/
def mergeByType (own extras : List TlvRecord) : List TlvRecord :=
  (own ++ extras).insertionSort (fun r r' => r.tlvType ≤ r'.tlvType)

theorem mem_mergeByType (own extras : List TlvRecord) (r : TlvRecord) :
    r ∈ mergeByType own extras ↔ r ∈ own ∨ r ∈ extras := by
  unfold mergeByType
  rw [List.mem_insertionSort, List.mem_append]

/-- Merged records are sorted, without repetition when their types are
    distinct. -/
theorem mergeByType_increasing (own extras : List TlvRecord)
    (h : ((own ++ extras).map TlvRecord.tlvType).Nodup) :
    TlvStream.Increasing ⟨mergeByType own extras⟩ := by
  have htotal : Std.Total (fun r r' : TlvRecord => r.tlvType ≤ r'.tlvType) :=
    ⟨fun r r' => UInt64.le_total r.tlvType r'.tlvType⟩
  have htrans : IsTrans TlvRecord (fun r r' => r.tlvType ≤ r'.tlvType) :=
    ⟨fun _ _ _ => UInt64.le_trans⟩
  have hsorted := List.pairwise_insertionSort (fun r r' : TlvRecord => r.tlvType ≤ r'.tlvType)
    (own ++ extras)
  have hnodup : ((mergeByType own extras).map TlvRecord.tlvType).Nodup :=
    ((List.perm_insertionSort _ (own ++ extras)).map TlvRecord.tlvType).nodup_iff.mpr h
  have hne := List.pairwise_map.mp hnodup
  exact hsorted.imp₂ (fun _ _ hle hne => UInt64.lt_of_le_of_ne hle hne) hne

namespace Message

variable {S : Secp256k1}

/-- Records a message does not name, with one record for each type. -/
structure Unnamed (m : Message S) (extras : List TlvRecord) : Prop where
  distinct : (extras.map TlvRecord.tlvType).Nodup
  unnamed : ∀ r ∈ extras, r.tlvType ∉ m.namedTypes

/-- The stream of a message stays sorted when records it does not name are
    merged into it. -/
theorem merged_increasing (m : Message S) (extras : List TlvRecord) (h : m.Unnamed extras) :
    TlvStream.Increasing ⟨mergeByType m.records extras⟩ := by
  refine mergeByType_increasing m.records extras ?_
  rw [List.map_append, List.nodup_append]
  refine ⟨?_, h.distinct, ?_⟩
  · have hinc := m.records_increasing
    exact List.pairwise_map.mpr (hinc.imp (fun hlt => UInt64.ne_of_lt hlt))
  · intro t ht u hu htu
    rcases List.mem_map.mp ht with ⟨r, hr, hrt⟩
    rcases List.mem_map.mp hu with ⟨r', hr', hrt'⟩
    refine h.unnamed r' hr' ?_
    rw [hrt', ← htu, ← hrt]
    exact m.named_of_mem_records r hr

/-- The fields of a message are looked up in the merged stream as they are in
    its own. -/
theorem looksUp_merged (m : Message S) (extras : List TlvRecord) (h : m.Unnamed extras) :
    LooksUp ⟨mergeByType m.records extras⟩ m.tlvFields := by
  intro f hf
  have hown : TlvStream.get ⟨m.records⟩ f.1 = f.2 :=
    looksUp_own m.tlvFields m.tlvFields_increasing f hf
  -- A present field is found where it was, an absent one stays absent.
  cases hv : f.2 with
  | some v =>
      rw [TlvStream.get_eq_some _ (m.merged_increasing extras h), mem_mergeByType]
      left
      rw [hv, TlvStream.get_eq_some _ m.records_increasing] at hown
      exact hown
  | none =>
      rw [hv, TlvStream.get_eq_none] at hown
      rw [TlvStream.get_eq_none]
      intro r hr
      rcases (mem_mergeByType _ _ r).mp hr with hrec | hextra
      · exact hown r hrec
      · intro ht
        refine h.unnamed r hextra ?_
        rw [ht]
        exact List.mem_map_of_mem hf

/-- A record that no even extension record precedes stands behind admitted
    records only. -/
theorem merged_admitted_before (m : Message S) (extras before after : List TlvRecord)
    (h : m.Unnamed extras) (hsplit : mergeByType m.records extras = before ++ after)
    (hodd : ∀ b ∈ before, b ∈ extras → b.tlvType % 2 ≠ 0) : Admitted m.knownEven none before := by
  have hinc : (mergeByType m.records extras).Pairwise (fun r r' => r.tlvType < r'.tlvType) :=
    m.merged_increasing extras h
  rw [hsplit, List.pairwise_append] at hinc
  rw [admitted_iff]
  refine ⟨hinc.1, ?_⟩
  intro b hb heven
  have hmem : b ∈ mergeByType m.records extras := by
    rw [hsplit]
    exact List.mem_append_left after hb
  rcases (mem_mergeByType _ _ b).mp hmem with hrec | hextra
  · exact m.known_of_named b.tlvType (m.named_of_mem_records b hrec) heven
  · exact absurd heven (hodd b hb hextra)

/-- A codec without a stream ignores what follows its last field. -/
theorem decode_trailing (hS : S.ParsesSerialized) (m : Message S) (h : m.LengthsFit)
    (hknown : ¬ m.IsUnknown) (hplain : ¬ m.HasStream) (s : Bytes) :
    decode (WireFormat.write m.msgType ++ m.bodyBytes ++ s) = .ok m := by
  have hfits := fits_of_lengthsFit hS m h
  rw [List.append_assoc, decode_eq_ok]
  refine ⟨m.bodyBytes ++ s, rfl, ?_⟩
  -- Each codec reads its message back in front of any bytes.
  cases m with
  | warning m => exact ChannelNotice.decodesBack m s hfits
  | error m => exact ChannelNotice.decodesBack m s hfits
  | ping m => exact Ping.decodesBack m s hfits
  | pong m => exact Pong.decodesBack m s hfits
  | fundingCreated m => exact FundingCreated.decodesBack m s hfits
  | channelAnnouncement m => exact ChannelAnnouncement.decodesBack m s hfits
  | nodeAnnouncement m => exact NodeAnnouncement.decodesBack m s hfits
  | channelUpdate m => exact ChannelUpdate.decodesBack m s hfits
  | unknown t payload => exact absurd trivial hknown
  | _ => exact absurd trivial hplain

/-- Extension records of odd types change nothing. -/
theorem decode_odd (hS : S.ParsesSerialized) (m : Message S) (h : m.LengthsFit)
    (hstream : m.HasStream) (extras : List TlvRecord) (hextras : m.Unnamed extras)
    (hodd : ∀ r ∈ extras, r.tlvType % 2 ≠ 0) :
    decode (m.front ++ TlvStream.encode ⟨mergeByType m.records extras⟩) = .ok m := by
  have hadm := m.merged_admitted_before extras (mergeByType m.records extras) [] hextras
    (List.append_nil _).symm (fun b _ hb => hodd b hb)
  refine decode_looksUp hS m h hstream ⟨mergeByType m.records extras⟩ _ ?_
    (m.looksUp_merged extras hextras)
  rw [TlvStream.decodeWithKnown_eq_ok]
  exact ⟨rfl, hadm⟩

/-- The smallest even type among the extension records is rejected, whatever
    surrounds its record. -/
theorem decode_even (hS : S.ParsesSerialized) (m : Message S) (h : m.LengthsFit)
    (hstream : m.HasStream) (extras : List TlvRecord) (hextras : m.Unnamed extras) (r : TlvRecord)
    (hr : r ∈ extras) (heven : r.tlvType % 2 = 0)
    (hleast : ∀ r' ∈ extras, r'.tlvType % 2 = 0 → r.tlvType ≤ r'.tlvType) :
    (decode (m.front ++ TlvStream.encode ⟨mergeByType m.records extras⟩)
        : Outcome BoltError (Message S)) = .err (.tlvUnknownEvenType r.tlvType) := by
  have hinc : (mergeByType m.records extras).Pairwise (fun r r' => r.tlvType < r'.tlvType) :=
    m.merged_increasing extras hextras
  have hmem : r ∈ mergeByType m.records extras := (mem_mergeByType _ _ r).mpr (Or.inr hr)
  -- Cut the merged stream at the record: the loop reads up to it.
  rcases List.append_of_mem hmem with ⟨before, after, hsplit⟩
  rw [hsplit, List.pairwise_append] at hinc
  have hbelow : ∀ b ∈ before, b.tlvType < r.tlvType :=
    fun b hb => hinc.2.2 b hb r List.mem_cons_self
  have hadm := m.merged_admitted_before extras before (r :: after) hextras hsplit (by
    intro b hb hextra hbeven
    exact absurd (hleast b hextra hbeven) (UInt64.not_le.mpr (hbelow b hb)))
  have hunknown : r.tlvType ∉ m.knownEven :=
    fun hmem => hextras.unnamed r hr (m.named_of_known _ hmem)
  refine decode_streamError hS m h hstream _ _ ?_
  rw [hsplit]
  exact TlvStream.decodeWithKnown_unknownEven m.knownEven before after r hadm hbelow heven hunknown

/-- What becomes of a message with extension data. Bytes that follow a message
    without a stream are ignored. Records that a message with a stream does not
    name, merged into it in the order of their types, are ignored when all of
    them are odd, and rejected for the smallest even type otherwise. -/
theorem extension_tolerance (hS : S.ParsesSerialized) (m : Message S) (h : m.LengthsFit)
    (hknown : ¬ m.IsUnknown) :
    ∃ out, m.encode = .ok out
      ∧ (¬ m.HasStream → ∀ s, decode (out ++ s) = .ok m)
      ∧ (m.HasStream → out = m.front ++ TlvStream.encode ⟨m.records⟩
        ∧ ∀ extras, m.Unnamed extras →
          ((∀ r ∈ extras, r.tlvType % 2 ≠ 0) →
            decode (m.front ++ TlvStream.encode ⟨mergeByType m.records extras⟩) = .ok m)
          ∧ ∀ r ∈ extras, r.tlvType % 2 = 0 →
            (∀ r' ∈ extras, r'.tlvType % 2 = 0 → r.tlvType ≤ r'.tlvType) →
            (decode (m.front ++ TlvStream.encode ⟨mergeByType m.records extras⟩)
              : Outcome BoltError (Message S)) = .err (.tlvUnknownEvenType r.tlvType)) := by
  refine ⟨_, encode_eq m, ?_, ?_⟩
  · exact fun hplain => decode_trailing hS m h hknown hplain
  · intro hstream
    have hlayout := encode_layout m
    rw [encode_eq, Outcome.ok.injEq] at hlayout
    refine ⟨hlayout, ?_⟩
    intro extras hextras
    refine ⟨decode_odd hS m h hstream extras hextras, ?_⟩
    intro r hr heven hleast
    exact decode_even hS m h hstream extras hextras r hr heven hleast

/-- An init with two records after its remote address, and with one of an even
    type before it. -/
theorem extension_tolerance_init :
    (decode [0, 16, 0, 0, 0, 1, 2, 3, 1, 0x7f, 5, 1, 1, 7, 0]
      : Outcome BoltError (Message Secp256k1.transparent))
        = .ok (.init ⟨[], [0x02], none, some ⟨[0x7f], by decide⟩⟩)
      ∧ (decode [0, 16, 0, 0, 0, 1, 2, 2, 0, 3, 1, 0x7f, 4, 1, 1, 7, 0]
        : Outcome BoltError (Message Secp256k1.transparent)) = .err (.tlvUnknownEvenType 2) := by
  rcases extension_tolerance Secp256k1.transparent_parsesSerialized
    (.init ⟨[], [0x02], none, some ⟨[0x7f], by decide⟩⟩)
    ⟨Nat.zero_le 65535, Nat.le_of_ble_eq_true rfl⟩ id with ⟨out, -, -, hstream⟩
  have hextras := (hstream trivial).2
  refine ⟨?_, ?_⟩
  · exact (hextras [⟨7, ⟨[], by decide⟩⟩, ⟨5, ⟨[1], by decide⟩⟩] ⟨by decide, by decide⟩).1
      (by decide)
  · exact (hextras [⟨4, ⟨[1], by decide⟩⟩, ⟨7, ⟨[], by decide⟩⟩, ⟨2, ⟨[], by decide⟩⟩]
      ⟨by decide, by decide⟩).2 ⟨2, ⟨[], by decide⟩⟩ (by decide) (by decide) (by decide)

end Message

end Bolt

end LnGossipSim
