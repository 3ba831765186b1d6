import LnGossipSim.Bolt.RangeQuery

/-!
# Short Channel IDs of a Range Reply

The builder of a `reply_channel_range` and the parser of its short channel
ids. The builder writes the encoding type and then eight bytes for each id, and
the parser cuts what follows the type into arrays of eight bytes, so the parser
undoes the builder for a list of any length.

The wire format does not. The encoded ids are written behind a 16-bit length,
and a length that does not fit wraps around without an error. A reply survives
the wire exactly when its encoded ids fit the prefix, which is when it has at
most 8191 of them. With one more, the reader takes the ids for a TLV stream.

## Main definitions

* `ReplyChannelRange.fromScids`: The builder.
* `ReplyChannelRange.shortChannelIds`: The parser of the encoded ids.

## Theorems

* `encodedShortIds_eq`: What the builder encodes.
* `shortChannelIds_fromScids`: The parser undoes the builder.
* `shortChannelIds_eq`: The parser on the bytes behind the encoding type.
* `short_channel_ids_exact`: What the parser accepts, and how it rejects.
* `decode_encode_iff`: When a reply survives the wire.
* `reply_survives`: When a reply that was built does.
* `reply_loses_ids`: One id too many.
-/

namespace LnGossipSim

namespace Bolt

open BigEndian Codec

/-- `encoding_type` for an uncompressed list of short channel IDs. -/
def encodingUncompressed : UInt8 := 0

/-- Size of a short channel ID on the wire. -/
def scidSize : Nat := 8

namespace ReplyChannelRange

/-- Builds a reply whose `encodedShortIds` is the uncompressed encoding of the
    ids. -/
def fromScids (chainHash : ByteArr chainHashSize) (firstBlocknum numberOfBlocks : UInt32)
    (syncComplete : Bool) (scids : List UInt64) : ReplyChannelRange :=
  let encodedShortIds := scids.foldl (fun out scid => out ++ WireFormat.write scid)
    (WireFormat.write encodingUncompressed)
  { chainHash, firstBlocknum, numberOfBlocks, syncComplete := if syncComplete then 1 else 0,
    encodedShortIds, tlvs := { timestamps := none, checksums := none } }

/-- Decodes the short channel IDs when they are uncompressed. -/
def shortChannelIds (m : ReplyChannelRange) : Outcome BoltError (List UInt64) := do
  let (encodingType, cursor) ← readAs UInt8 m.encodedShortIds
  Outcome.rejectIf (encodingType ≠ encodingUncompressed) (.unknownEncoding encodingType)
  let (chunks, remainder) := Slice.asChunks scidSize cursor
  Outcome.rejectIf (remainder ≠ []) (.truncated ((chunks.length + 1) * scidSize) cursor.length)
  return chunks.map fun c => UInt64.ofNat (beNat c.toList)

section

variable (chainHash : ByteArr chainHashSize) (firstBlocknum numberOfBlocks : UInt32)
variable (syncComplete : Bool) (scids : List UInt64)

/-- The encoding type, followed by the ids. -/
theorem encodedShortIds_eq :
    (fromScids chainHash firstBlocknum numberOfBlocks syncComplete scids).encodedShortIds
      = WireFormat.write encodingUncompressed ++ scids.flatMap WireFormat.write := by
  have hfold : ∀ (ids : List UInt64) (out : Bytes),
      ids.foldl (fun out scid => out ++ WireFormat.write scid) out
        = out ++ ids.flatMap WireFormat.write := by
    intro ids
    induction ids with
    | nil => exact fun out => (List.append_nil out).symm
    | cons scid ids ih =>
        intro out
        rw [List.foldl_cons, ih, List.flatMap_cons, List.append_assoc]
  exact hfold scids _

/-- An id as the array it is cut out as. -/
def scidChunk (scid : UInt64) : ByteArr scidSize :=
  Slice.pack (WireFormat.write scid) (writeInt_length scidSize UInt64.toNat scid)

theorem flatMap_scidChunk :
    (scids.map scidChunk).flatMap List.Vector.toList = scids.flatMap WireFormat.write :=
  List.flatMap_map _ _ scids

theorem encodedShortIds_length :
    (fromScids chainHash firstBlocknum numberOfBlocks syncComplete scids).encodedShortIds.length
      = 1 + scids.length * scidSize := by
  have htype : (WireFormat.write encodingUncompressed).length = 1 := writeInt_length 1 _ _
  rw [encodedShortIds_eq, List.length_append, htype, ← flatMap_scidChunk,
    Slice.length_flatMap_toList, List.length_map]

/-- The parser undoes the builder, however many ids there are. -/
theorem shortChannelIds_fromScids :
    (fromScids chainHash firstBlocknum numberOfBlocks syncComplete scids).shortChannelIds
      = .ok scids := by
  -- Eight bytes an id leave no remainder.
  have hchunks : Slice.asChunks scidSize (scids.flatMap WireFormat.write)
      = (scids.map scidChunk, []) := by
    have hcut := Slice.asChunks_append scidSize (scids.map scidChunk) [] (by decide)
    rw [List.append_nil, flatMap_scidChunk] at hcut
    exact hcut
  have hback : ∀ scid : UInt64, UInt64.ofNat (beNat (scidChunk scid).toList) = scid := by
    intro scid
    change UInt64.ofNat (beNat (beBytes 8 scid.toNat)) = scid
    rw [beNat_beBytes 8 _ scid.toNat_lt, UInt64.ofNat_toNat]
  unfold shortChannelIds
  rw [encodedShortIds_eq, read_write, Outcome.ok_bind]
  simp only [hchunks]
  rw [Outcome.rejectIf_of_not _ _ (not_not.mpr rfl), Outcome.ok_bind,
    Outcome.rejectIf_of_not _ _ (not_not.mpr rfl), Outcome.ok_bind, List.map_map]
  have hmap : scids.map ((fun c : ByteArr scidSize => UInt64.ofNat (beNat c.toList)) ∘ scidChunk)
      = scids := by
    refine (List.map_congr_left (fun scid _ => hback scid)).trans ?_
    exact List.map_id scids
  rw [hmap]
  rfl

end

/-- The parser, on a first byte and what follows it. -/
theorem shortChannelIds_eq (m : ReplyChannelRange) (t : UInt8) (rest : Bytes)
    (h : m.encodedShortIds = t :: rest) :
    m.shortChannelIds
      = if t ≠ encodingUncompressed then .err (.unknownEncoding t)
        else if (Slice.asChunks scidSize rest).2 ≠ [] then
          .err (.truncated (((Slice.asChunks scidSize rest).1.length + 1) * scidSize) rest.length)
        else .ok ((Slice.asChunks scidSize rest).1.map fun c => UInt64.ofNat (beNat c.toList)) := by
  have hread : readAs UInt8 (t :: rest) = .ok (t, rest) := by
    have hback := read_write t rest
    have hone : WireFormat.write t = [t] := by
      change [UInt8.ofNat t.toNat] = [t]
      rw [UInt8.ofNat_toNat]
    rw [hone] at hback
    exact hback
  unfold shortChannelIds Outcome.rejectIf
  rw [h, hread, Outcome.ok_bind]
  simp only
  by_cases ht : t ≠ encodingUncompressed
  · rw [if_pos ht, if_pos ht, Outcome.err_bind]
  · rw [if_neg ht, if_neg ht, Outcome.ok_bind]
    by_cases hrem : (Slice.asChunks scidSize rest).2 ≠ []
    · simp only [if_pos hrem, Outcome.err_bind]
    · simp only [if_neg hrem, Outcome.ok_bind, Outcome.pure_eq_ok]

theorem shortChannelIds_nil (m : ReplyChannelRange) (h : m.encodedShortIds = []) :
    m.shortChannelIds = .err (.truncated 1 0) := by
  unfold shortChannelIds
  rw [h]
  rfl

/-- Arrays of eight bytes are the encodings of the ids they are read as. -/
theorem flatMap_write_chunks (chunks : List (ByteArr scidSize)) :
    (chunks.map fun c => UInt64.ofNat (beNat c.toList)).flatMap WireFormat.write
      = chunks.flatMap List.Vector.toList := by
  have hback : ∀ c : ByteArr scidSize,
      WireFormat.write (UInt64.ofNat (beNat c.toList)) = c.toList := by
    intro c
    have hlen : c.toList.length = 8 := c.toList_length
    have hlt := beNat_lt 8 c.toList hlen
    change beBytes 8 (UInt64.ofNat (beNat c.toList)).toNat = c.toList
    rw [UInt64.toNat_ofNat', Nat.mod_eq_of_lt (by omega), beBytes_beNat 8 c.toList hlen]
  rw [List.flatMap_map]
  exact List.flatMap_congr fun c _ => hback c

/-- The parser accepts exactly a zero byte and the ids. -/
theorem shortChannelIds_eq_ok (m : ReplyChannelRange) (ids : List UInt64) :
    m.shortChannelIds = .ok ids ↔ m.encodedShortIds = 0 :: ids.flatMap WireFormat.write := by
  constructor
  · intro h
    cases he : m.encodedShortIds with
    | nil =>
        rw [shortChannelIds_nil m he] at h
        exact nomatch h
    | cons t rest =>
        rw [shortChannelIds_eq m t rest he] at h
        split_ifs at h with ht hrem
        rw [← Outcome.ok.inj h, flatMap_write_chunks]
        -- Nothing is left over, so the arrays are all of the bytes.
        have hall := Slice.asChunks_flatten scidSize rest
        rw [not_not] at ht hrem
        rw [hrem, List.append_nil] at hall
        rw [hall, ht]
        rfl
  · intro h
    have hsame : m.encodedShortIds
        = (fromScids m.chainHash 0 0 true ids).encodedShortIds := by
      rw [encodedShortIds_eq, h]
      rfl
    have hids := shortChannelIds_fromScids m.chainHash 0 0 true ids
    unfold shortChannelIds at hids ⊢
    rw [hsame]
    exact hids

/-- What the parser of the ids accepts and how it rejects everything else. It
    accepts a zero byte followed by eight big-endian bytes for each id, so what
    the builder encodes. Another first byte is an unknown encoding, and whatever
    is left is reported truncated. -/
theorem short_channel_ids_exact (m : ReplyChannelRange) :
    (∀ ids, m.shortChannelIds = .ok ids
        ↔ m.encodedShortIds = 0 :: ids.flatMap fun id => beBytes 8 id.toNat)
      ∧ (∀ t, m.shortChannelIds = .err (.unknownEncoding t)
        ↔ t ≠ 0 ∧ ∃ rest, m.encodedShortIds = t :: rest)
      ∧ ((∃ expected actual, actual < expected
          ∧ m.shortChannelIds = .err (.truncated expected actual))
        ↔ (¬ ∃ ids : List UInt64, m.encodedShortIds = 0 :: ids.flatMap fun id =>
            beBytes 8 id.toNat)
          ∧ ¬ ∃ t rest, m.encodedShortIds = t :: rest ∧ t ≠ 0)
      ∧ ∀ chainHash firstBlocknum numberOfBlocks syncComplete scids,
        (fromScids chainHash firstBlocknum numberOfBlocks syncComplete scids).shortChannelIds
          = .ok scids := by
  refine ⟨shortChannelIds_eq_ok m, ?_, ?_, shortChannelIds_fromScids⟩
  · intro t
    cases he : m.encodedShortIds with
    | nil =>
        rw [shortChannelIds_nil m he]
        refine ⟨fun h => (nomatch h), fun h => ?_⟩
        rcases h with ⟨-, rest, hrest⟩
        exact nomatch hrest
    | cons first rest =>
        rw [shortChannelIds_eq m first rest he]
        constructor
        · intro h
          by_cases ht : first ≠ encodingUncompressed
          · rw [if_pos ht] at h
            rw [← BoltError.unknownEncoding.inj (Outcome.err.inj h)]
            exact ⟨ht, rest, rfl⟩
          · rw [if_neg ht] at h
            split_ifs at h
            exact absurd (Outcome.err.inj h) (by simp only [reduceCtorEq, not_false_eq_true])
        · intro h
          rcases h with ⟨ht, rest', hrest⟩
          have hother : first ≠ encodingUncompressed := by
            rw [(List.cons.inj hrest).1]
            exact ht
          rw [if_pos hother, (List.cons.inj hrest).1]
  · have hok := shortChannelIds_eq_ok m
    constructor
    · intro h
      rcases h with ⟨expected, actual, -, herr⟩
      refine ⟨fun hids => ?_, fun hfirst => ?_⟩
      · rcases hids with ⟨ids, hids⟩
        rw [(hok ids).mpr hids] at herr
        exact nomatch herr
      · rcases hfirst with ⟨t, rest, he, ht⟩
        have hother : t ≠ encodingUncompressed := ht
        rw [shortChannelIds_eq m t rest he, if_pos hother] at herr
        exact nomatch herr
    · intro h
      rcases h with ⟨hids, hfirst⟩
      cases he : m.encodedShortIds with
      | nil => exact ⟨1, 0, Nat.zero_lt_one, shortChannelIds_nil m he⟩
      | cons t rest =>
          have ht : ¬ t ≠ encodingUncompressed := fun hne => hfirst ⟨t, rest, he, hne⟩
          have hrun := shortChannelIds_eq m t rest he
          rw [if_neg ht] at hrun
          by_cases hrem : (Slice.asChunks scidSize rest).2 ≠ []
          · rw [if_pos hrem] at hrun
            refine ⟨_, _, ?_, hrun⟩
            -- The bytes are the whole ids and a remainder shorter than one.
            have hlen := congrArg List.length (Slice.asChunks_flatten scidSize rest)
            have hshort := Slice.asChunks_remainder_lt scidSize rest (by decide)
            rw [List.length_append, Slice.length_flatMap_toList] at hlen
            rw [Nat.succ_mul]
            omega
          · rw [if_neg hrem] at hrun
            exact absurd ⟨_, (hok _).mp hrun⟩ hids

/-- A reply survives the wire exactly when its encoded ids fit their length
    prefix. -/
theorem decode_encode_iff (m : ReplyChannelRange) :
    (m.encode >>= decode) = .ok m ↔ FitsVec m.encodedShortIds := by
  rw [m.encode_eq, Outcome.ok_bind]
  constructor
  · intro h
    rcases decode_eq_ok _ m h with ⟨_, _, _, hfits, _⟩
    exact hfits
  · exact tlvCodec.reads_own m

/-- A reply that was built survives the wire, with its ids, exactly when there
    are at most 8191 of them. -/
theorem reply_survives (chainHash : ByteArr chainHashSize) (firstBlocknum numberOfBlocks : UInt32)
    (syncComplete : Bool) (scids : List UInt64) :
    let r := fromScids chainHash firstBlocknum numberOfBlocks syncComplete scids
    (∃ r', (r.encode >>= decode) = .ok r' ∧ r' = r ∧ r'.shortChannelIds = .ok scids)
      ↔ scids.length ≤ 8191 := by
  intro r
  have hlength : r.encodedShortIds.length = 1 + scids.length * scidSize :=
    encodedShortIds_length chainHash firstBlocknum numberOfBlocks syncComplete scids
  -- 65535 bytes hold the encoding type and 8191 ids.
  have hfits : FitsVec r.encodedShortIds ↔ scids.length ≤ 8191 := by
    unfold FitsVec
    rw [hlength]
    unfold scidSize
    omega
  rw [← hfits, ← decode_encode_iff]
  constructor
  · intro h
    rcases h with ⟨r', hdecode, hsame, _⟩
    rw [hdecode, hsame]
  · intro h
    exact ⟨r, h, rfl,
      shortChannelIds_fromScids chainHash firstBlocknum numberOfBlocks syncComplete scids⟩

/-- A record of an odd type, 65536 bytes long. -/
def extensionRecord : TlvRecord :=
  ⟨5, ⟨List.replicate 65532 0, by rw [List.length_replicate]; decide⟩⟩

/-- The ids whose encoding is that record. -/
def extensionIds : List UInt64 := 0x05fdfffc00000000 :: List.replicate 8191 0

theorem extensionIds_encoding : extensionIds.flatMap WireFormat.write = extensionRecord.encode := by
  have hzeros : ∀ n, (List.replicate n (0 : UInt64)).flatMap WireFormat.write
      = List.replicate (n * 8) (0 : UInt8) := by
    intro n
    have hzero : WireFormat.write (0 : UInt64) = List.replicate 8 (0 : UInt8) := by decide
    induction n with
    | zero => rfl
    | succ n ih =>
        rw [List.replicate_succ, List.flatMap_cons, ih, hzero, List.replicate_append_replicate,
          Nat.succ_mul, Nat.add_comm]
  -- The first id spells the type and the length of the record.
  have hhead : WireFormat.write (0x05fdfffc00000000 : UInt64)
      = WireFormat.write (⟨5⟩ : BigSize) ++ WireFormat.write (⟨65532⟩ : BigSize)
        ++ List.replicate 4 (0 : UInt8) := by decide
  have hlength : UInt64.ofNat (List.replicate 65532 (0 : UInt8)).length = 65532 := by
    rw [List.length_replicate]
    decide
  unfold extensionIds extensionRecord TlvRecord.encode
  simp only [hlength]
  rw [List.flatMap_cons, hzeros, hhead, List.append_assoc, List.append_assoc,
    List.replicate_append_replicate, List.append_assoc]

/-- A reply with one id too many. The length of the encoded ids wraps around to
    one, and the ids are read as an extension record: the reply is accepted
    without any id. -/
theorem reply_loses_ids :
    let r := fromScids (List.Vector.replicate 32 0) 0 10 true extensionIds
    ∃ r', (r.encode >>= decode) = .ok r' ∧ r' ≠ r ∧ r'.shortChannelIds = .ok [] := by
  intro r
  let r' : ReplyChannelRange := { r with encodedShortIds := WireFormat.write encodingUncompressed }
  have hids : r.encodedShortIds
      = WireFormat.write encodingUncompressed ++ extensionRecord.encode := by
    rw [← extensionIds_encoding]
    exact encodedShortIds_eq _ _ _ _ _
  have hlength : r.encodedShortIds.length = 65537 := by
    refine (encodedShortIds_length _ _ _ _ _).trans ?_
    unfold extensionIds scidSize
    rw [List.length_cons, List.length_replicate]
  have hwrite : WireFormat.write r.encodedShortIds
      = WireFormat.write r'.encodedShortIds ++ extensionRecord.encode := by
    -- The length prefix is cut to 16 bits.
    have hwrap : UInt16.ofNat 65537
        = UInt16.ofNat (WireFormat.write encodingUncompressed).length := by decide
    change writeVec r.encodedShortIds = writeVec (WireFormat.write encodingUncompressed) ++ _
    unfold writeVec
    rw [hlength, hids, hwrap, List.append_assoc]
  have hrecord : TlvStream.decodeWithKnown extensionRecord.encode [] = .ok ⟨[extensionRecord]⟩ := by
    refine (TlvStream.decodeWithKnown_eq_ok _ _ _).mpr ⟨?_, ⟨fun _ h => ?_, by decide⟩, trivial⟩
    · exact (List.append_nil _).symm
    · exact nomatch h
  -- The reply names no field of that type.
  have hlooks : LooksUp ⟨[extensionRecord]⟩ r'.tlvs.fields := by
    refine List.forall_mem_cons.mpr ⟨?_, List.forall_mem_singleton.mpr ?_⟩
    · exact (TlvStream.get_eq_none _ _).mpr (List.forall_mem_singleton.mpr (by decide))
    · exact (TlvStream.get_eq_none _ _).mpr (List.forall_mem_singleton.mpr (by decide))
  have hfits : r'.Fits := by
    change (WireFormat.write encodingUncompressed).length ≤ 65535
    decide
  refine ⟨r', ?_, ?_, ?_⟩
  · rw [encode_eq, Outcome.ok_bind]
    have htail : TlvStream.encode ⟨tlvRecords r.tlvs.fields⟩ = [] := rfl
    have hbytes : r.fixedPart = r'.fixedPart ++ extensionRecord.encode := by
      unfold fixedPart
      rw [hwrite, ← List.append_assoc]
    rw [htail, List.append_nil, hbytes]
    exact decode_stream r' _ _ hfits hrecord hlooks
  · intro hsame
    have hshort : (WireFormat.write encodingUncompressed).length = 1 := by decide
    have hlong : (WireFormat.write encodingUncompressed).length = 65537 := by
      rw [← hlength, ← hsame]
    omega
  · exact shortChannelIds_fromScids (List.Vector.replicate 32 0) 0 10 true []

end ReplyChannelRange

end Bolt

end LnGossipSim
