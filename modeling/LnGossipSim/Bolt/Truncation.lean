import LnGossipSim.Bolt.Layout
import LnGossipSim.Bolt.TlvErrors

/-!
# Truncated Messages

A message that is cut short is never taken for another one. The fields before
the TLV stream are delimited, each by its type or by its length prefix, so a
cut before the stream leaves one of them without all of its bytes, and its
reader reports that. A cut inside a record of the stream leaves the record
without some of its bytes, and the loop over the records reports that.

What is left are the cuts between two records. The stream that remains is the
one the message would have without the fields whose records were cut off, so
decoding it is the round trip of that message.

## Main definitions

* `dropField`, `Message.dropTlvs`: A message without the fields of some types.

## Theorems

* `ChannelNotice.decode_cut` and those like it: Every codec rejects a cut in
  its fixed part.
* `prefix_encode_cases`: Where a prefix of a stream ends.
* `Message.records_dropTlvs`: The stream that is left at a boundary.
* `Message.decode_cut`, `Message.decode_cut_record`, `Message.decode_boundary`:
  The three places a cut can be.
* `Message.truncation_detected`: What becomes of a message that is cut short.
-/

namespace LnGossipSim

namespace Bolt

open Codec

/-- The value of a field, or nothing when the type of the field is dropped. -/
def dropField {α : Type} (types : List UInt64) (t : UInt64) (value : Option α) : Option α :=
  if t ∈ types then none else value

/-- The message without the TLV fields of the given types. -/
def Message.dropTlvs {S : Secp256k1} (types : List UInt64) : Message S → Message S
  | .init m =>
    .init { m with tlvs :=
      { networks := dropField types tlvNetworks m.tlvs.networks
        remoteAddr := dropField types tlvRemoteAddr m.tlvs.remoteAddr } }
  | .openChannel m =>
    .openChannel { m with tlvs :=
      { upfrontShutdownScript :=
          dropField types tlvUpfrontShutdownScript m.tlvs.upfrontShutdownScript
        channelType := dropField types tlvChannelType m.tlvs.channelType } }
  | .queryChannelRange m =>
    .queryChannelRange { m with queryOption := dropField types tlvQueryOption m.queryOption }
  | .replyChannelRange m =>
    .replyChannelRange { m with tlvs :=
      { timestamps := dropField types tlvTimestamps m.tlvs.timestamps
        checksums := dropField types tlvChecksums m.tlvs.checksums } }
  | m => m

theorem ChannelNotice.decode_cut (m : ChannelNotice) (h : m.Fits) (p : Bytes)
    (hp : ProperPrefix p (encode m)) : (decode p).FailsWith IsTruncated := by
  unfold encode at hp
  unfold decode
  refine failsWith_read _ (DelimitedWire.delimits m.channelId) hp fun p hp => ?_
  exact failsWith_read_last _ (delimits_vec m.data h) hp

theorem Ping.decode_cut (m : Ping) (h : m.Fits) (p : Bytes) (hp : ProperPrefix p (encode m)) :
    (decode p).FailsWith IsTruncated := by
  unfold encode at hp
  unfold decode
  refine failsWith_read _ (DelimitedWire.delimits m.numPongBytes) hp fun p hp => ?_
  exact failsWith_read_last _ (delimits_vec m.ignored h) hp

theorem Pong.decode_cut (m : Pong) (h : m.Fits) (p : Bytes) (hp : ProperPrefix p (encode m)) :
    (decode p).FailsWith IsTruncated :=
  failsWith_read_last _ (delimits_vec m.ignored h) hp

theorem Init.decode_cut (m : Init) (h : m.Fits) (p : Bytes) (hp : ProperPrefix p m.fixedPart) :
    (decode p).FailsWith IsTruncated := by
  unfold fixedPart at hp
  unfold decode
  refine failsWith_read _ (delimits_vec m.globalfeatures h.1) hp fun p hp => ?_
  exact failsWith_read_last _ (delimits_vec m.features h.2) hp

theorem QueryChannelRange.decode_cut (m : QueryChannelRange) (p : Bytes)
    (hp : ProperPrefix p m.fixedPart) : (decode p).FailsWith IsTruncated := by
  unfold fixedPart at hp
  rw [List.append_assoc] at hp
  unfold decode
  refine failsWith_read _ (DelimitedWire.delimits m.chainHash) hp fun p hp => ?_
  refine failsWith_read _ (DelimitedWire.delimits m.firstBlocknum) hp fun p hp => ?_
  exact failsWith_read_last _ (DelimitedWire.delimits m.numberOfBlocks) hp

theorem ReplyChannelRange.decode_cut (m : ReplyChannelRange) (h : m.Fits) (p : Bytes)
    (hp : ProperPrefix p m.fixedPart) : (decode p).FailsWith IsTruncated := by
  unfold fixedPart at hp
  simp only [List.append_assoc] at hp
  unfold decode
  refine failsWith_read _ (DelimitedWire.delimits m.chainHash) hp fun p hp => ?_
  refine failsWith_read _ (DelimitedWire.delimits m.firstBlocknum) hp fun p hp => ?_
  refine failsWith_read _ (DelimitedWire.delimits m.numberOfBlocks) hp fun p hp => ?_
  refine failsWith_read _ (DelimitedWire.delimits m.syncComplete) hp fun p hp => ?_
  exact failsWith_read_last _ (delimits_vec m.encodedShortIds h) hp

section

variable {S : Secp256k1}

theorem OpenChannel.decode_cut (m : OpenChannel S) (h : m.Fits) (p : Bytes)
    (hp : ProperPrefix p m.fixedPart) :
    (decode p : Outcome BoltError (OpenChannel S)).FailsWith IsTruncated := by
  unfold fixedPart at hp
  simp only [List.append_assoc] at hp
  unfold decode
  -- The eleven fields of a fixed width, the six keys, and the flags.
  iterate 11 refine failsWith_read _ (DelimitedWire.delimits _) hp fun p hp => ?_
  refine failsWith_read _ (delimits_publicKey _ h.fundingPubkey) hp fun p hp => ?_
  refine failsWith_read _ (delimits_publicKey _ h.revocationBasepoint) hp fun p hp => ?_
  refine failsWith_read _ (delimits_publicKey _ h.paymentBasepoint) hp fun p hp => ?_
  refine failsWith_read _ (delimits_publicKey _ h.delayedPaymentBasepoint) hp fun p hp => ?_
  refine failsWith_read _ (delimits_publicKey _ h.htlcBasepoint) hp fun p hp => ?_
  refine failsWith_read _ (delimits_publicKey _ h.firstPerCommitmentPoint) hp fun p hp => ?_
  exact failsWith_read_last _ (DelimitedWire.delimits m.channelFlags) hp

theorem FundingCreated.decode_cut (m : FundingCreated S) (h : m.Fits) (p : Bytes)
    (hp : ProperPrefix p (encode m)) :
    (decode p : Outcome BoltError (FundingCreated S)).FailsWith IsTruncated := by
  unfold encode at hp
  simp only [List.append_assoc] at hp
  unfold decode
  refine failsWith_read _ (DelimitedWire.delimits m.temporaryChannelId) hp fun p hp => ?_
  refine failsWith_read _ (DelimitedWire.delimits m.fundingTxid) hp fun p hp => ?_
  refine failsWith_read _ (DelimitedWire.delimits m.fundingOutputIndex) hp fun p hp => ?_
  exact failsWith_read_last _ (delimits_signature m.signature h) hp

theorem ChannelAnnouncement.decode_cut (m : ChannelAnnouncement S) (h : m.Fits) (p : Bytes)
    (hp : ProperPrefix p (encode m)) :
    (decode p : Outcome BoltError (ChannelAnnouncement S)).FailsWith IsTruncated := by
  unfold encode at hp
  simp only [List.append_assoc] at hp
  unfold decode
  -- The cut is in this field, or the field is whole and the cut is further on.
  refine failsWith_read _ (delimits_signature _ h.nodeSignature1) hp fun p hp => ?_
  refine failsWith_read _ (delimits_signature _ h.nodeSignature2) hp fun p hp => ?_
  refine failsWith_read _ (delimits_signature _ h.bitcoinSignature1) hp fun p hp => ?_
  refine failsWith_read _ (delimits_signature _ h.bitcoinSignature2) hp fun p hp => ?_
  refine failsWith_read _ (delimits_vec _ h.features) hp fun p hp => ?_
  refine failsWith_read _ (DelimitedWire.delimits m.chainHash) hp fun p hp => ?_
  refine failsWith_read _ (DelimitedWire.delimits m.shortChannelId) hp fun p hp => ?_
  refine failsWith_read _ (delimits_publicKey _ h.nodeId1) hp fun p hp => ?_
  refine failsWith_read _ (delimits_publicKey _ h.nodeId2) hp fun p hp => ?_
  refine failsWith_read _ (delimits_publicKey _ h.bitcoinKey1) hp fun p hp => ?_
  exact failsWith_read_last _ (delimits_publicKey _ h.bitcoinKey2) hp

theorem NodeAnnouncement.decode_cut (m : NodeAnnouncement S) (h : m.Fits) (p : Bytes)
    (hp : ProperPrefix p (encode m)) :
    (decode p : Outcome BoltError (NodeAnnouncement S)).FailsWith IsTruncated := by
  unfold encode at hp
  simp only [List.append_assoc] at hp
  unfold decode
  refine failsWith_read _ (delimits_signature _ h.signature) hp fun p hp => ?_
  refine failsWith_read _ (delimits_vec _ h.features) hp fun p hp => ?_
  refine failsWith_read _ (DelimitedWire.delimits m.timestamp) hp fun p hp => ?_
  refine failsWith_read _ (delimits_publicKey _ h.nodeId) hp fun p hp => ?_
  refine failsWith_read _ (DelimitedWire.delimits m.rgbColor) hp fun p hp => ?_
  refine failsWith_read _ (DelimitedWire.delimits m.nodeAlias) hp fun p hp => ?_
  exact failsWith_read_last _ (delimits_vec _ h.addresses) hp

theorem ChannelUpdate.decode_cut (m : ChannelUpdate S) (h : m.Fits) (p : Bytes)
    (hp : ProperPrefix p (encode m)) :
    (decode p : Outcome BoltError (ChannelUpdate S)).FailsWith IsTruncated := by
  unfold encode at hp
  simp only [List.append_assoc] at hp
  unfold decode
  refine failsWith_read _ (delimits_signature m.signature h) hp fun p hp => ?_
  -- Nine fields of a fixed width before the last.
  iterate 9 refine failsWith_read _ (DelimitedWire.delimits _) hp fun p hp => ?_
  exact failsWith_read_last _ (DelimitedWire.delimits m.htlcMaximumMsat) hp

end

/-- A prefix of the encoding of some records ends between two of them, or
    inside one. -/
theorem prefix_encode_cases (rs : List TlvRecord) (p : Bytes)
    (hp : p <+: TlvStream.encode ⟨rs⟩) :
    (∃ before after, rs = before ++ after ∧ p = TlvStream.encode ⟨before⟩)
      ∨ ∃ before r after q, rs = before ++ r :: after ∧ p = TlvStream.encode ⟨before⟩ ++ q
        ∧ q ≠ [] ∧ ProperPrefix q r.encode := by
  induction rs generalizing p with
  | nil =>
      left
      refine ⟨[], [], rfl, ?_⟩
      exact List.prefix_nil.mp hp
  | cons r rs ih =>
      rw [TlvStream.encode_cons] at hp
      rcases prefix_of_append hp with hcut | ⟨q, hpq, hq⟩
      · by_cases hnil : p = []
        · left
          exact ⟨[], r :: rs, rfl, hnil⟩
        · right
          exact ⟨[], r, rs, p, rfl, rfl, hnil, hcut⟩
      · -- The first record is whole, so the rest decides.
        rcases ih q hq with ⟨before, after, hrs, hqe⟩ | ⟨before, r', after, q', hrs, hqe, hne, hcut⟩
        · left
          refine ⟨r :: before, after, by rw [hrs, List.cons_append], ?_⟩
          rw [hpq, hqe, TlvStream.encode_cons]
        · right
          refine ⟨r :: before, r', after, q', by rw [hrs, List.cons_append], ?_, hne, hcut⟩
          rw [hpq, hqe, TlvStream.encode_cons, List.append_assoc]

/-- Dropping the fields of some types drops the records of those types. -/
theorem tlvRecords_dropField (types : List UInt64) (fields : List (UInt64 × Option ByteVec)) :
    tlvRecords (fields.map (fun f => (f.1, dropField types f.1 f.2)))
      = (tlvRecords fields).filter (fun r => decide (r.tlvType ∉ types)) := by
  induction fields with
  | nil => rfl
  | cons f fs ih =>
      unfold tlvRecords at ih ⊢
      rw [List.map_cons, List.flatMap_cons, List.flatMap_cons, List.filter_append, ih]
      congr 1
      rcases f with ⟨t, v⟩
      unfold dropField
      -- The head goes or stays as a whole.
      by_cases ht : t ∈ types
      · cases v <;> simp only [ht, if_true, Option.toList_none, Option.toList_some, List.map_nil,
          List.map_cons, List.filter_nil, List.filter_cons, not_true_eq_false, decide_false,
          Bool.false_eq_true, if_false]
      · cases v <;> simp only [ht, if_false, Option.toList_none, Option.toList_some, List.map_nil,
          List.map_cons, List.filter_nil, List.filter_cons, not_false_eq_true, decide_true, if_true]

namespace Message

variable {S : Secp256k1}

theorem front_dropTlvs (types : List UInt64) (m : Message S) :
    (m.dropTlvs types).front = m.front := by
  cases m <;> rfl

theorem lengthsFit_dropTlvs (types : List UInt64) (m : Message S) (h : m.LengthsFit) :
    (m.dropTlvs types).LengthsFit := by
  cases m <;> exact h

/-- The fields of the given types are gone, and the others are as they were. -/
theorem tlvFields_dropTlvs (types : List UInt64) (m : Message S) :
    (m.dropTlvs types).tlvFields
      = m.tlvFields.map (fun f => (f.1, dropField types f.1 f.2)) := by
  have hmap : ∀ {α : Type} (t : UInt64) (v : Option α) (g : α → ByteVec),
      (dropField types t v).map g = dropField types t (v.map g) := by
    intro α t v g
    unfold dropField
    by_cases ht : t ∈ types
    · rw [if_pos ht, if_pos ht, Option.map_none]
    · rw [if_neg ht, if_neg ht]
  cases m with
  | init m =>
      change [_, _] = [_, _]
      rw [hmap]
  | queryChannelRange m =>
      change [_] = [_]
      rw [hmap]
  | _ => rfl

/-- Without the fields of the records after some point, the stream of a message
    is what stands before it. -/
theorem records_dropTlvs (m : Message S) (before after : List TlvRecord)
    (h : m.records = before ++ after) :
    (m.dropTlvs (after.map TlvRecord.tlvType)).records = before := by
  have hinc : m.records.Pairwise (fun r r' => r.tlvType < r'.tlvType) := m.records_increasing
  rw [h, List.pairwise_append] at hinc
  -- The types increase, so none before the cut comes again after it.
  have hkeep : before.filter (fun r => decide (r.tlvType ∉ after.map TlvRecord.tlvType))
      = before := by
    rw [List.filter_eq_self]
    intro b hb
    refine decide_eq_true ?_
    intro hmem
    rcases List.mem_map.mp hmem with ⟨a, ha, hab⟩
    exact UInt64.ne_of_lt (hinc.2.2 b hb a ha) hab.symm
  have hdrop : after.filter (fun r => decide (r.tlvType ∉ after.map TlvRecord.tlvType)) = [] := by
    rw [List.filter_eq_nil_iff]
    intro a ha
    rw [decide_eq_true_iff, not_not]
    exact List.mem_map_of_mem ha
  unfold records at h ⊢
  rw [tlvFields_dropTlvs, tlvRecords_dropField, h, List.filter_append, hkeep, hdrop,
    List.append_nil]

/-- Cut between two records, a message is decoded without the fields whose
    records were cut off. -/
theorem decode_boundary (hS : S.ParsesSerialized) (m : Message S) (h : m.LengthsFit)
    (before after : List TlvRecord) (hsplit : m.records = before ++ after) :
    decode (m.front ++ TlvStream.encode ⟨before⟩)
      = .ok (m.dropTlvs (after.map TlvRecord.tlvType)) := by
  have hfit := lengthsFit_dropTlvs (after.map TlvRecord.tlvType) m h
  rcases decode_encode hS _ hfit with ⟨bytes, hbytes, hdecode⟩
  rw [encode_layout, Outcome.ok.injEq, front_dropTlvs, records_dropTlvs m before after hsplit]
    at hbytes
  rw [hbytes]
  exact hdecode

/-- Cut before its stream, a message is reported truncated. -/
theorem decode_cut (hS : S.ParsesSerialized) (m : Message S) (h : m.LengthsFit)
    (hknown : ¬ m.IsUnknown) (p : Bytes) (hp : ProperPrefix p m.front) :
    (decode p : Outcome BoltError (Message S)).FailsWith IsTruncated := by
  have hfits := fits_of_lengthsFit hS m h
  unfold front at hp
  unfold decode
  -- The type itself may be cut. Otherwise the codec of the message sees the cut.
  refine failsWith_read _ (DelimitedWire.delimits m.msgType) hp fun q hq => ?_
  cases m with
  | warning m => exact Outcome.failsWith_bind _ _ (ChannelNotice.decode_cut m hfits q hq)
  | init m => exact Outcome.failsWith_bind _ _ (Init.decode_cut m hfits q hq)
  | error m => exact Outcome.failsWith_bind _ _ (ChannelNotice.decode_cut m hfits q hq)
  | ping m => exact Outcome.failsWith_bind _ _ (Ping.decode_cut m hfits q hq)
  | pong m => exact Outcome.failsWith_bind _ _ (Pong.decode_cut m hfits q hq)
  | openChannel m => exact Outcome.failsWith_bind _ _ (OpenChannel.decode_cut m hfits q hq)
  | fundingCreated m => exact Outcome.failsWith_bind _ _ (FundingCreated.decode_cut m hfits q hq)
  | channelAnnouncement m =>
      exact Outcome.failsWith_bind _ _ (ChannelAnnouncement.decode_cut m hfits q hq)
  | nodeAnnouncement m =>
      exact Outcome.failsWith_bind _ _ (NodeAnnouncement.decode_cut m hfits q hq)
  | channelUpdate m => exact Outcome.failsWith_bind _ _ (ChannelUpdate.decode_cut m hfits q hq)
  | queryChannelRange m => exact Outcome.failsWith_bind _ _ (QueryChannelRange.decode_cut m q hq)
  | replyChannelRange m =>
      exact Outcome.failsWith_bind _ _ (ReplyChannelRange.decode_cut m hfits q hq)
  | unknown t payload => exact absurd trivial hknown

/-- Only a message with a stream has records. -/
theorem hasStream_of_record (m : Message S) (before after : List TlvRecord) (r : TlvRecord)
    (h : m.records = before ++ r :: after) : m.HasStream := by
  have hmem : r ∈ m.records := by
    rw [h]
    exact List.mem_append_right before List.mem_cons_self
  cases m with
  | init m => trivial
  | openChannel m => trivial
  | queryChannelRange m => trivial
  | replyChannelRange m => trivial
  | _ => exact absurd hmem List.not_mem_nil

/-- Cut inside a record of its stream, a message is rejected for that
    record. -/
theorem decode_cut_record (hS : S.ParsesSerialized) (m : Message S) (h : m.LengthsFit)
    (before after : List TlvRecord) (r : TlvRecord) (q : Bytes)
    (hsplit : m.records = before ++ r :: after) (hne : q ≠ []) (hq : ProperPrefix q r.encode) :
    (decode (m.front ++ (TlvStream.encode ⟨before⟩ ++ q))
      : Outcome BoltError (Message S)).FailsWith IsCutRecord := by
  have hadm := m.records_admitted
  rw [hsplit] at hadm
  rcases TlvStream.decodeWithKnown_cut m.knownEven before after r q hadm hq hne
    with ⟨e, he, hstream⟩
  exact ⟨e, he, decode_streamError hS m h (m.hasStream_of_record before after r hsplit) _ e hstream⟩

/-- A message that is cut short is never taken for another one. Cut before its
    stream it is reported truncated, and cut inside a record it is rejected for
    that record. It is accepted only when it is cut between two records or
    right before the first, and then as the message without the fields whose
    records were cut off. -/
theorem truncation_detected (hS : S.ParsesSerialized) (m : Message S) (h : m.LengthsFit)
    (hknown : ¬ m.IsUnknown) :
    m.encode = .ok (m.front ++ TlvStream.encode ⟨m.records⟩)
      ∧ (¬ m.HasStream → m.records = [])
      ∧ ∀ p, ProperPrefix p (m.front ++ TlvStream.encode ⟨m.records⟩) →
        (p.length < m.front.length →
          (decode p : Outcome BoltError (Message S)).FailsWith IsTruncated)
        ∧ (∀ before r after q, m.records = before ++ r :: after → q ≠ [] →
          ProperPrefix q r.encode → p = m.front ++ (TlvStream.encode ⟨before⟩ ++ q) →
          (decode p : Outcome BoltError (Message S)).FailsWith IsCutRecord)
        ∧ (∀ before after, m.records = before ++ after →
          p = m.front ++ TlvStream.encode ⟨before⟩ →
          decode p = .ok (m.dropTlvs (after.map TlvRecord.tlvType)))
        ∧ ∀ m', decode p = .ok m' → m.HasStream
          ∧ ∃ before after, m.records = before ++ after
            ∧ p = m.front ++ TlvStream.encode ⟨before⟩
            ∧ m' = m.dropTlvs (after.map TlvRecord.tlvType) := by
  have hplain : ¬ m.HasStream → m.records = [] := by
    intro hstream
    cases hrec : m.records with
    | nil => rfl
    | cons r rs => exact absurd (m.hasStream_of_record [] rs r hrec) hstream
  refine ⟨encode_layout m, hplain, ?_⟩
  intro p hp
  refine ⟨?_, ?_, ?_, ?_⟩
  · intro hshort
    have hpre := List.prefix_of_prefix_length_le hp.1 (List.prefix_append _ _) (Nat.le_of_lt hshort)
    exact decode_cut hS m h hknown p (properPrefix_of_length hpre hshort)
  · intro before r after q hsplit hne hq hpq
    rw [hpq]
    exact decode_cut_record hS m h before after r q hsplit hne hq
  · intro before after hsplit hpq
    rw [hpq]
    exact decode_boundary hS m h before after hsplit
  · intro m' hm'
    -- Accepted means that the fixed part is whole.
    rcases properPrefix_append hp with hcut | ⟨q, hpq, hq⟩
    · rcases decode_cut hS m h hknown p hcut with ⟨e, -, herr⟩
      rw [herr] at hm'
      exact nomatch hm'
    · have hstream : m.HasStream := by
        by_contra hns
        rw [hplain hns] at hq
        exact hq.2 (List.prefix_nil.mp hq.1)
      refine ⟨hstream, ?_⟩
      -- Inside a record the cut is an error, so it was between two.
      rcases prefix_encode_cases m.records q hq.1
        with ⟨before, after, hsplit, hqe⟩ | ⟨before, r, after, q', hsplit, hqe, hne, hcut⟩
      · refine ⟨before, after, hsplit, by rw [hpq, hqe], ?_⟩
        rw [hpq, hqe, decode_boundary hS m h before after hsplit, Outcome.ok.injEq] at hm'
        exact hm'.symm
      · rcases decode_cut_record hS m h before after r q' hsplit hne hcut with ⟨e, -, herr⟩
        rw [hpq, hqe, herr] at hm'
        exact nomatch hm'

/-- An init cut inside its features, inside its remote address, and between the
    two. -/
theorem truncation_detected_init :
    (decode [0, 16, 0, 0, 0, 1]
      : Outcome BoltError (Message Secp256k1.transparent)).FailsWith IsTruncated
      ∧ (decode [0, 16, 0, 0, 0, 1, 2, 3, 2, 0x7f]
        : Outcome BoltError (Message Secp256k1.transparent)).FailsWith IsCutRecord
      ∧ (decode [0, 16, 0, 0, 0, 1, 2] : Outcome BoltError (Message Secp256k1.transparent))
        = .ok (.init ⟨[], [2], none, none⟩) := by
  rcases truncation_detected Secp256k1.transparent_parsesSerialized
    (.init ⟨[], [2], none, some ⟨[0x7f, 1], by decide⟩⟩)
    ⟨Nat.zero_le 65535, Nat.le_of_ble_eq_true rfl⟩ id with ⟨-, -, hcut⟩
  refine ⟨?_, ?_, ?_⟩
  · exact (hcut [0, 16, 0, 0, 0, 1] ⟨by decide, by decide⟩).1 (by decide)
  · exact (hcut [0, 16, 0, 0, 0, 1, 2, 3, 2, 0x7f] ⟨by decide, by decide⟩).2.1 []
      ⟨3, ⟨[0x7f, 1], by decide⟩⟩ [] [3, 2, 0x7f] rfl (by decide) ⟨by decide, by decide⟩ rfl
  · exact (hcut [0, 16, 0, 0, 0, 1, 2] ⟨by decide, by decide⟩).2.2.1 []
      [⟨3, ⟨[0x7f, 1], by decide⟩⟩] rfl rfl

end Message

end Bolt

end LnGossipSim
