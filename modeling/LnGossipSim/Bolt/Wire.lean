import Mathlib.Tactic.SplitIfs
import LnGossipSim.Library.BigEndian
import LnGossipSim.Library.Codec
import LnGossipSim.Bolt.Types

/-!
# Wire Format Primitives

Serialization and deserialization of the values messages are made of. `read`
takes a value off the front of a byte slice and returns what is left of the
slice; `write` is the bytes appended to the output.

Every format but two is built on the fixed-size array by a conversion, so its
laws are those of the array and of the conversion. The two others are the
`BigSize`, whose width depends on the value and which is rejected when it is
not minimal, and the length-prefixed byte vector, whose 16-bit length wraps
around when the vector is longer than that.

## Main definitions

* `WireFormat`: A type that is read from and written to the wire.
* `readAs`: The reader of a given type.
* `readInt`, `writeInt`: Integers as a fixed number of big-endian bytes.
* `readBigSize`, `writeBigSize`: The variable-length integer.
* `readVec`, `writeVec`: The length-prefixed byte vector.
* `LawfulWire`: A format that obeys both laws on every value.
* `TotalWire`: A format whose reader never panics.

## Theorems

* `read_byteArr`: The array reader, without its slice operations.
* `readsBack_byteArr`, `canonical_byteArr`: The laws of the array.
* `readsBack_int`, `canonical_int`: The laws of every fixed-width integer.
* `readsBack_bigSize`, `canonical_bigSize`: The laws of the `BigSize`.
* `bigSize_len_mono`: A greater number needs no fewer bytes.
* `readsBack_vec`, `canonical_vec`: The laws of the byte vector.
* `readsBack_publicKey`, `canonical_publicKey`: The laws of a public key.
* `readsBack_signature`, `canonical_signature`: The laws of a signature.
-/

namespace LnGossipSim

namespace Bolt

open BigEndian Codec

/-- A type that can be read from and written to the Lightning wire format. -/
class WireFormat (α : Type) where
  read : Reader BoltError α
  write : α → Bytes

/-- Reads a value of the given type off the front of a slice. -/
abbrev readAs (α : Type) [WireFormat α] : Reader BoltError α := WireFormat.read

/-- Reads a fixed-size array. -/
def readByteArr (n : Nat) : Reader BoltError (ByteArr n) := fun data =>
  if data.length < n then .err (.truncated n data.length)
  else do
    let head ← Slice.upTo data n
    let buf ← Slice.copyInto n head
    let rest ← Slice.startingAt data n
    return (buf, rest)

instance (n : Nat) : WireFormat (ByteArr n) where
  read := readByteArr n
  write bytes := bytes.toList

/-- Reads an integer of `size` big-endian bytes. -/
def readInt {α : Type} (size : Nat) (fromNat : Nat → α) : Reader BoltError α :=
  readVia (fun bytes => .ok (fromNat (beNat bytes.toList))) (readByteArr size)

/-- Writes an integer as `size` big-endian bytes. -/
def writeInt {α : Type} (size : Nat) (toNat : α → Nat) (v : α) : Bytes :=
  beBytes size (toNat v)

instance : WireFormat UInt8 := ⟨readInt 1 UInt8.ofNat, writeInt 1 UInt8.toNat⟩

instance : WireFormat UInt16 := ⟨readInt 2 UInt16.ofNat, writeInt 2 UInt16.toNat⟩

instance : WireFormat UInt32 := ⟨readInt 4 UInt32.ofNat, writeInt 4 UInt32.toNat⟩

instance : WireFormat UInt64 := ⟨readInt 8 UInt64.ofNat, writeInt 8 UInt64.toNat⟩

instance : WireFormat Int64 where
  read := readInt 8 (fun n => (UInt64.ofNat n).toInt64)
  write := writeInt 8 (fun v => v.toUInt64.toNat)

instance (S : Secp256k1) : WireFormat S.PublicKey where
  read := readVia (fun buf => Outcome.okOr (.invalidPublicKey buf) (S.fromSlice buf.toList))
    (readByteArr publicKeySize)
  write k := (S.serialize k).toList

instance : WireFormat ChannelId where
  read := readVia (fun bytes => .ok ⟨bytes⟩) (readByteArr channelIdSize)
  write id := id.bytes.toList

instance : WireFormat Txid where
  read := readVia (fun buf => .ok ⟨buf⟩) (readByteArr txidSize)
  write txid := txid.bytes.toList

instance (S : Secp256k1) : WireFormat S.Signature where
  read := readVia (fun buf => Outcome.okOr (.invalidSignature buf) (S.fromCompact buf.toList))
    (readByteArr compactSignatureSize)
  write sig := (S.serializeCompact sig).toList

/-- Reads the value that follows the first byte of a `BigSize`, rejecting it
    below the smallest value that needs this width. -/
def readBigSizeTail {α : Type} [WireFormat α] (toU64 : α → UInt64) (least : UInt64) :
    Reader BoltError BigSize := fun data => do
  let (tail, rest) ← (readAs α data).mapErr
    (fun _ => BoltError.bigSizeTruncated)
  let value := toU64 tail
  if value < least then .err .bigSizeNotMinimal else .ok (⟨value⟩, rest)

/-- Reads a `BigSize`: one byte below `0xfd`, and otherwise `0xfd`, `0xfe` or
    `0xff` followed by 2, 4 or 8 big-endian bytes. -/
def readBigSize : Reader BoltError BigSize := fun data => do
  let (first, rest) ← (readAs UInt8 data).mapErr
    (fun _ => BoltError.bigSizeTruncated)
  if first ≤ 0xfc then .ok (⟨first.toUInt64⟩, rest)
  else if first = 0xfd then readBigSizeTail UInt16.toUInt64 0xfd rest
  else if first = 0xfe then readBigSizeTail UInt32.toUInt64 0x10000 rest
  else readBigSizeTail (id : UInt64 → UInt64) 0x100000000 rest

/-- Writes a `BigSize`. -/
def writeBigSize (n : BigSize) : Bytes :=
  let value := n.value
  if value < 0xfd then WireFormat.write value.toUInt8
  else if value < 0x10000 then WireFormat.write (0xfd : UInt8) ++ WireFormat.write value.toUInt16
  else if value < 0x100000000 then
    WireFormat.write (0xfe : UInt8) ++ WireFormat.write value.toUInt32
  else WireFormat.write (0xff : UInt8) ++ WireFormat.write value

instance : WireFormat BigSize := ⟨readBigSize, writeBigSize⟩

/-- Reads a `[u16:len][len*byte]` variable-length field. -/
def readVec : Reader BoltError Bytes := fun data => do
  let (len, data) ← readAs UInt16 data
  if data.length < len.toNat then .err (.truncated len.toNat data.length)
  else do
    let bytes ← Slice.upTo data len.toNat
    let rest ← Slice.startingAt data len.toNat
    return (bytes, rest)

/-- Writes a `[u16:len][len*byte]` variable-length field. The length is cast
    to 16 bits, so it wraps around for a longer vector. -/
def writeVec (bytes : Bytes) : Bytes :=
  WireFormat.write (UInt16.ofNat bytes.length) ++ bytes

instance : WireFormat Bytes := ⟨readVec, writeVec⟩

/-- A vector whose length the 16-bit prefix describes. -/
def FitsVec (bytes : Bytes) : Prop := bytes.length ≤ 65535

/-- A format that obeys both laws on every value of its type. -/
class LawfulWire (α : Type) [WireFormat α] : Prop where
  readsBack : ReadsBack (WireFormat.write : α → Bytes) WireFormat.read (fun _ => True)
  canonical : Canonical (WireFormat.write : α → Bytes) WireFormat.read (fun _ => True)

/-- A format whose reader never panics, whatever it is given. -/
class TotalWire (α : Type) [WireFormat α] : Prop where
  settles : ∀ data, (WireFormat.read data : Outcome BoltError (α × Bytes)).Settles

/-- Reading a value that was written returns it and what followed it. -/
@[simp] theorem read_write {α : Type} [WireFormat α] [LawfulWire α] (v : α) (rest : Bytes) :
    readAs α (WireFormat.write v ++ rest) = .ok (v, rest) :=
  LawfulWire.readsBack v rest trivial

/-- A value that was read stands at the front of the input as it is
    written. -/
theorem eq_write_of_read {α : Type} [WireFormat α] [LawfulWire α] {b rest : Bytes} {v : α}
    (h : readAs α b = .ok (v, rest)) : b = WireFormat.write v ++ rest :=
  (LawfulWire.canonical b v rest h).1

/-- A run that reads a field first and succeeds has the field, as it is
    written, at the front of its input. -/
theorem read_bind_eq_ok {α β : Type} [WireFormat α] [LawfulWire α] {b : Bytes}
    {f : α × Bytes → Outcome BoltError β} {x : β} (h : (readAs α b >>= f) = .ok x) :
    ∃ v rest, b = WireFormat.write v ++ rest ∧ f (v, rest) = .ok x := by
  rcases (Outcome.bind_eq_ok _ _ _).mp h with ⟨⟨v, rest⟩, hread, hx⟩
  exact ⟨v, rest, eq_write_of_read hread, hx⟩

/-- The array reader, without its slice operations: none of them is out of
    bounds. -/
theorem readByteArr_eq (n : Nat) (data : Bytes) (h : n ≤ data.length) :
    readByteArr n data
      = .ok (Slice.pack (data.take n) (List.length_take_of_le h), data.drop n) := by
  rw [readByteArr, if_neg (by omega)]
  simp only [Slice.upTo_of_le data n h, Slice.startingAt_of_le data n h,
    Slice.copyInto_of_length n (data.take n) (List.length_take_of_le h), Outcome.ok_bind,
    Outcome.pure_eq_ok]

theorem readsBack_byteArr (n : Nat) :
    ReadsBack (List.Vector.toList) (readByteArr n) (fun _ => True) := by
  intro v rest _
  have hlen : v.toList.length = n := v.toList_length
  rw [readByteArr_eq n _ (by rw [List.length_append]; omega)]
  rw [Slice.pack_of_toList v _ _ (List.take_left' hlen), List.drop_left' hlen]

theorem canonical_byteArr (n : Nat) :
    Canonical (List.Vector.toList) (readByteArr n) (fun _ => True) := by
  intro b v rest h
  refine ⟨?_, trivial⟩
  by_cases hlen : b.length < n
  · rw [readByteArr, if_pos hlen] at h
    simp only [reduceCtorEq] at h
  · rw [readByteArr_eq n b (by omega)] at h
    simp only [Outcome.ok.injEq, Prod.mk.injEq] at h
    rw [← h.1, ← h.2, Slice.pack_toList]
    exact (List.take_append_drop n b).symm

instance (n : Nat) : LawfulWire (ByteArr n) := ⟨readsBack_byteArr n, canonical_byteArr n⟩

/-- An integer of a fixed width is read back, when the width holds every value
    of the type. -/
theorem readsBack_int {α : Type} (size : Nat) (fromNat : Nat → α) (toNat : α → Nat)
    (hlt : ∀ v, toNat v < 256 ^ size) (hback : ∀ v, fromNat (toNat v) = v) :
    ReadsBack (writeInt size toNat) (readInt size fromNat) (fun _ => True) := by
  refine readsBack_via _
    (fun v => Slice.pack (beBytes size (toNat v)) (beBytes_length size (toNat v)))
    List.Vector.toList (readByteArr size) (fun _ => True) _ (readsBack_byteArr size) ?_
  intro v _
  refine ⟨trivial, ?_⟩
  simp only [Slice.pack_toList]
  rw [beNat_beBytes size _ (hlt v), hback]

/-- An integer of a fixed width has one encoding. -/
theorem canonical_int {α : Type} (size : Nat) (fromNat : Nat → α) (toNat : α → Nat)
    (hback : ∀ n, n < 256 ^ size → toNat (fromNat n) = n) :
    Canonical (writeInt size toNat) (readInt size fromNat) (fun _ => True) := by
  refine canonical_via _
    (fun v => Slice.pack (beBytes size (toNat v)) (beBytes_length size (toNat v)))
    List.Vector.toList (readByteArr size) (fun _ => True) _ (canonical_byteArr size) ?_
  intro b v _ hv
  refine ⟨?_, trivial⟩
  have hlen : b.toList.length = size := b.toList_length
  simp only [Outcome.ok.injEq] at hv
  apply Slice.pack_of_toList
  rw [← hv, hback _ (beNat_lt size b.toList hlen), beBytes_beNat size b.toList hlen]

instance : LawfulWire UInt8 where
  readsBack := readsBack_int 1 _ _ (fun v => v.toNat_lt) (fun v => UInt8.ofNat_toNat)
  canonical := canonical_int 1 _ _ (fun n h => by rw [UInt8.toNat_ofNat']; omega)

instance : LawfulWire UInt16 where
  readsBack := readsBack_int 2 _ _ (fun v => v.toNat_lt) (fun v => UInt16.ofNat_toNat)
  canonical := canonical_int 2 _ _ (fun n h => by rw [UInt16.toNat_ofNat']; omega)

instance : LawfulWire UInt32 where
  readsBack := readsBack_int 4 _ _ (fun v => v.toNat_lt) (fun v => UInt32.ofNat_toNat)
  canonical := canonical_int 4 _ _ (fun n h => by rw [UInt32.toNat_ofNat']; omega)

instance : LawfulWire UInt64 where
  readsBack := readsBack_int 8 _ _ (fun v => v.toNat_lt) (fun v => UInt64.ofNat_toNat)
  canonical := canonical_int 8 _ _ (fun n h => by rw [UInt64.toNat_ofNat']; omega)

/-- The two's complement of eight bytes is the same bits read as signed. -/
instance : LawfulWire Int64 where
  readsBack := by
    refine readsBack_int 8 _ _ (fun v => v.toUInt64.toNat_lt) (fun v => ?_)
    rw [UInt64.ofNat_toNat]
    exact Int64.toInt64_toUInt64 v
  canonical := by
    refine canonical_int 8 _ _ (fun n h => ?_)
    rw [UInt64.toUInt64_toInt64, UInt64.toNat_ofNat']
    omega

instance : LawfulWire ChannelId where
  readsBack := readsBack_via _ ChannelId.bytes _ _ _ _ (readsBack_byteArr channelIdSize)
    (fun _ _ => ⟨trivial, rfl⟩)
  canonical := canonical_via _ ChannelId.bytes _ _ _ _ (canonical_byteArr channelIdSize)
    (fun b v _ h => ⟨by simp only [Outcome.ok.injEq] at h; rw [← h], trivial⟩)

instance : LawfulWire Txid where
  readsBack := readsBack_via _ Txid.bytes _ _ _ _ (readsBack_byteArr txidSize)
    (fun _ _ => ⟨trivial, rfl⟩)
  canonical := canonical_via _ Txid.bytes _ _ _ _ (canonical_byteArr txidSize)
    (fun b v _ h => ⟨by simp only [Outcome.ok.injEq] at h; rw [← h], trivial⟩)

theorem readsBack_publicKey (S : Secp256k1) :
    ReadsBack (WireFormat.write : S.PublicKey → Bytes) WireFormat.read S.KeyReparses :=
  readsBack_via _ S.serialize _ _ _ _ (readsBack_byteArr publicKeySize)
    (fun v hv => ⟨trivial, by rw [hv, Outcome.okOr_some]⟩)

theorem canonical_publicKey (S : Secp256k1) (hS : S.SerializesParsed) :
    Canonical (WireFormat.write : S.PublicKey → Bytes) WireFormat.read S.KeyReparses := by
  refine canonical_via _ S.serialize _ _ _ _ (canonical_byteArr publicKeySize) ?_
  intro b v _ h
  have hparse := (Outcome.okOr_eq_ok _ _ _).mp h
  have hser := hS.key b v hparse
  exact ⟨hser, by rw [Secp256k1.KeyReparses, hser, hparse]⟩

theorem readsBack_signature (S : Secp256k1) :
    ReadsBack (WireFormat.write : S.Signature → Bytes) WireFormat.read S.SignatureReparses :=
  readsBack_via _ S.serializeCompact _ _ _ _ (readsBack_byteArr compactSignatureSize)
    (fun v hv => ⟨trivial, by rw [hv, Outcome.okOr_some]⟩)

theorem canonical_signature (S : Secp256k1) (hS : S.SerializesParsed) :
    Canonical (WireFormat.write : S.Signature → Bytes) WireFormat.read S.SignatureReparses := by
  refine canonical_via _ S.serializeCompact _ _ _ _ (canonical_byteArr compactSignatureSize) ?_
  intro b v _ h
  have hparse := (Outcome.okOr_eq_ok _ _ _).mp h
  have hser := hS.signature b v hparse
  exact ⟨hser, by rw [Secp256k1.SignatureReparses, hser, hparse]⟩

/-- The two slices of the vector reader are in bounds once the length has been
    checked. -/
theorem readVec_eq (len : UInt16) (data : Bytes) (h : len.toNat ≤ data.length) :
    readVec (WireFormat.write len ++ data)
      = .ok (data.take len.toNat, data.drop len.toNat) := by
  rw [readVec, read_write, Outcome.ok_bind]
  simp only
  rw [if_neg (by omega)]
  simp only [Slice.upTo_of_le data _ h, Slice.startingAt_of_le data _ h, Outcome.ok_bind,
    Outcome.pure_eq_ok]

theorem readsBack_vec : ReadsBack writeVec readVec FitsVec := by
  intro v rest hv
  have hlen : (UInt16.ofNat v.length).toNat = v.length := by
    rw [UInt16.toNat_ofNat']
    unfold FitsVec at hv
    omega
  rw [writeVec, List.append_assoc, readVec_eq _ _ (by rw [hlen, List.length_append]; omega), hlen,
    List.take_left' rfl, List.drop_left' rfl]

theorem canonical_vec : Canonical writeVec readVec FitsVec := by
  intro b v rest h
  rw [readVec, Outcome.bind_eq_ok] at h
  rcases h with ⟨⟨len, data⟩, hlen, h⟩
  have hb := eq_write_of_read hlen
  simp only at h
  -- A short buffer is an error, so the slice has the announced length.
  by_cases hshort : data.length < len.toNat
  · rw [if_pos hshort] at h
    simp only [reduceCtorEq] at h
  · have hread := readVec_eq len data (by omega)
    rw [readVec, read_write, Outcome.ok_bind] at hread
    simp only at hread
    rw [hread] at h
    simp only [Outcome.ok.injEq, Prod.mk.injEq] at h
    have hvlen : v.length = len.toNat := by
      rw [← h.1]
      exact List.length_take_of_le (by omega)
    have hmax := len.toNat_lt
    refine ⟨?_, by unfold FitsVec; omega⟩
    rw [hb, writeVec, hvlen, UInt16.ofNat_toNat, ← h.1, ← h.2, List.append_assoc,
      List.take_append_drop]

theorem read_write_vec (v rest : Bytes) (h : FitsVec v) :
    readAs Bytes (WireFormat.write v ++ rest) = .ok (v, rest) := readsBack_vec v rest h

theorem eq_write_of_read_vec {b v rest : Bytes} (h : readAs Bytes b = .ok (v, rest)) :
    b = WireFormat.write v ++ rest ∧ FitsVec v := canonical_vec b v rest h

theorem read_bind_vec_eq_ok {β : Type} {b : Bytes} {f : Bytes × Bytes → Outcome BoltError β}
    {x : β} (h : (readAs Bytes b >>= f) = .ok x) :
    ∃ v rest, (b = WireFormat.write v ++ rest ∧ FitsVec v) ∧ f (v, rest) = .ok x := by
  rcases (Outcome.bind_eq_ok _ _ _).mp h with ⟨⟨v, rest⟩, hread, hx⟩
  exact ⟨v, rest, eq_write_of_read_vec hread, hx⟩

theorem read_write_publicKey {S : Secp256k1} (k : S.PublicKey) (rest : Bytes)
    (h : S.KeyReparses k) : readAs S.PublicKey (WireFormat.write k ++ rest) = .ok (k, rest) :=
  readsBack_publicKey S k rest h

theorem eq_write_of_read_publicKey {S : Secp256k1} (hS : S.SerializesParsed) {b rest : Bytes}
    {k : S.PublicKey} (h : readAs S.PublicKey b = .ok (k, rest)) :
    b = WireFormat.write k ++ rest ∧ S.KeyReparses k := canonical_publicKey S hS b k rest h

theorem read_bind_publicKey_eq_ok {S : Secp256k1} (hS : S.SerializesParsed) {β : Type} {b : Bytes}
    {f : S.PublicKey × Bytes → Outcome BoltError β} {x : β}
    (h : (readAs S.PublicKey b >>= f) = .ok x) :
    ∃ k rest, (b = WireFormat.write k ++ rest ∧ S.KeyReparses k) ∧ f (k, rest) = .ok x := by
  rcases (Outcome.bind_eq_ok _ _ _).mp h with ⟨⟨k, rest⟩, hread, hx⟩
  exact ⟨k, rest, eq_write_of_read_publicKey hS hread, hx⟩

theorem read_write_signature {S : Secp256k1} (sig : S.Signature) (rest : Bytes)
    (h : S.SignatureReparses sig) :
    readAs S.Signature (WireFormat.write sig ++ rest) = .ok (sig, rest) :=
  readsBack_signature S sig rest h

theorem eq_write_of_read_signature {S : Secp256k1} (hS : S.SerializesParsed) {b rest : Bytes}
    {sig : S.Signature} (h : readAs S.Signature b = .ok (sig, rest)) :
    b = WireFormat.write sig ++ rest ∧ S.SignatureReparses sig :=
  canonical_signature S hS b sig rest h

theorem read_bind_signature_eq_ok {S : Secp256k1} (hS : S.SerializesParsed) {β : Type} {b : Bytes}
    {f : S.Signature × Bytes → Outcome BoltError β} {x : β}
    (h : (readAs S.Signature b >>= f) = .ok x) :
    ∃ sig rest, (b = WireFormat.write sig ++ rest ∧ S.SignatureReparses sig)
      ∧ f (sig, rest) = .ok x := by
  rcases (Outcome.bind_eq_ok _ _ _).mp h with ⟨⟨sig, rest⟩, hread, hx⟩
  exact ⟨sig, rest, eq_write_of_read_signature hS hread, hx⟩

/-- The value after the first byte is read back as long as it needs this
    width. -/
theorem readBigSizeTail_write {α : Type} [WireFormat α] [LawfulWire α] (toU64 : α → UInt64)
    (least : UInt64) (v : α) (rest : Bytes) (h : ¬ toU64 v < least) :
    readBigSizeTail toU64 least (WireFormat.write v ++ rest) = .ok (⟨toU64 v⟩, rest) := by
  rw [readBigSizeTail, read_write, Outcome.mapErr_ok, Outcome.ok_bind]
  simp only [if_neg h]

/-- What follows the first byte of an accepted `BigSize` is the value, written
    at this width and needing it. -/
theorem readBigSizeTail_eq_ok {α : Type} [WireFormat α] [LawfulWire α] (toU64 : α → UInt64)
    (least : UInt64) (data rest : Bytes) (n : BigSize)
    (h : readBigSizeTail toU64 least data = .ok (n, rest)) :
    ∃ v : α, data = WireFormat.write v ++ rest ∧ n.value = toU64 v ∧ ¬ toU64 v < least := by
  rw [readBigSizeTail, Outcome.bind_eq_ok] at h
  rcases h with ⟨⟨v, r⟩, hread, h⟩
  rw [Outcome.mapErr_eq_ok] at hread
  simp only at h
  -- A value below the least of its width is not minimal, and rejected.
  by_cases hlt : toU64 v < least
  · rw [if_pos hlt] at h
    simp only [reduceCtorEq] at h
  · rw [if_neg hlt] at h
    simp only [Outcome.ok.injEq, Prod.mk.injEq] at h
    refine ⟨v, ?_, ?_, hlt⟩
    · rw [← h.2]
      exact eq_write_of_read hread
    · rw [← h.1]

/-- Once its first byte is known, a `BigSize` is read by the branch of that
    byte. -/
theorem readBigSize_write (first : UInt8) (rest : Bytes) :
    readBigSize (WireFormat.write first ++ rest)
      = if first ≤ 0xfc then .ok (⟨first.toUInt64⟩, rest)
        else if first = 0xfd then readBigSizeTail UInt16.toUInt64 0xfd rest
        else if first = 0xfe then readBigSizeTail UInt32.toUInt64 0x10000 rest
        else readBigSizeTail (id : UInt64 → UInt64) 0x100000000 rest := by
  rw [readBigSize, read_write, Outcome.mapErr_ok, Outcome.ok_bind]

theorem toUInt8_toUInt64_of_lt (v : UInt64) (h : v < 0x100) : v.toUInt8.toUInt64 = v := by
  apply UInt64.toNat_inj.mp
  rw [UInt8.toNat_toUInt64, UInt64.toNat_toUInt8]
  rw [UInt64.lt_iff_toNat_lt] at h
  exact Nat.mod_eq_of_lt h

theorem toUInt16_toUInt64_of_lt (v : UInt64) (h : v < 0x10000) : v.toUInt16.toUInt64 = v := by
  apply UInt64.toNat_inj.mp
  rw [UInt16.toNat_toUInt64, UInt64.toNat_toUInt16]
  rw [UInt64.lt_iff_toNat_lt] at h
  exact Nat.mod_eq_of_lt h

theorem toUInt32_toUInt64_of_lt (v : UInt64) (h : v < 0x100000000) :
    v.toUInt32.toUInt64 = v := by
  apply UInt64.toNat_inj.mp
  rw [UInt32.toNat_toUInt64, UInt64.toNat_toUInt32]
  rw [UInt64.lt_iff_toNat_lt] at h
  exact Nat.mod_eq_of_lt h

/-- The first byte is the value itself below `0xfd`. -/
theorem toUInt8_le_of_lt (v : UInt64) (h : v < 0xfd) : v.toUInt8 ≤ 0xfc := by
  rw [UInt8.le_iff_toNat_le, UInt64.toNat_toUInt8]
  rw [UInt64.lt_iff_toNat_lt] at h
  change v.toNat < 253 at h
  change v.toNat % 2 ^ 8 ≤ 252
  omega

theorem readsBack_bigSize : ReadsBack writeBigSize readBigSize (fun _ => True) := by
  intro n rest _
  have hn : n = ⟨n.value⟩ := rfl
  unfold writeBigSize
  simp only
  -- The writer picks a width, and the reader tells it from the first byte.
  by_cases h1 : n.value < 0xfd
  · have hbyte : n.value < 0x100 := UInt64.lt_trans h1 (by decide)
    rw [if_pos h1, readBigSize_write, if_pos (toUInt8_le_of_lt _ h1),
      toUInt8_toUInt64_of_lt _ hbyte]
  · rw [if_neg h1]
    by_cases h2 : n.value < 0x10000
    · rw [if_pos h2, List.append_assoc, readBigSize_write, if_neg (by decide), if_pos rfl]
      have hback := toUInt16_toUInt64_of_lt _ h2
      rw [readBigSizeTail_write _ _ _ _ (by rw [hback]; exact h1), hback]
    · rw [if_neg h2]
      by_cases h3 : n.value < 0x100000000
      · rw [if_pos h3, List.append_assoc, readBigSize_write, if_neg (by decide),
          if_neg (by decide), if_pos rfl]
        have hback := toUInt32_toUInt64_of_lt _ h3
        rw [readBigSizeTail_write _ _ _ _ (by rw [hback]; exact h2), hback]
      · rw [if_neg h3, List.append_assoc, readBigSize_write, if_neg (by decide),
          if_neg (by decide), if_neg (by decide)]
        exact readBigSizeTail_write id _ _ _ h3

/-- A `BigSize` is accepted in no width but its own. -/
theorem canonical_bigSize : Canonical writeBigSize readBigSize (fun _ => True) := by
  intro b n rest h
  refine ⟨?_, trivial⟩
  have hfirst := h
  rw [readBigSize, Outcome.bind_eq_ok] at hfirst
  rcases hfirst with ⟨⟨first, tail⟩, hread, -⟩
  rw [Outcome.mapErr_eq_ok] at hread
  have hb := eq_write_of_read hread
  rw [hb, readBigSize_write] at h
  rw [hb]
  unfold writeBigSize
  simp only
  by_cases h1 : first ≤ 0xfc
  · rw [if_pos h1] at h
    simp only [Outcome.ok.injEq, Prod.mk.injEq] at h
    have hlt : first.toUInt64 < 0xfd := by
      rw [UInt64.lt_iff_toNat_lt, UInt8.toNat_toUInt64]
      rw [UInt8.le_iff_toNat_le] at h1
      exact Nat.lt_succ_of_le h1
    rw [← h.1, ← h.2]
    simp only [if_pos hlt, UInt8.toUInt8_toUInt64]
  · rw [if_neg h1] at h
    by_cases h2 : first = 0xfd
    · rw [if_pos h2] at h
      rcases readBigSizeTail_eq_ok _ _ _ _ _ h with ⟨v, htail, hv, hmin⟩
      have hlt : v.toUInt64 < 0x10000 := by
        rw [UInt64.lt_iff_toNat_lt, UInt16.toNat_toUInt64]
        exact v.toNat_lt
      rw [hv, if_neg hmin, if_pos hlt, UInt16.toUInt16_toUInt64, h2, htail, List.append_assoc]
    · rw [if_neg h2] at h
      by_cases h3 : first = 0xfe
      · rw [if_pos h3] at h
        rcases readBigSizeTail_eq_ok _ _ _ _ _ h with ⟨v, htail, hv, hmin⟩
        have hlt : v.toUInt64 < 0x100000000 := by
          rw [UInt64.lt_iff_toNat_lt, UInt32.toNat_toUInt64]
          exact v.toNat_lt
        have hmin' : ¬ v.toUInt64 < 0xfd := fun hc => hmin (UInt64.lt_trans hc (by decide))
        rw [hv, if_neg hmin', if_neg hmin, if_pos hlt, UInt32.toUInt32_toUInt64, h3, htail,
          List.append_assoc]
      · rw [if_neg h3] at h
        rcases readBigSizeTail_eq_ok _ _ _ _ _ h with ⟨v, htail, hv, hmin⟩
        simp only [id_eq] at hv hmin
        have hmin1 : ¬ v < 0xfd := fun hc => hmin (UInt64.lt_trans hc (by decide))
        have hmin2 : ¬ v < 0x10000 := fun hc => hmin (UInt64.lt_trans hc (by decide))
        -- The only first byte left is the one that announces eight more.
        have hff : first = 0xff := by
          apply UInt8.toNat_inj.mp
          have hne2 : first.toNat ≠ 253 := fun hc => h2 (UInt8.toNat_inj.mp hc)
          have hne3 : first.toNat ≠ 254 := fun hc => h3 (UInt8.toNat_inj.mp hc)
          have hgt : ¬ first.toNat ≤ 252 := fun hc => h1 (UInt8.le_iff_toNat_le.mpr hc)
          have hmax := first.toNat_lt
          change first.toNat = 255
          omega
        rw [hv, if_neg hmin1, if_neg hmin2, if_neg hmin, hff, htail, List.append_assoc]

instance : LawfulWire BigSize := ⟨readsBack_bigSize, canonical_bigSize⟩

theorem settles_byteArr (n : Nat) (data : Bytes) : (readByteArr n data).Settles := by
  by_cases h : data.length < n
  · rw [readByteArr, if_pos h]
    exact Outcome.settles_err _
  · rw [readByteArr_eq n data (by omega)]
    exact Outcome.settles_ok _

theorem settles_int {α : Type} (size : Nat) (fromNat : Nat → α) (data : Bytes) :
    (readInt size fromNat data).Settles :=
  settles_via _ _ (settles_byteArr size) (fun _ => Outcome.settles_ok _) data

instance (n : Nat) : TotalWire (ByteArr n) := ⟨settles_byteArr n⟩

instance : TotalWire UInt8 := ⟨settles_int 1 _⟩

instance : TotalWire UInt16 := ⟨settles_int 2 _⟩

instance : TotalWire UInt32 := ⟨settles_int 4 _⟩

instance : TotalWire UInt64 := ⟨settles_int 8 _⟩

instance : TotalWire Int64 := ⟨settles_int 8 _⟩

instance : TotalWire ChannelId :=
  ⟨settles_via _ _ (settles_byteArr _) (fun _ => Outcome.settles_ok _)⟩

instance : TotalWire Txid :=
  ⟨settles_via _ _ (settles_byteArr _) (fun _ => Outcome.settles_ok _)⟩

instance (S : Secp256k1) : TotalWire S.PublicKey :=
  ⟨settles_via _ _ (settles_byteArr _) (fun _ => Outcome.settles_okOr _ _)⟩

instance (S : Secp256k1) : TotalWire S.Signature :=
  ⟨settles_via _ _ (settles_byteArr _) (fun _ => Outcome.settles_okOr _ _)⟩

/-- The slices of the vector reader stay in bounds. -/
instance : TotalWire Bytes where
  settles data := by
    refine Outcome.settles_bind _ _ (TotalWire.settles data) ?_
    intro p _
    rcases p with ⟨len, tail⟩
    by_cases h : tail.length < len.toNat
    · simp only [if_pos h]
      exact Outcome.settles_err _
    · have hread := readVec_eq len tail (by omega)
      rw [readVec, read_write, Outcome.ok_bind] at hread
      simp only at hread ⊢
      rw [hread]
      exact Outcome.settles_ok _

/-- Reading a field settles, whatever is done with it next does too. -/
theorem settles_read {α β : Type} [WireFormat α] [TotalWire α] (data : Bytes)
    (f : α × Bytes → Outcome BoltError β) (hf : ∀ p, (f p).Settles) :
    (readAs α data >>= f).Settles :=
  Outcome.settles_bind _ _ (TotalWire.settles data) (fun p _ => hf p)

theorem settles_bigSizeTail {α : Type} [WireFormat α] [TotalWire α] (toU64 : α → UInt64)
    (least : UInt64) (data : Bytes) : (readBigSizeTail toU64 least data).Settles := by
  refine Outcome.settles_bind _ _ (Outcome.settles_mapErr _ _ (TotalWire.settles data)) ?_
  intro p _
  by_cases h : toU64 p.1 < least
  · simp only [if_pos h]
    exact Outcome.settles_err _
  · simp only [if_neg h]
    exact Outcome.settles_ok _

instance : TotalWire BigSize where
  settles data := by
    refine Outcome.settles_bind _ _ (Outcome.settles_mapErr _ _ (TotalWire.settles data)) ?_
    intro p _
    -- Past the first byte, each width either is the value or reads the rest of it.
    simp only
    split_ifs
    · exact Outcome.settles_ok _
    · exact settles_bigSizeTail _ _ _
    · exact settles_bigSizeTail _ _ _
    · exact settles_bigSizeTail _ _ _

theorem writeInt_length {α : Type} (size : Nat) (toNat : α → Nat) (v : α) :
    (writeInt size toNat v).length = size := beBytes_length size (toNat v)

@[simp] theorem write_byteArr_length (n : Nat) (v : ByteArr n) :
    (WireFormat.write v).length = n := v.toList_length

@[simp] theorem write_uInt8_length (v : UInt8) : (WireFormat.write v).length = 1 :=
  writeInt_length 1 _ v

@[simp] theorem write_uInt16_length (v : UInt16) : (WireFormat.write v).length = 2 :=
  writeInt_length 2 _ v

@[simp] theorem write_uInt32_length (v : UInt32) : (WireFormat.write v).length = 4 :=
  writeInt_length 4 _ v

@[simp] theorem write_uInt64_length (v : UInt64) : (WireFormat.write v).length = 8 :=
  writeInt_length 8 _ v

@[simp] theorem write_publicKey_length {S : Secp256k1} (k : S.PublicKey) :
    (WireFormat.write k).length = 33 := (S.serialize k).toList_length

@[simp] theorem write_signature_length {S : Secp256k1} (sig : S.Signature) :
    (WireFormat.write sig).length = 64 := (S.serializeCompact sig).toList_length

@[simp] theorem write_vec_length (bytes : Bytes) :
    (WireFormat.write bytes).length = 2 + bytes.length := by
  change (writeVec bytes).length = _
  unfold writeVec
  rw [List.length_append, write_uInt16_length]

/-- A `BigSize` is written in as many bytes as `BigSize.len` says. -/
theorem writeBigSize_length (n : BigSize) : (writeBigSize n).length = n.len := by
  unfold writeBigSize BigSize.len
  simp only
  split_ifs with h1 h2 h3
  · exact writeInt_length 1 _ _
  · rw [List.length_append]
    exact congrArg₂ (· + ·) (writeInt_length 1 _ _) (writeInt_length 2 _ _)
  · rw [List.length_append]
    exact congrArg₂ (· + ·) (writeInt_length 1 _ _) (writeInt_length 4 _ _)
  · rw [List.length_append]
    exact congrArg₂ (· + ·) (writeInt_length 1 _ _) (writeInt_length 8 _ _)

/-- A greater number needs no fewer bytes. -/
theorem bigSize_len_mono (m n : BigSize) (h : m.value ≤ n.value) : m.len ≤ n.len := by
  have hlt : ∀ c : UInt64, n.value < c → m.value < c := fun c hc => UInt64.lt_of_le_of_lt h hc
  unfold BigSize.len
  by_cases h1 : n.value < 0xfd
  · rw [if_pos h1, if_pos (hlt _ h1)]
  · rw [if_neg h1]
    by_cases h2 : n.value < 0x10000
    · rw [if_pos h2, if_pos (hlt _ h2)]
      split_ifs <;> omega
    · rw [if_neg h2]
      by_cases h3 : n.value < 0x100000000
      · rw [if_pos h3, if_pos (hlt _ h3)]
        split_ifs <;> omega
      · rw [if_neg h3]
        split_ifs <;> omega

end Bolt

end LnGossipSim
