import LnGossipSim.Library.Cut
import LnGossipSim.Bolt.Wire

/-!
# Wire Values Cut Short

Every value on the wire says how long it is: by its type, by the 16-bit prefix
of a vector, or by the first byte of a `BigSize`. Its reader takes exactly that
many bytes, and where they are not there it reports how many it expected and
how many it was given. The `BigSize` reports that it is truncated instead.

## Main definitions

* `IsTruncated`: The error says that fewer bytes came than were expected.
* `DelimitedWire`: A format every value of which is delimited.

## Theorems

* `delimits_byteArr`, `delimits_int`: Values of a fixed width.
* `delimits_vec`: A vector whose length its prefix describes.
* `delimits_publicKey`, `delimits_signature`: What the library parses back.
* `delimits_bigSize`: A number whose width depends on it.
-/

namespace LnGossipSim

namespace Bolt

open BigEndian Codec

/-- The error says that fewer bytes came than were expected. -/
def IsTruncated : BoltError → Prop
  | .truncated expected actual => actual < expected
  | _ => False

/-- A format whose values are delimited, all of them. -/
class DelimitedWire (α : Type) [WireFormat α] : Prop where
  delimits : ∀ v : α, Delimits IsTruncated (WireFormat.write v) (readAs α) v

theorem delimits_byteArr (n : Nat) (v : ByteArr n) :
    Delimits IsTruncated v.toList (readByteArr n) v := by
  refine ⟨fun rest => readsBack_byteArr n v rest trivial, ?_⟩
  intro p hp
  have hlen := properPrefix_length hp
  rw [v.toList_length] at hlen
  refine ⟨.truncated n p.length, hlen, ?_⟩
  rw [readByteArr, if_pos hlen]

theorem delimits_int {α : Type} (size : Nat) (fromNat : Nat → α) (toNat : α → Nat) (v : α)
    (hlt : toNat v < 256 ^ size) (hback : fromNat (toNat v) = v) :
    Delimits IsTruncated (writeInt size toNat v) (readInt size fromNat) v := by
  have hbytes := delimits_byteArr size
    (Slice.pack (beBytes size (toNat v)) (beBytes_length size (toNat v)))
  rw [Slice.pack_toList] at hbytes
  refine delimits_via IsTruncated _ (readByteArr size) _ _ v hbytes ?_
  rw [Slice.pack_toList, beNat_beBytes size _ hlt, hback]

instance (n : Nat) : DelimitedWire (ByteArr n) := ⟨delimits_byteArr n⟩

instance : DelimitedWire UInt8 := ⟨fun v => delimits_int 1 _ _ v v.toNat_lt UInt8.ofNat_toNat⟩

instance : DelimitedWire UInt16 := ⟨fun v => delimits_int 2 _ _ v v.toNat_lt UInt16.ofNat_toNat⟩

instance : DelimitedWire UInt32 := ⟨fun v => delimits_int 4 _ _ v v.toNat_lt UInt32.ofNat_toNat⟩

instance : DelimitedWire UInt64 := ⟨fun v => delimits_int 8 _ _ v v.toNat_lt UInt64.ofNat_toNat⟩

instance : DelimitedWire ChannelId :=
  ⟨fun v => delimits_via _ _ _ _ v.bytes v (delimits_byteArr channelIdSize v.bytes) rfl⟩

instance : DelimitedWire Txid :=
  ⟨fun v => delimits_via _ _ _ _ v.bytes v (delimits_byteArr txidSize v.bytes) rfl⟩

theorem delimits_publicKey {S : Secp256k1} (k : S.PublicKey) (h : S.KeyReparses k) :
    Delimits IsTruncated (WireFormat.write k) (readAs S.PublicKey) k := by
  refine delimits_via _ _ _ _ (S.serialize k) k (delimits_byteArr publicKeySize _) ?_
  rw [h, Outcome.okOr_some]

theorem delimits_signature {S : Secp256k1} (sig : S.Signature) (h : S.SignatureReparses sig) :
    Delimits IsTruncated (WireFormat.write sig) (readAs S.Signature) sig := by
  refine delimits_via _ _ _ _ (S.serializeCompact sig) sig
    (delimits_byteArr compactSignatureSize _) ?_
  rw [h, Outcome.okOr_some]

/-- A vector cut short ends inside its length prefix, or has fewer bytes than
    the prefix says. -/
theorem delimits_vec (v : Bytes) (h : FitsVec v) :
    Delimits IsTruncated (WireFormat.write v) (readAs Bytes) v := by
  refine ⟨fun rest => read_write_vec v rest h, ?_⟩
  intro p hp
  change (readVec p).FailsWith IsTruncated
  refine failsWith_read IsTruncated (DelimitedWire.delimits (UInt16.ofNat v.length)) hp ?_
  intro q hq
  have hlen : (UInt16.ofNat v.length).toNat = v.length := by
    rw [UInt16.toNat_ofNat']
    unfold FitsVec at h
    omega
  have hshort := properPrefix_length hq
  refine ⟨.truncated v.length q.length, hshort, ?_⟩
  simp only [hlen, if_pos hshort]

/-- A part of a `BigSize`, cut short: whichever part it is, the number is
    reported truncated. -/
theorem bigSizePart_cut {α β : Type} [WireFormat α] [DelimitedWire α] (v : α) (p : Bytes)
    (hp : ProperPrefix p (WireFormat.write v)) (f : α × Bytes → Outcome BoltError β) :
    ((readAs α p).mapErr (fun _ => BoltError.bigSizeTruncated) >>= f).FailsWith
      (· = .bigSizeTruncated) := by
  have hv := delimits_mapErr IsTruncated (· = BoltError.bigSizeTruncated)
    (fun _ => BoltError.bigSizeTruncated) _ _ _ (DelimitedWire.delimits v) (fun _ _ => rfl)
  exact failsWith_read_last _ hv hp

/-- A first byte and the value after it, cut short: nothing is left, or the
    value is cut. -/
theorem readBigSize_cut {α : Type} [WireFormat α] [DelimitedWire α] (toU64 : α → UInt64)
    (least : UInt64) (first : UInt8) (v : α) (p : Bytes)
    (hp : ProperPrefix p (WireFormat.write first ++ WireFormat.write v))
    (hread : ∀ rest, readBigSize (WireFormat.write first ++ rest)
      = readBigSizeTail toU64 least rest) :
    (readBigSize p).FailsWith (· = .bigSizeTruncated) := by
  rcases properPrefix_append hp with hcut | ⟨q, hpq, hq⟩
  · exact bigSizePart_cut first p hcut _
  · rw [hpq, hread]
    exact bigSizePart_cut v q hq _

theorem delimits_bigSize (n : BigSize) :
    Delimits (· = BoltError.bigSizeTruncated) (WireFormat.write n) (readAs BigSize) n := by
  refine ⟨fun rest => readsBack_bigSize n rest trivial, ?_⟩
  intro p hp
  change (readBigSize p).FailsWith _
  change ProperPrefix p (writeBigSize n) at hp
  unfold writeBigSize at hp
  simp only at hp
  -- One byte cannot be cut. Each wider form is cut in its tail.
  by_cases h1 : n.value < 0xfd
  · rw [if_pos h1] at hp
    exact bigSizePart_cut n.value.toUInt8 p hp _
  · rw [if_neg h1] at hp
    by_cases h2 : n.value < 0x10000
    · rw [if_pos h2] at hp
      refine readBigSize_cut UInt16.toUInt64 0xfd _ _ p hp ?_
      intro rest
      rw [readBigSize_write, if_neg (by decide), if_pos rfl]
    · rw [if_neg h2] at hp
      by_cases h3 : n.value < 0x100000000
      · rw [if_pos h3] at hp
        refine readBigSize_cut UInt32.toUInt64 0x10000 _ _ p hp ?_
        intro rest
        rw [readBigSize_write, if_neg (by decide), if_neg (by decide), if_pos rfl]
      · rw [if_neg h3] at hp
        refine readBigSize_cut (id : UInt64 → UInt64) 0x100000000 _ _ p hp ?_
        intro rest
        rw [readBigSize_write, if_neg (by decide), if_neg (by decide), if_neg (by decide)]

end Bolt

end LnGossipSim
