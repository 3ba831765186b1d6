import LnGossipSim.Bolt.Wire

/-!
# Framed Values

Both directions of the wire format, for every type that has one. A value that
is written is read back and leaves what followed it, and what is read stands at
the front of the input as it is written. So a value has one encoding, whatever
follows, and a sequence of values is read back by reading them in turn.

The byte vector is the one format whose writer does not describe every value,
because the length it writes is cut to 16 bits. Its reader only returns vectors
that are described. Keys and signatures are parsed by the curve library, and
each direction needs one direction of what that promises.

## Main definitions

* `FramedInverse`: A reader and a writer that undo each other.

## Theorems

* `framed_of_lawful`: A lawful format is such a pair on all of its values.
* `bigSize_unique`: A number has one encoding.
* `wireFormat_framed`: Every format is such a pair.
-/

namespace LnGossipSim

namespace Bolt

open Codec

/-- On the values that fit, reading what was written gives the value and leaves
    what followed, and nothing but what is written is read. -/
def FramedInverse (α : Type) [WireFormat α] (Fits : α → Prop) : Prop :=
  (∀ v rest, Fits v → readAs α (WireFormat.write v ++ rest) = .ok (v, rest))
    ∧ ∀ b v rest, readAs α b = .ok (v, rest) → b = WireFormat.write v ++ rest ∧ Fits v

/-- A lawful format is a framed inverse on all of its values. -/
theorem framed_of_lawful (α : Type) [WireFormat α] [LawfulWire α] :
    FramedInverse α (fun _ => True) :=
  ⟨LawfulWire.readsBack, LawfulWire.canonical⟩

/-- A number is read, with nothing left over, from one byte string only. It has
    the length that `BigSize.len` gives. -/
theorem bigSize_unique (n : BigSize) :
    ∃ b : Bytes, b.length = n.len ∧ ∀ b', readAs BigSize b' = .ok (n, []) ↔ b' = b := by
  refine ⟨WireFormat.write n, writeBigSize_length n, fun b' => ⟨fun h => ?_, fun h => ?_⟩⟩
  · rw [eq_write_of_read h, List.append_nil]
  · have hback := read_write n []
    rw [List.append_nil] at hback
    rw [h, hback]

/-- Every reader is the exact framed inverse of its writer: for arrays of any
    length, the integers, the `BigSize`, byte vectors that fit their prefix,
    keys, channel and transaction ids and signatures. A number has one encoding
    as a `BigSize`. -/
theorem wireFormat_framed (S : Secp256k1) (hparses : S.ParsesSerialized)
    (hserializes : S.SerializesParsed) :
    (∀ n, FramedInverse (ByteArr n) (fun _ => True))
      ∧ FramedInverse UInt8 (fun _ => True) ∧ FramedInverse UInt16 (fun _ => True)
      ∧ FramedInverse UInt32 (fun _ => True) ∧ FramedInverse UInt64 (fun _ => True)
      ∧ FramedInverse Int64 (fun _ => True) ∧ FramedInverse BigSize (fun _ => True)
      ∧ FramedInverse Bytes (fun v => v.length ≤ 65535)
      ∧ FramedInverse S.PublicKey (fun _ => True) ∧ FramedInverse ChannelId (fun _ => True)
      ∧ FramedInverse Txid (fun _ => True) ∧ FramedInverse S.Signature (fun _ => True)
      ∧ ∀ n : BigSize, ∃ b : Bytes, b.length = n.len
        ∧ ∀ b', readAs BigSize b' = .ok (n, []) ↔ b' = b := by
  refine ⟨fun n => framed_of_lawful (ByteArr n), framed_of_lawful UInt8, framed_of_lawful UInt16,
    framed_of_lawful UInt32, framed_of_lawful UInt64, framed_of_lawful Int64,
    framed_of_lawful BigSize, ?_, ?_, framed_of_lawful ChannelId, framed_of_lawful Txid, ?_,
    bigSize_unique⟩
  · exact ⟨readsBack_vec, canonical_vec⟩
  -- The two parts of the assumption on the library serve one direction each.
  · refine ⟨fun v rest _ => read_write_publicKey v rest (hparses.key v), fun b v rest h => ?_⟩
    exact ⟨(eq_write_of_read_publicKey hserializes h).1, trivial⟩
  · refine ⟨fun v rest _ => read_write_signature v rest (hparses.signature v),
      fun b v rest h => ?_⟩
    exact ⟨(eq_write_of_read_signature hserializes h).1, trivial⟩

/-- A key in front of other bytes, with keys that are their own
    serialization. -/
theorem wireFormat_framed_key :
    readAs Secp256k1.transparent.PublicKey (List.replicate 33 2 ++ [7, 8])
      = .ok (List.Vector.replicate 33 2, [7, 8]) := by
  have hframed := wireFormat_framed .transparent Secp256k1.transparent_parsesSerialized
    Secp256k1.transparent_serializesParsed
  exact hframed.2.2.2.2.2.2.2.2.1.1 (List.Vector.replicate 33 2) [7, 8] trivial

end Bolt

end LnGossipSim
