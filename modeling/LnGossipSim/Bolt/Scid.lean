import Mathlib.Logic.Equiv.Defs
import LnGossipSim.Bolt.Gossip

/-!
# Short Channel Ids

A short channel id is one 64-bit number and stands for three: a block height,
the index of a transaction in the block, and the index of an output. It is
packed with shifts and printed with shifts and masks. `ScidParts` is the triple,
with the width of each number in the type, and `scidEquiv` says that packing
loses nothing: the triples are the 64-bit numbers.

## Main definitions

* `ScidParts`: A block, a transaction and an output, each in its width.
* `packScid`: The triple as one number.
* `scidStr`: How a short channel id is printed.

## Theorems

* `packScid_toNat`: The packed fields do not overlap.
* `scidEquiv`: The triples are the 64-bit numbers.
* `scidStr_eq`: What is printed are the three numbers.
-/

namespace LnGossipSim

namespace Bolt

/-- The three numbers of a short channel id. -/
@[ext]
structure ScidParts where
  block : Nat
  txIndex : Nat
  output : Nat
  block_lt : block < 2 ^ 24
  txIndex_lt : txIndex < 2 ^ 24
  output_lt : output < 2 ^ 16

/-- A block height (24 bits), transaction index (24 bits) and output index (16
    bits) in one number. -/
def packScid (block txIndex output : UInt64) : UInt64 :=
  (block <<< 40) ||| (txIndex <<< 16) ||| output

/-- A short channel id formatted as block, transaction and output, separated by
    an `x`. -/
def scidStr (shortChannelId : UInt64) : String :=
  let block := shortChannelId >>> 40
  let txIndex := (shortChannelId >>> 16) &&& 0xFFFFFF
  let output := shortChannelId &&& 0xFFFF
  s!"{block}x{txIndex}x{output}"

/-- Returns the short channel ID formatted as `block x tx x output`. -/
def ChannelUpdate.scidStr {S : Secp256k1} (m : ChannelUpdate S) : String :=
  Bolt.scidStr m.shortChannelId

/-- Returns the short channel ID formatted as `block x tx x output`. -/
def ChannelAnnouncement.scidStr {S : Secp256k1} (m : ChannelAnnouncement S) : String :=
  Bolt.scidStr m.shortChannelId

/-- The fields do not overlap, so packing is a sum. -/
theorem packScid_toNat (block txIndex output : UInt64) (hblock : block.toNat < 2 ^ 24)
    (htx : txIndex.toNat < 2 ^ 24) (hout : output.toNat < 2 ^ 16) :
    (packScid block txIndex output).toNat
      = block.toNat * 2 ^ 40 + txIndex.toNat * 2 ^ 16 + output.toNat := by
  have hinner := Nat.two_pow_add_eq_or_of_lt (i := 16) hout txIndex.toNat
  have houter := Nat.two_pow_add_eq_or_of_lt (i := 40)
    (b := 2 ^ 16 * txIndex.toNat + output.toNat) (by omega) block.toNat
  unfold packScid
  rw [UInt64.toNat_or, UInt64.toNat_or, UInt64.toNat_shiftLeft, UInt64.toNat_shiftLeft,
    Nat.or_assoc]
  simp only [UInt64.reduceToNat, Nat.reduceMod, Nat.shiftLeft_eq]
  rw [Nat.mod_eq_of_lt (by omega), Nat.mod_eq_of_lt (by omega), Nat.mul_comm txIndex.toNat,
    Nat.mul_comm block.toNat, ← hinner, ← houter]
  omega

/-- The three numbers of a short channel id, as the printing code cuts them
    out. -/
theorem scid_fields (v : UInt64) :
    (v >>> 40).toNat = v.toNat / 2 ^ 40
      ∧ ((v >>> 16) &&& 0xFFFFFF).toNat = v.toNat / 2 ^ 16 % 2 ^ 24
      ∧ (v &&& 0xFFFF).toNat = v.toNat % 2 ^ 16 := by
  refine ⟨?_, ?_, ?_⟩
  · rw [UInt64.toNat_shiftRight]
    exact Nat.shiftRight_eq_div_pow _ _
  · rw [UInt64.toNat_and, UInt64.toNat_shiftRight]
    exact (Nat.and_two_pow_sub_one_eq_mod _ 24).trans
      (congrArg (· % 2 ^ 24) (Nat.shiftRight_eq_div_pow _ _))
  · rw [UInt64.toNat_and]
    exact Nat.and_two_pow_sub_one_eq_mod _ 16

namespace ScidParts

/-- The three numbers in plain decimals, separated by an `x`. -/
def text (p : ScidParts) : String := s!"{p.block}x{p.txIndex}x{p.output}"

/-- The triple as one number. -/
def pack (p : ScidParts) : UInt64 :=
  packScid (UInt64.ofNat p.block) (UInt64.ofNat p.txIndex) (UInt64.ofNat p.output)

/-- The triple of a short channel id. -/
def ofScid (v : UInt64) : ScidParts where
  block := v.toNat / 2 ^ 40
  txIndex := v.toNat / 2 ^ 16 % 2 ^ 24
  output := v.toNat % 2 ^ 16
  block_lt := by
    have hv := v.toNat_lt
    omega
  txIndex_lt := Nat.mod_lt _ (by decide)
  output_lt := Nat.mod_lt _ (by decide)

theorem pack_toNat (p : ScidParts) :
    p.pack.toNat = p.block * 2 ^ 40 + p.txIndex * 2 ^ 16 + p.output := by
  have hb := p.block_lt
  have ht := p.txIndex_lt
  have ho := p.output_lt
  have hsize : UInt64.size = 2 ^ 64 := rfl
  have hblock : (UInt64.ofNat p.block).toNat = p.block := UInt64.toNat_ofNat_of_lt' (by omega)
  have htx : (UInt64.ofNat p.txIndex).toNat = p.txIndex := UInt64.toNat_ofNat_of_lt' (by omega)
  have hout : (UInt64.ofNat p.output).toNat = p.output := UInt64.toNat_ofNat_of_lt' (by omega)
  unfold pack
  rw [packScid_toNat _ _ _ (by omega) (by omega) (by omega), hblock, htx, hout]

end ScidParts

/-- The triples are the 64-bit numbers. -/
def scidEquiv : ScidParts ≃ UInt64 where
  toFun := ScidParts.pack
  invFun := ScidParts.ofScid
  left_inv p := by
    have hb := p.block_lt
    have ht := p.txIndex_lt
    have ho := p.output_lt
    have hpack := p.pack_toNat
    ext <;> simp only [ScidParts.ofScid] <;> omega
  right_inv v := by
    have hpack := (ScidParts.ofScid v).pack_toNat
    rw [← UInt64.toNat_inj, hpack]
    simp only [ScidParts.ofScid]
    omega

/-- What is printed of a short channel id are its three numbers. -/
theorem scidStr_eq (v : UInt64) : scidStr v = (ScidParts.ofScid v).text := by
  rcases scid_fields v with ⟨hblock, htx, hout⟩
  change toString (v >>> 40).toNat ++ "x" ++ toString ((v >>> 16) &&& 0xFFFFFF).toNat ++ "x"
    ++ toString (v &&& 0xFFFF).toNat = _
  rw [hblock, htx, hout]
  rfl

/-- What is printed of a packed triple is the triple. -/
theorem scidStr_pack (p : ScidParts) : scidStr p.pack = p.text := by
  have hleft : ScidParts.ofScid p.pack = p := scidEquiv.left_inv p
  rw [scidStr_eq, hleft]

end Bolt

end LnGossipSim
