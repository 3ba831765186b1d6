import LnGossipSim.Library.Decimal
import LnGossipSim.Bolt.Scid

/-!
# Parsing Short Channel Ids

The control socket takes a short channel id in the form the daemon prints it:
three decimal numbers separated by an `x`. The parser splits the text, reads
each field as a 64-bit number, and checks the widths before it packs.

A text is accepted exactly when its fields spell the numbers of a triple, and
the result is the triple as one number. So what is printed is read back, and a
short channel id has one triple, whichever text it came from.

## Main definitions

* `parseU64`: The unsigned parser of the standard library.
* `parseScid`: The short channel id that a text stands for.
* `SpellsScid`: What it means for a text to stand for a triple.

## Theorems

* `parseScid_eq_some`: What the parser accepts.
* `scid_text_exact`: Texts, triples and 64-bit numbers.
-/

namespace LnGossipSim

namespace Simd

open Bolt Decimal

/-- Parses an unsigned 64-bit number. -/
def parseU64 (s : List Char) : Option UInt64 :=
  (parseUnsigned (2 ^ 64) s).map UInt64.ofNat

/-- The next field of a text that was split, and those after it. -/
def nextField : List (List Char) → Option (List Char × List (List Char))
  | [] => none
  | field :: fields => some (field, fields)

/-- Parses a short channel ID in `block x tx_index x output` form into its compact
    64-bit encoding. -/
def parseScid (s : String) : Option UInt64 := do
  let (field, fields) ← nextField (s.toList.splitOn 'x')
  let block ← parseU64 field
  let (field, fields) ← nextField fields
  let txIndex ← parseU64 field
  let (field, fields) ← nextField fields
  let output ← parseU64 field
  if (nextField fields).isSome ∨ block > 0xFFFFFF ∨ txIndex > 0xFFFFFF ∨ output > 0xFFFF then none
  else some (packScid block txIndex output)

/-- The text is three fields separated by an `x`, and they spell the numbers of
    the triple. -/
def SpellsScid (s : String) (p : ScidParts) : Prop :=
  ∃ block txIndex output, s.toList = block ++ 'x' :: (txIndex ++ 'x' :: output)
    ∧ Spells block p.block ∧ Spells txIndex p.txIndex ∧ Spells output p.output

theorem parseU64_eq_some (s : List Char) (n : UInt64) :
    parseU64 s = some n ↔ Spells s n.toNat := by
  unfold parseU64
  rw [Option.map_eq_some_iff]
  constructor
  · intro h
    rcases h with ⟨m, hparse, hm⟩
    rcases (parseUnsigned_eq_some _ s m (by decide)).mp hparse with ⟨hspells, hlt⟩
    rw [← hm, UInt64.toNat_ofNat_of_lt' hlt]
    exact hspells
  · intro h
    exact ⟨n.toNat, (parseUnsigned_eq_some _ s _ (by decide)).mpr ⟨h, n.toNat_lt⟩,
      UInt64.ofNat_toNat⟩

theorem nextField_eq_some (fields : List (List Char)) (field : List Char)
    (rest : List (List Char)) :
    nextField fields = some (field, rest) ↔ fields = field :: rest := by
  cases fields with
  | nil => simp only [nextField, reduceCtorEq]
  | cons f fs => simp only [nextField, Option.some.injEq, Prod.mk.injEq, List.cons.injEq]

theorem nextField_isSome (fields : List (List Char)) :
    (nextField fields).isSome ↔ fields ≠ [] := by
  cases fields <;> simp [nextField]

/-- A text of three fields is split into them, when none of them has an `x`. -/
theorem splitOn_eq_three (s : List Char) (f g h : List Char) (hf : 'x' ∉ f) (hg : 'x' ∉ g)
    (hh : 'x' ∉ h) : s.splitOn 'x' = [f, g, h] ↔ s = f ++ 'x' :: (g ++ 'x' :: h) := by
  have hjoin : ['x'].intercalate [f, g, h] = f ++ 'x' :: (g ++ 'x' :: h) := by
    simp only [List.intercalate_cons_cons, List.intercalate_singleton, List.append_assoc,
      List.singleton_append]
  rw [← hjoin]
  constructor
  · intro hs
    rw [← hs, List.intercalate_splitOn]
  · intro hs
    rw [hs]
    refine List.splitOn_intercalate 'x' ?_ (by simp)
    simp only [List.mem_cons, List.not_mem_nil, or_false, forall_eq_or_imp, forall_eq]
    exact ⟨hf, hg, hh⟩

/-- The parser, field by field. -/
theorem parseScid_fields (s : String) (v : UInt64) :
    parseScid s = some v
      ↔ ∃ f g h block txIndex output, s.toList.splitOn 'x' = [f, g, h]
        ∧ parseU64 f = some block ∧ parseU64 g = some txIndex ∧ parseU64 h = some output
        ∧ block.toNat < 2 ^ 24 ∧ txIndex.toNat < 2 ^ 24 ∧ output.toNat < 2 ^ 16
        ∧ v = packScid block txIndex output := by
  have hmask : (0xFFFFFF : UInt64).toNat = 2 ^ 24 - 1 := rfl
  have hmask' : (0xFFFF : UInt64).toNat = 2 ^ 16 - 1 := rfl
  unfold parseScid
  simp only [Option.bind_eq_bind, Option.bind_eq_some_iff, Option.ite_none_left_eq_some,
    Option.some.injEq, not_or, gt_iff_lt, UInt64.lt_iff_toNat_lt, Prod.exists, nextField_eq_some,
    nextField_isSome, not_not, hmask, hmask']
  constructor
  · intro hparse
    rcases hparse with ⟨f, _, hf, block, hblock, g, _, hg, txIndex, htx, h, _, hh, output,
      hout, ⟨hend, hb, ht, ho⟩, hv⟩
    refine ⟨f, g, h, block, txIndex, output, ?_, hblock, htx, hout, by omega, by omega, by omega,
      hv.symm⟩
    rw [hf, hg, hh, hend]
  · intro hparse
    rcases hparse with ⟨f, g, h, block, txIndex, output, hsplit, hblock, htx, hout, hb, ht, ho, hv⟩
    exact ⟨f, [g, h], hsplit, block, hblock, g, [h], rfl, txIndex, htx, h, [], rfl, output, hout,
      ⟨rfl, by omega, by omega, by omega⟩, hv.symm⟩

/-- What the parser accepts are the texts of a triple, and it returns the triple
    as one number. -/
theorem parseScid_eq_some (s : String) (v : UInt64) :
    parseScid s = some v ↔ ∃ p : ScidParts, SpellsScid s p ∧ v = p.pack := by
  have hx : ∀ f n, Spells f n → 'x' ∉ f :=
    fun f n hf => not_mem_of_spells f n hf 'x' (by decide) (by decide)
  rw [parseScid_fields]
  constructor
  · intro hparse
    rcases hparse with ⟨f, g, h, block, txIndex, output, hsplit, hblock, htx, hout, hb, ht, ho, hv⟩
    rw [parseU64_eq_some] at hblock htx hout
    refine ⟨⟨block.toNat, txIndex.toNat, output.toNat, hb, ht, ho⟩, ⟨f, g, h, ?_, hblock, htx,
      hout⟩, ?_⟩
    · exact (splitOn_eq_three _ f g h (hx _ _ hblock) (hx _ _ htx) (hx _ _ hout)).mp hsplit
    · rw [hv, ScidParts.pack, UInt64.ofNat_toNat, UInt64.ofNat_toNat, UInt64.ofNat_toNat]
  · intro hspells
    rcases hspells with ⟨p, ⟨f, g, h, hs, hblock, htx, hout⟩, hv⟩
    have hb := p.block_lt
    have ht := p.txIndex_lt
    have ho := p.output_lt
    -- The numbers fit 64 bits, so the fields are read as what they spell.
    have hfits : ∀ n < 2 ^ 24, (UInt64.ofNat n).toNat = n :=
      fun n hn => UInt64.toNat_ofNat_of_lt' (Nat.lt_trans hn (by decide))
    refine ⟨f, g, h, UInt64.ofNat p.block, UInt64.ofNat p.txIndex, UInt64.ofNat p.output,
      (splitOn_eq_three _ f g h (hx _ _ hblock) (hx _ _ htx) (hx _ _ hout)).mpr hs, ?_, ?_, ?_, ?_,
      ?_, ?_, hv⟩
    · rwa [parseU64_eq_some, hfits _ hb]
    · rwa [parseU64_eq_some, hfits _ ht]
    · rwa [parseU64_eq_some, hfits _ (by omega)]
    · rwa [hfits _ hb]
    · rwa [hfits _ ht]
    · rwa [hfits _ (by omega)]

/-- The text a triple is printed as spells it. -/
theorem spellsScid_text (p : ScidParts) : SpellsScid p.text p := by
  refine ⟨Nat.toDigits 10 p.block, Nat.toDigits 10 p.txIndex, Nat.toDigits 10 p.output, ?_,
    spells_toDigits _, spells_toDigits _, spells_toDigits _⟩
  have hx : "x".toList = ['x'] := rfl
  change (toString p.block ++ "x" ++ toString p.txIndex ++ "x" ++ toString p.output).toList = _
  simp only [String.toList_append, Nat.toString_eq_repr, Nat.toList_repr, hx, List.append_assoc,
    List.cons_append, List.nil_append]

/-- What is printed is read back. -/
theorem parseScid_scidStr (v : UInt64) : parseScid (scidStr v) = some v := by
  rw [parseScid_eq_some]
  refine ⟨ScidParts.ofScid v, ?_, (scidEquiv.right_inv v).symm⟩
  rw [scidStr_eq]
  exact spellsScid_text _

/-- Texts, triples and 64-bit numbers. A text is parsed exactly when its fields
    spell a triple, and the result is the triple's sum. What a channel update or
    announcement prints is its triple, in plain decimals; it is parsed again to
    the same id. No two triples have one id. -/
theorem scid_text_exact (S : Secp256k1) :
    (∀ s v, parseScid s = some v ↔ ∃ p : ScidParts, SpellsScid s p
      ∧ v.toNat = p.block * 2 ^ 40 + p.txIndex * 2 ^ 16 + p.output
      ∧ scidStr v = p.text
      ∧ (∀ u : ChannelUpdate S, u.shortChannelId = v → u.scidStr = p.text)
      ∧ ∀ a : ChannelAnnouncement S, a.shortChannelId = v → a.scidStr = p.text)
    ∧ (∀ v, parseScid (scidStr v) = some v)
    ∧ (∀ u : ChannelUpdate S, parseScid u.scidStr = some u.shortChannelId)
    ∧ (∀ a : ChannelAnnouncement S, parseScid a.scidStr = some a.shortChannelId)
    ∧ ∀ p q : ScidParts, p.block * 2 ^ 40 + p.txIndex * 2 ^ 16 + p.output
        = q.block * 2 ^ 40 + q.txIndex * 2 ^ 16 + q.output → p = q := by
  have hsum : ∀ (p : ScidParts) (v : UInt64), v = p.pack
      ↔ v.toNat = p.block * 2 ^ 40 + p.txIndex * 2 ^ 16 + p.output := by
    intro p v
    rw [← UInt64.toNat_inj, p.pack_toNat]
  refine ⟨fun s v => ?_, parseScid_scidStr, fun u => parseScid_scidStr _,
    fun a => parseScid_scidStr _, fun p q h => ?_⟩
  · rw [parseScid_eq_some]
    refine exists_congr fun p => and_congr_right fun _ => ?_
    constructor
    · intro hv
      refine ⟨(hsum p v).mp hv, by rw [hv, scidStr_pack], fun u hu => ?_, fun a ha => ?_⟩
      · rw [ChannelUpdate.scidStr, hu, hv, scidStr_pack]
      · rw [ChannelAnnouncement.scidStr, ha, hv, scidStr_pack]
    · exact fun h => (hsum p v).mpr h.1
  · refine scidEquiv.injective (UInt64.toNat_inj.mp ?_)
    exact p.pack_toNat.trans (h.trans q.pack_toNat.symm)

end Simd

end LnGossipSim
