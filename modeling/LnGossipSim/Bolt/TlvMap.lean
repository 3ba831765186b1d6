import LnGossipSim.Bolt.TlvFields

/-!
# Streams as Finite Maps

A stream stands for a finite map from types to values, and `get` is that map.
As long as its records are sorted a stream has one record for a type and is
determined by the map it stands for. Adding a record is then an update of the
map at a type that was absent, and panics at one that is present.

Both the check for a duplicate and the insertion point look at one record
only, so they are right because the earlier records are sorted. The induction
over a run of `add` carries that, and which values the map has by then: those
the run started with and those it added. Neither depends on the order in which
they were added, and so neither does the stream.

## Main definitions

* `TlvStream.addAll`: Records added one after the other.
* `TlvStream.Base`: A stream that runs of `add` start from.

## Theorems

* `eq_of_get`: A sorted stream is determined by its map.
* `add_panics_iff`: When `add` panics.
* `get_add`: What `add` does to the map.
* `addAll_spec`, `exists_addAll_iff`: What a run of `add` does to it.
* `tlvStream_map`: Streams are sorted finite maps.
-/

namespace LnGossipSim

namespace Bolt

namespace TlvStream

/-- Adds records one after the other, stopping where `add` panics. -/
def addAll (stream : TlvStream) (pairs : List (UInt64 × ByteVec)) : Outcome BoltError TlvStream :=
  pairs.foldlM (fun s p => s.add p.1 p.2) stream

/-- The empty stream, or one that was decoded. -/
def Base (stream : TlvStream) : Prop :=
  stream = new ∨ ∃ data knownEven, decodeWithKnown data knownEven = .ok stream

theorem addAll_nil (s : TlvStream) : s.addAll [] = .ok s := rfl

theorem addAll_cons (s : TlvStream) (p : UInt64 × ByteVec) (pairs : List (UInt64 × ByteVec)) :
    s.addAll (p :: pairs) = s.add p.1 p.2 >>= fun s' => s'.addAll pairs := by
  unfold addAll
  rw [List.foldlM_cons]

theorem base_increasing (s : TlvStream) (h : s.Base) : s.Increasing := by
  rcases h with hnew | ⟨data, knownEven, hdecode⟩
  · rw [hnew]
    exact List.Pairwise.nil
  · have hadm := ((decodeWithKnown_eq_ok data knownEven s).mp hdecode).2
    exact ((admitted_iff knownEven s.records).mp hadm).1

/-- A sorted stream is determined by its map. -/
theorem eq_of_get (s s' : TlvStream) (hs : s.Increasing) (hs' : s'.Increasing)
    (h : ∀ t v, s.get t = some v ↔ s'.get t = some v) : s = s' := by
  have hirrefl : Std.Irrefl (fun r r' : TlvRecord => r.tlvType < r'.tlvType) :=
    ⟨fun r => UInt64.lt_irrefl r.tlvType⟩
  have hanti : Std.Antisymm (fun r r' : TlvRecord => r.tlvType < r'.tlvType) :=
    ⟨fun r r' hlt hgt => absurd hgt (UInt64.lt_asymm hlt)⟩
  -- Two sorted lists with the same members are equal.
  have hrecords : s.records = s'.records := by
    refine List.Pairwise.eq_of_mem_iff (r := fun r r' : TlvRecord => r.tlvType < r'.tlvType)
      hs hs' ?_
    intro r
    rw [← get_eq_some s hs r.tlvType r.value, ← get_eq_some s' hs' r.tlvType r.value]
    exact h r.tlvType r.value
  cases s
  cases s'
  exact congrArg TlvStream.mk hrecords

/-- Adding to a sorted stream panics exactly at a type that is present. -/
theorem add_panics_iff (s : TlvStream) (hs : s.Increasing) (t : UInt64) (v : ByteVec) :
    s.add t v = .panicked ↔ ∃ r ∈ s.records, r.tlvType = t := by
  rcases exists_split s.records t with ⟨before, after, hsplit, hbefore, hafter⟩
  have hadd := add_split before after t v hbefore hafter
  rw [← hsplit] at hadd
  rw [hadd]
  by_cases hdup : after.head?.map TlvRecord.tlvType = some t
  · rw [if_pos hdup]
    rcases Option.map_eq_some_iff.mp hdup with ⟨r, hr, ht⟩
    refine ⟨fun _ => ⟨r, ?_, ht⟩, fun _ => rfl⟩
    rw [hsplit]
    exact List.mem_append_right _ (List.mem_of_mem_head? hr)
  · rw [if_neg hdup]
    refine ⟨fun h => (nomatch h), fun h => ?_⟩
    rcases h with ⟨r, hr, ht⟩
    rw [hsplit] at hr
    rcases List.mem_append.mp hr with hb | ha
    · exact absurd ht (UInt64.ne_of_lt (hbefore r hb))
    -- Behind the first record after the cut, the types only grow.
    · unfold Increasing at hs
      rw [hsplit, List.pairwise_append] at hs
      cases after with
      | nil => exact absurd ha List.not_mem_nil
      | cons a as =>
          have hta : t ≤ a.tlvType := hafter a rfl
          have hne : a.tlvType ≠ t := fun heq => hdup (congrArg some heq)
          rcases List.mem_cons.mp ha with heq | hmem
          · rw [heq] at ht
            exact absurd ht hne
          · have hlt : a.tlvType < r.tlvType := List.rel_of_pairwise_cons hs.2.1 hmem
            rw [ht] at hlt
            exact absurd hta (UInt64.not_le.mpr hlt)

/-- Adding to a sorted stream succeeds at a type that is absent. -/
theorem add_of_absent (s : TlvStream) (hs : s.Increasing) (t : UInt64) (v : ByteVec)
    (h : s.get t = none) : ∃ s', s.add t v = .ok s' := by
  have hpanic := (add_panics_iff s hs t v).not.mpr (by
    intro hex
    rcases hex with ⟨r, hr, ht⟩
    exact (get_eq_none s t).mp h r hr ht)
  unfold add at hpanic ⊢
  simp only at hpanic ⊢
  split_ifs at hpanic ⊢ with hpos
  · exact ⟨_, rfl⟩
  · exact absurd rfl hpanic

/-- A record that was added is the value of its type, and the others are as they
    were. The type was absent. -/
theorem get_add (s s' : TlvStream) (hs : s.Increasing) (t : UInt64) (v : ByteVec)
    (h : s.add t v = .ok s') :
    s.get t = none ∧ ∀ t' w, s'.get t' = some w ↔ (t' = t ∧ w = v) ∨ s.get t' = some w := by
  have habsent : s.get t = none := by
    rw [get_eq_none]
    intro r hr ht
    have hpanic := (add_panics_iff s hs t v).mpr ⟨r, hr, ht⟩
    rw [h] at hpanic
    exact nomatch hpanic
  refine ⟨habsent, fun t' w => ?_⟩
  rcases add_eq_ok s s' t v h with ⟨before, after, hrec, hrec', -, -⟩
  rw [get_eq_some s' (add_increasing s s' t v hs h), get_eq_some s hs, hrec, hrec']
  simp only [List.mem_append, List.mem_cons, TlvRecord.mk.injEq]
  constructor
  · intro hmem
    rcases hmem with hb | heq | ha
    · exact Or.inr (Or.inl hb)
    · exact Or.inl heq
    · exact Or.inr (Or.inr ha)
  · intro hmem
    rcases hmem with heq | hb | ha
    · exact Or.inr (Or.inl heq)
    · exact Or.inl hb
    · exact Or.inr (Or.inr ha)

/-- What a run of `add` preserves and what it adds: the stream stays sorted, and
    its values are those it had and those that were added. -/
theorem addAll_spec (s s' : TlvStream) (pairs : List (UInt64 × ByteVec)) (hs : s.Increasing)
    (h : s.addAll pairs = .ok s') :
    s'.Increasing ∧ ∀ t v, s'.get t = some v ↔ (t, v) ∈ pairs ∨ s.get t = some v := by
  induction pairs generalizing s with
  | nil =>
      rw [addAll_nil, Outcome.ok.injEq] at h
      rw [← h]
      refine ⟨hs, fun t v => ?_⟩
      rw [or_iff_right List.not_mem_nil]
  | cons p pairs ih =>
      rw [addAll_cons, Outcome.bind_eq_ok] at h
      rcases h with ⟨s₁, hadd, h⟩
      rcases ih s₁ (add_increasing s s₁ p.1 p.2 hs hadd) h with ⟨hinc, hget⟩
      refine ⟨hinc, fun t v => ?_⟩
      rw [hget t v, (get_add s s₁ hs p.1 p.2 hadd).2 t v, List.mem_cons, Prod.ext_iff, or_assoc]
      exact or_left_comm

/-- A run of `add` succeeds exactly on distinct types that are absent. -/
theorem exists_addAll_iff (s : TlvStream) (pairs : List (UInt64 × ByteVec)) (hs : s.Increasing) :
    (∃ s', s.addAll pairs = .ok s')
      ↔ (pairs.map Prod.fst).Nodup ∧ ∀ p ∈ pairs, s.get p.1 = none := by
  induction pairs generalizing s with
  | nil =>
      refine ⟨fun _ => ⟨List.nodup_nil, fun p hp => absurd hp List.not_mem_nil⟩, fun _ => ?_⟩
      exact ⟨s, addAll_nil s⟩
  | cons p pairs ih =>
      rw [List.map_cons, List.nodup_cons, List.forall_mem_cons, addAll_cons]
      constructor
      · intro h
        rcases h with ⟨s', h⟩
        rw [Outcome.bind_eq_ok] at h
        rcases h with ⟨s₁, hadd, h⟩
        rcases get_add s s₁ hs p.1 p.2 hadd with ⟨habsent, hget⟩
        rcases (ih s₁ (add_increasing s s₁ p.1 p.2 hs hadd)).mp ⟨s', h⟩ with ⟨hnodup, hrest⟩
        refine ⟨⟨?_, hnodup⟩, habsent, ?_⟩
        -- The first type is present from then on, so it does not come again.
        · intro hmem
          rcases List.mem_map.mp hmem with ⟨q, hq, heq⟩
          have hpresent := (hget q.1 p.2).mpr (Or.inl ⟨heq, rfl⟩)
          rw [hrest q hq] at hpresent
          exact nomatch hpresent
        · intro q hq
          rw [Option.eq_none_iff_forall_ne_some]
          intro w hw
          have hkept := (hget q.1 w).mpr (Or.inr hw)
          rw [hrest q hq] at hkept
          exact nomatch hkept
      · intro h
        rcases h with ⟨⟨hfresh, hnodup⟩, habsent, hrest⟩
        rcases add_of_absent s hs p.1 p.2 habsent with ⟨s₁, hadd⟩
        rw [hadd, Outcome.ok_bind]
        refine (ih s₁ (add_increasing s s₁ p.1 p.2 hs hadd)).mpr ⟨hnodup, fun q hq => ?_⟩
        rw [Option.eq_none_iff_forall_ne_some]
        intro w hw
        rcases ((get_add s s₁ hs p.1 p.2 hadd).2 q.1 w).mp hw with ⟨heq, -⟩ | hkept
        · exact hfresh (List.mem_map.mpr ⟨q, hq, heq⟩)
        · rw [hrest q hq] at hkept
          exact nomatch hkept

/-- Streams are sorted finite maps. A stream that `add` was run on, from the
    empty one or one that was decoded, is sorted, has the values it started with
    and those that were added and no others, and panics exactly on another record
    of a type it has. Records of distinct types can be added, and give one stream
    in whatever order. -/
theorem tlvStream_map (base : TlvStream) (hbase : base.Base)
    (pairs : List (UInt64 × ByteVec)) :
    (∀ s, base.addAll pairs = .ok s →
      s.records.Pairwise (fun r r' => r.tlvType < r'.tlvType)
      ∧ (∀ t v, s.get t = some v ↔ (t, v) ∈ pairs ∨ ⟨t, v⟩ ∈ base.records)
      ∧ (∀ t, s.get t = none ↔ ∀ r ∈ s.records, r.tlvType ≠ t)
      ∧ ∀ t v, (s.add t v = .panicked ↔ ∃ r ∈ s.records, r.tlvType = t)
        ∧ ((∀ r ∈ s.records, r.tlvType ≠ t) → ∃ s', s.add t v = .ok s'))
    ∧ ((pairs.map Prod.fst).Nodup → (∀ p ∈ pairs, base.get p.1 = none) →
      ∃ s, base.addAll pairs = .ok s ∧ ∀ pairs', pairs'.Perm pairs →
        base.addAll pairs' = .ok s) := by
  have hinc := base_increasing base hbase
  refine ⟨fun s hs => ?_, fun hnodup habsent => ?_⟩
  · rcases addAll_spec base s pairs hinc hs with ⟨hsorted, hget⟩
    refine ⟨hsorted, fun t v => ?_, fun t => get_eq_none s t, fun t v => ?_⟩
    · rw [hget t v, get_eq_some base hinc]
    · exact ⟨add_panics_iff s hsorted t v,
        fun habsent => add_of_absent s hsorted t v ((get_eq_none s t).mpr habsent)⟩
  · rcases (exists_addAll_iff base pairs hinc).mpr ⟨hnodup, habsent⟩ with ⟨s, hs⟩
    refine ⟨s, hs, fun pairs' hperm => ?_⟩
    have hnodup' : (pairs'.map Prod.fst).Nodup := (hperm.map Prod.fst).nodup_iff.mpr hnodup
    rcases (exists_addAll_iff base pairs' hinc).mpr
      ⟨hnodup', fun p hp => habsent p (hperm.mem_iff.mp hp)⟩ with ⟨s', hs'⟩
    rcases addAll_spec base s pairs hinc hs with ⟨hsorted, hget⟩
    rcases addAll_spec base s' pairs' hinc hs' with ⟨hsorted', hget'⟩
    -- Both runs end in the same map, and the map determines the stream.
    rw [hs', eq_of_get s' s hsorted' hsorted fun t v => by rw [hget, hget', hperm.mem_iff]]

/-- Two records added in either order. -/
theorem tlvStream_map_swapped :
    ∃ s, new.addAll [(3, ⟨[7], by decide⟩), (1, ⟨[], by decide⟩)] = .ok s
      ∧ new.addAll [(1, ⟨[], by decide⟩), (3, ⟨[7], by decide⟩)] = .ok s := by
  rcases (tlvStream_map new (Or.inl rfl) [(3, ⟨[7], by decide⟩), (1, ⟨[], by decide⟩)]).2 (by decide)
    (by decide) with ⟨s, hs, hperm⟩
  exact ⟨s, hs, hperm _ (List.Perm.swap _ _ _)⟩

end TlvStream

end Bolt

end LnGossipSim
