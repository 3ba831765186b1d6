import LnGossipSim.Library.FirstHit
import LnGossipSim.Simd.Funding

/-!
# The Funding Output

The short channel id of an announcement has to be that of the output which pays
the funding address, or the daemon announces somebody else's output.

What bitcoind has to answer for this to work is said apart from the code, request
by request. The search through the block is a search through pages, where a
transaction that is not reported as it should is a page that cannot be read: it
does no harm behind the output that is found. Each answer determines the next
request, so there is one funding output.

## Main definitions

* `BlockReport`, `reportedOutputs`: A block as it should be reported.
* `FundingOutput`: The output whose short channel id is announced.
* `Bitcoind.ReportsBlocks`, `ReturnsHash`: What is assumed of the answers.

## Theorems

* `findFundingOutput_spec`: What the search through a block returns.
* `mineToFunding_eq_ok`: When mining to an address succeeds.
* `FundingOutput.unique`: There is only one funding output.
* `scid_of_funding_output`: The announced channel is the funding output's.
-/

namespace LnGossipSim

namespace Simd

open BigEndian Bolt

section

variable {S : Secp256k1} (L : BitcoinCrate S) (B : Bitcoind L.Address)

/-- The block is reported with a height and an array of transactions. -/
structure BlockReport (asked : List (Request L.Address)) (firstHash : String) (height : UInt64)
    (txids : List Json) : Prop where
  reported : ∃ block, B.call asked "getblock" [.string firstHash] = .ok block
    ∧ block.field "height" = .number (.posInt height) ∧ block.field "tx" = .array txids

/-- The outputs that are reported of the `i`th transaction, once those before it
    have been asked for. There are none when its id is no string, or the answer is
    an error or has no array of outputs. -/
def reportedOutputs (asked : List (Request L.Address)) (firstHash : String) (txids : List Json)
    (i : Nat) : Option (List Json) := do
  let txid ← txids[i]?
  let _ ← txid.asStr
  let before := (txids.take i).map fun txid =>
    Request.call "getrawtransaction" (transactionParams firstHash txid)
  let tx ← (B.call (asked ++ before) "getrawtransaction"
    (transactionParams firstHash txid)).toOption
  (tx.field "vout").asArray

/-- The requests made when the blocks are there: those made before, those for the
    address, and the one for the blocks. -/
def requestsOnceMined (drawn : S.SecretKey × S.SecretKey) (blocks : Nat)
    (asked : List (Request L.Address)) (checksum : String) (address : L.Address) :
    List (Request L.Address) :=
  asked ++ fundingRequests L drawn checksum ++ [.generateToAddress blocks address]

/-- Every answer up to the funding output is as it should be, the first mined block
    has this height, and its first output that pays the address is at these
    indices. -/
structure FundingOutput (drawn : S.SecretKey × S.SecretKey) (blocks : Nat)
    (asked : List (Request L.Address)) (address : L.Address) (height : UInt64) (ti oi : Nat) :
    Prop where
  located : ∃ checksum firstHash hashes txids, FundingReport L B drawn asked checksum address
    ∧ B.generateToAddress (asked ++ fundingRequests L drawn checksum) blocks address
      = .ok (firstHash :: hashes)
    ∧ BlockReport L B (requestsOnceMined L drawn blocks asked checksum address) firstHash height
      txids
    ∧ FirstHit (reportedOutputs L B (requestsOnceMined L drawn blocks asked checksum address
        ++ [.call "getblock" [.string firstHash]]) firstHash txids)
      (PaysTo (L.addressText address)) ti oi

/-- The call that mines, which is made once there is an address, returns a block hash
    when it succeeds. -/
def ReturnsHash (drawn : S.SecretKey × S.SecretKey) (blocks : Nat)
    (asked : List (Request L.Address)) : Prop :=
  ∀ checksum address, FundingReport L B drawn asked checksum address →
    B.generateToAddress (asked ++ fundingRequests L drawn checksum) blocks address ≠ .ok []

end

namespace Bitcoind

/-- Heights, transactions and outputs are in the range of a short channel id. -/
structure ReportsBlocks {Address : Type} (B : Bitcoind Address) : Prop where
  height : ∀ asked hash block height, B.call asked "getblock" [.string hash] = .ok block →
    (block.field "height").asU64 = some height → height.toNat < 2 ^ 24
  transactions : ∀ asked hash block txids, B.call asked "getblock" [.string hash] = .ok block →
    (block.field "tx").asArray = some txids → txids.length < 2 ^ 24
  outputs : ∀ asked params tx vout, B.call asked "getrawtransaction" params = .ok tx →
    (tx.field "vout").asArray = some vout → vout.length < 2 ^ 16

end Bitcoind

section

variable {S : Secp256k1} {L : BitcoinCrate S} {B : Bitcoind L.Address} {τ : Type}

/-- The outputs of the transactions behind the first, which was asked for before
    them. -/
theorem reportedOutputs_succ (asked : List (Request L.Address)) (firstHash : String) (txid : Json)
    (txids : List Json) (i : Nat) :
    reportedOutputs L B asked firstHash (txid :: txids) (i + 1)
      = reportedOutputs L B
        (asked ++ [.call "getrawtransaction" (transactionParams firstHash txid)]) firstHash txids
        i := by
  simp only [reportedOutputs, List.getElem?_cons_succ, List.take_succ_cons, List.map_cons,
    List.append_assoc, List.singleton_append]

/-- The outputs of the first transaction are reported when its id is a string and
    the answer has an array of outputs. -/
theorem reportedOutputs_zero (asked : List (Request L.Address)) (firstHash : String) (txid : Json)
    (txids outs : List Json) :
    reportedOutputs L B asked firstHash (txid :: txids) 0 = some outs
      ↔ ∃ id tx, txid = .string id
        ∧ B.call asked "getrawtransaction" (transactionParams firstHash (.string id)) = .ok tx
        ∧ tx.field "vout" = .array outs := by
  simp only [reportedOutputs, List.getElem?_cons_zero, List.take_zero, List.map_nil,
    List.append_nil]
  constructor
  · intro h
    rcases Option.bind_eq_some_iff.mp h with ⟨txid', htxid, h⟩
    rcases Option.bind_eq_some_iff.mp h with ⟨id, hid, h⟩
    rcases Option.bind_eq_some_iff.mp h with ⟨tx, htx, hvout⟩
    rw [← Option.some.inj htxid, Json.asStr_eq_some] at hid
    rw [← Option.some.inj htxid, hid] at htx
    rcases hcall : B.call asked "getrawtransaction" (transactionParams firstHash (.string id))
      with _ | tx'
    · rw [hcall] at htx
      exact nomatch htx
    · rw [hcall] at htx
      refine ⟨id, tx, hid, ?_, (Json.asArray_eq_some _ _).mp hvout⟩
      rw [hcall, show tx' = tx from Option.some.inj htx]
  · intro h
    rcases h with ⟨id, tx, rfl, hcall, hvout⟩
    refine Option.bind_eq_some_iff.mpr ⟨_, rfl, Option.bind_eq_some_iff.mpr ⟨id, rfl, ?_⟩⟩
    refine Option.bind_eq_some_iff.mpr ⟨tx, ?_, (Json.asArray_eq_some _ _).mpr hvout⟩
    rw [hcall]
    rfl

section

variable (firstHash addrStr : String) (start : Nat) (txid : Json) (txids : List Json)
    (asked : List (Request L.Address))

/-- The search goes past a transaction when its outputs are reported, and then by
    whether one of them pays the address. -/
theorem run_findFundingOutput_cons (outs : List Json)
    (hreport : reportedOutputs L B asked firstHash (txid :: txids) 0 = some outs) :
    ((findFundingOutput L B firstHash addrStr start (txid :: txids)
        : RpcMethod τ _ _ _).run asked).outcome
      = (((outs.findIdx? (fun out => PaysTo addrStr out)).elim
          (findFundingOutput L B firstHash addrStr (start + 1) txids : RpcMethod τ _ _ _)
          (fun oi => pure (some (UInt64.ofNat start), some (UInt64.ofNat oi)))).run
        (asked ++ [.call "getrawtransaction" (transactionParams firstHash txid)])).outcome := by
  rcases (reportedOutputs_zero asked firstHash txid txids outs).mp hreport with
    ⟨id, tx, rfl, hcall, hvout⟩
  have hvout' : (tx.field "vout").asArray = some outs := (Json.asArray_eq_some _ _).mpr hvout
  rw [findFundingOutput, show (Json.string id).asStr = some id from rfl, Outcome.okOr_some,
    Method.run_lift_ok_bind, rpcCall, run_ask_bind_of_ok _ _ _ _ _ hcall, hvout',
    Outcome.okOr_some, Method.run_lift_ok_bind]
  cases outs.findIdx? (fun out => PaysTo addrStr out) with
  | some oi => rfl
  | none => rfl

/-- The search ends with an error when the outputs are not reported. -/
theorem findFundingOutput_unreported
    (hreport : reportedOutputs L B asked firstHash (txid :: txids) 0 = none) :
    ∃ e, ((findFundingOutput L B firstHash addrStr start (txid :: txids)
      : RpcMethod τ _ _ _).run asked).outcome = .err e := by
  unfold findFundingOutput rpcCall
  rcases hid : txid.asStr with _ | id
  · rw [Outcome.okOr_none, Method.run_lift_err_bind]
    exact ⟨_, rfl⟩
  rw [Outcome.okOr_some, Method.run_lift_ok_bind]
  rcases hcall : B.call asked "getrawtransaction" (transactionParams firstHash (.string id))
    with e | tx
  · rw [run_ask_bind_of_error _ _ _ _ _ hcall]
    exact ⟨_, rfl⟩
  rcases hvout : (tx.field "vout").asArray with _ | outs
  · rw [run_ask_bind_of_ok _ _ _ _ _ hcall, hvout, Outcome.okOr_none, Method.run_lift_err_bind]
    exact ⟨_, rfl⟩
  · -- The outputs are reported after all.
    rw [(reportedOutputs_zero asked firstHash txid txids outs).mpr ⟨id, tx,
      (Json.asStr_eq_some _ _).mp hid, hcall, (Json.asArray_eq_some _ _).mp hvout⟩] at hreport
    exact absurd hreport (Option.some_ne_none outs)

end

/-- The search through a block finds the first output that pays the address, by
    its indices. Without one it finds nothing or ends with an error. The induction
    is on the transactions, and the requests made before them vary. -/
theorem findFundingOutput_spec (firstHash addrStr : String) (start : Nat) (txids : List Json)
    (asked : List (Request L.Address)) :
    let o := ((findFundingOutput L B firstHash addrStr start txids
      : RpcMethod τ _ _ _).run asked).outcome
    let found := FirstHit (reportedOutputs L B asked firstHash txids) (PaysTo addrStr)
    (∃ i j, found i j ∧ o = .ok (some (UInt64.ofNat (start + i)), some (UInt64.ofNat j)))
      ∨ (∀ i j, ¬ found i j) ∧ (o = .ok (none, none) ∨ ∃ e, o = .err e) := by
  induction txids generalizing start asked with
  | nil =>
      refine Or.inr ⟨fun i j h => ?_, Or.inl rfl⟩
      exact h.readable i (Nat.le_refl i) rfl
  | cons txid txids ih =>
      intro o found
      rcases hreport : reportedOutputs L B asked firstHash (txid :: txids) 0 with _ | outs
      · refine Or.inr ⟨fun i j h => h.readable 0 (Nat.zero_le i) hreport, Or.inr ?_⟩
        exact findFundingOutput_unreported firstHash addrStr start txid txids asked hreport
      have ho : o = _ :=
        run_findFundingOutput_cons firstHash addrStr start txid txids asked outs hreport
      rcases hfind : outs.findIdx? (fun out => PaysTo addrStr out) with _ | oi
      · -- No output of this transaction pays, so what is found is found behind it.
        have hnone : ∀ out ∈ outs, ¬ PaysTo addrStr out := by
          intro out hout
          have hfalse := List.findIdx?_eq_none_iff.mp hfind out hout
          exact of_decide_eq_false hfalse
        have hrest := ih (start + 1)
          (asked ++ [.call "getrawtransaction" (transactionParams firstHash txid)])
        simp only [hfind, Option.elim] at ho
        rw [← ho] at hrest
        rcases hrest with ⟨i, j, hhit, hok⟩ | ⟨hmiss, hout⟩
        · refine Or.inl ⟨i + 1, j, (firstHit_succ outs i j hreport hnone).mpr ?_, ?_⟩
          · simp only [reportedOutputs_succ]
            exact hhit
          · rw [hok, Nat.add_right_comm, Nat.add_assoc]
        · refine Or.inr ⟨fun i j h => ?_, hout⟩
          cases i with
          | zero => exact h.ne_zero outs hreport hnone rfl
          | succ i =>
              have hbehind := (firstHit_succ outs i j hreport hnone).mp h
              simp only [reportedOutputs_succ] at hbehind
              exact hmiss i j hbehind
      · simp only [hfind, Option.elim] at ho
        exact Or.inl ⟨0, oi, (firstHit_zero outs oi hreport).mpr hfind, ho⟩

/-- A short channel id is returned exactly when the block is reported and has an
    output that pays the address, and then it is made of the height and the indices
    of the first such output. -/
theorem fundingScid_eq_ok (firstHash : String) (address : L.Address)
    (asked : List (Request L.Address)) (scid : UInt64) :
    ((fundingScid L B firstHash address : RpcMethod τ _ _ _).run asked).outcome = .ok scid
      ↔ ∃ height txids ti oi, BlockReport L B asked firstHash height txids
        ∧ FirstHit (reportedOutputs L B (asked ++ [.call "getblock" [.string firstHash]]) firstHash
          txids) (PaysTo (L.addressText address)) ti oi
        ∧ scid = packScid height (UInt64.ofNat ti) (UInt64.ofNat oi) := by
  unfold fundingScid rpcCall
  simp only [ask_bind_eq_ok, Method.lift_bind_eq_ok, Outcome.okOr_eq_ok, Json.asU64_eq_some,
    Json.asArray_eq_some]
  simp only [Method.outcome_bind_eq_ok (findFundingOutput L B firstHash _ 0 _)]
  simp only [Method.lift_bind_eq_ok, Outcome.okOr_eq_ok, Method.run_pure, Outcome.ok.injEq]
  constructor
  · intro h
    rcases h with ⟨block, hblock, height, hheight, txids, htxids, found, hfound, ti', hti, oi', hoi,
      hscid⟩
    rcases findFundingOutput_spec (τ := τ) firstHash (L.addressText address) 0 txids
      (asked ++ [.call "getblock" [.string firstHash]]) with ⟨ti, oi, hhit, hok⟩ | ⟨-, hmiss⟩
    · rw [hok, Outcome.ok.injEq] at hfound
      rw [← hfound, Option.some.injEq, Nat.zero_add] at hti
      rw [← hfound, Option.some.injEq] at hoi
      refine ⟨height, txids, ti, oi, ⟨block, hblock, hheight, htxids⟩, hhit, ?_⟩
      rw [← hscid, hti, hoi]
    · -- A search that finds nothing returns no index.
      rcases hmiss with hnone | ⟨e, herr⟩
      · rw [hnone, Outcome.ok.injEq] at hfound
        rw [← hfound] at hti
        exact nomatch hti
      · rw [herr] at hfound
        exact nomatch hfound
  · intro h
    rcases h with ⟨height, txids, ti, oi, ⟨block, hblock, hheight, htxids⟩, hhit, rfl⟩
    refine ⟨block, hblock, height, hheight, txids, htxids,
      (some (UInt64.ofNat ti), some (UInt64.ofNat oi)), ?_, _, rfl, _, rfl, rfl⟩
    rcases findFundingOutput_spec (τ := τ) firstHash (L.addressText address) 0 txids
      (asked ++ [.call "getblock" [.string firstHash]]) with ⟨ti', oi', hhit', hok⟩ | ⟨hmiss, -⟩
    · rcases hhit.unique hhit' with ⟨rfl, rfl⟩
      rw [hok, Nat.zero_add]
    · exact absurd hhit (hmiss ti oi)

/-- Mining to an address succeeds exactly when every answer up to the funding output
    is as it should be, and then the short channel id is made of the height and the
    indices of that output. -/
theorem mineToFunding_eq_ok (drawn : S.SecretKey × S.SecretKey) (blocks : Nat)
    (asked : List (Request L.Address)) (keys : FundingKeys L) (scid : UInt64) :
    (∃ msg, ((mineToFunding L B drawn blocks : RpcMethod τ _ _ _).run asked).outcome
        = .ok (msg, keys, scid))
      ↔ ∃ address height ti oi, FundingOutput L B drawn blocks asked address height ti oi
        ∧ keys = fundingKeys L drawn address
        ∧ scid = packScid height (UInt64.ofNat ti) (UInt64.ofNat oi) := by
  unfold mineToFunding generateToAddress miningResult
  simp only [newFundingAddress_bind_eq_ok, ask_bind_eq_ok, Method.lift_bind_eq_ok,
    Outcome.expect_eq_ok]
  simp only [Method.outcome_bind_eq_ok (fundingScid L B _ _), fundingScid_eq_ok, Method.run_pure,
    Outcome.ok.injEq, Prod.mk.injEq]
  constructor
  · intro h
    rcases h with ⟨_, checksum, address, hfunding, hashes, hhashes, firstHash, hfirst, scid',
      ⟨height, txids, ti, oi, hblock, hhit, hscid⟩, -, hkeys, rfl⟩
    cases hashes with
    | nil => exact nomatch hfirst
    | cons hash hashes =>
        rw [show hash = firstHash from Option.some.inj hfirst] at hhashes
        exact ⟨address, height, ti, oi, ⟨checksum, firstHash, hashes, txids, hfunding, hhashes,
          hblock, hhit⟩, hkeys.symm, hscid⟩
  · intro h
    rcases h with ⟨address, height, ti, oi, ⟨checksum, firstHash, hashes, txids, hfunding, hhashes,
      hblock, hhit⟩, hkeys, hscid⟩
    exact ⟨_, checksum, address, hfunding, _, hhashes, firstHash, rfl, scid,
      ⟨height, txids, ti, oi, hblock, hhit, hscid⟩, rfl, hkeys.symm, rfl⟩

/-- Each answer determines the next request, so there is one address. -/
theorem FundingReport.unique (drawn : S.SecretKey × S.SecretKey) (asked : List (Request L.Address))
    (checksum checksum' : String) (address address' : L.Address)
    (h : FundingReport L B drawn asked checksum address)
    (h' : FundingReport L B drawn asked checksum' address') :
    checksum = checksum' ∧ address = address' := by
  rcases h with ⟨⟨info, hinfo, hchecksum⟩, ⟨addrs, text, haddrs, htext, haddress⟩, -⟩
  rcases h' with ⟨⟨info', hinfo', hchecksum'⟩, ⟨addrs', text', haddrs', htext', haddress'⟩, -⟩
  rw [hinfo, Except.ok.injEq] at hinfo'
  rw [← hinfo', hchecksum, Json.string.injEq] at hchecksum'
  subst hchecksum'
  rw [haddrs, Except.ok.injEq] at haddrs'
  rw [← haddrs', htext, Json.string.injEq] at htext'
  rw [← htext', haddress, Except.ok.injEq] at haddress'
  exact ⟨rfl, haddress'⟩

theorem BlockReport.unique (asked : List (Request L.Address)) (firstHash : String)
    (height height' : UInt64) (txids txids' : List Json)
    (h : BlockReport L B asked firstHash height txids)
    (h' : BlockReport L B asked firstHash height' txids') : height = height' ∧ txids = txids' := by
  rcases h with ⟨block, hblock, hheight, htxids⟩
  rcases h' with ⟨block', hblock', hheight', htxids'⟩
  rw [hblock, Except.ok.injEq] at hblock'
  rw [← hblock', hheight, Json.number.injEq, JsonNumber.posInt.injEq] at hheight'
  rw [← hblock', htxids, Json.array.injEq] at htxids'
  exact ⟨hheight', htxids'⟩

/-- There is only one funding output. -/
theorem FundingOutput.unique (drawn : S.SecretKey × S.SecretKey) (blocks : Nat)
    (asked : List (Request L.Address)) (address address' : L.Address) (height height' : UInt64)
    (ti oi ti' oi' : Nat) (h : FundingOutput L B drawn blocks asked address height ti oi)
    (h' : FundingOutput L B drawn blocks asked address' height' ti' oi') :
    address = address' ∧ height = height' ∧ ti = ti' ∧ oi = oi' := by
  rcases h with ⟨checksum, firstHash, hashes, txids, hfunding, hhashes, hblock, hhit⟩
  rcases h' with ⟨checksum', firstHash', hashes', txids', hfunding', hhashes', hblock', hhit'⟩
  rcases FundingReport.unique _ _ _ _ _ _ hfunding hfunding' with ⟨rfl, rfl⟩
  rw [hhashes, Except.ok.injEq, List.cons.injEq] at hhashes'
  rcases hhashes' with ⟨rfl, rfl⟩
  rcases BlockReport.unique _ _ _ _ _ _ hblock hblock' with ⟨rfl, rfl⟩
  exact ⟨rfl, rfl, hhit.unique hhit'⟩

/-- Outputs are reported of transactions of the block only, and in an answer. -/
theorem reportedOutputs_answered (asked : List (Request L.Address)) (firstHash : String)
    (txids : List Json) (i : Nat) (outs : List Json)
    (h : reportedOutputs L B asked firstHash txids i = some outs) :
    i < txids.length ∧ ∃ asked' params tx, B.call asked' "getrawtransaction" params = .ok tx
      ∧ (tx.field "vout").asArray = some outs := by
  induction txids generalizing asked i with
  | nil => exact nomatch h
  | cons txid txids ih =>
      cases i with
      | zero =>
          rcases (reportedOutputs_zero asked firstHash txid txids outs).mp h with
            ⟨id, tx, -, hcall, hvout⟩
          exact ⟨Nat.zero_lt_succ _, _, _, tx, hcall, (Json.asArray_eq_some _ _).mpr hvout⟩
      | succ i =>
          rw [reportedOutputs_succ] at h
          rcases ih _ i h with ⟨hlt, hanswer⟩
          exact ⟨Nat.succ_lt_succ hlt, hanswer⟩

/-- The height and the indices are in the range of a short channel id. -/
theorem FundingOutput.inRange (hB : B.ReportsBlocks) (drawn : S.SecretKey × S.SecretKey)
    (blocks : Nat) (asked : List (Request L.Address)) (address : L.Address) (height : UInt64)
    (ti oi : Nat) (h : FundingOutput L B drawn blocks asked address height ti oi) :
    height.toNat < 2 ^ 24 ∧ ti < 2 ^ 24 ∧ oi < 2 ^ 16 := by
  rcases h with ⟨checksum, firstHash, hashes, txids, -, -, ⟨block, hblock, hheight, htxids⟩, hhit⟩
  rcases hhit.hit with ⟨outs, out, houts, hout, -⟩
  rcases reportedOutputs_answered _ _ _ _ _ houts with ⟨hti, asked', params, tx, hcall, hvout⟩
  have hheight' := hB.height _ _ _ _ hblock ((Json.asU64_eq_some _ _).mpr hheight)
  have htxs := hB.transactions _ _ _ _ hblock ((Json.asArray_eq_some _ _).mpr htxids)
  have houtputs := hB.outputs _ _ _ _ hcall hvout
  have hoi := (List.getElem?_eq_some_iff.mp hout).1
  exact ⟨hheight', by omega, by omega⟩

/-- The announced channel points at the funding output. Mining to a fresh address
    succeeds exactly when every answer it reads is as it should be and some output
    of the first block pays the address. Then the short channel id is printed as
    the height of the block and the indices of the first such output. In every
    other case there is an error. -/
theorem scid_of_funding_output (hB : B.ReportsBlocks) (drawn : S.SecretKey × S.SecretKey)
    (blocks : Nat) (asked : List (Request L.Address))
    (hmined : ReturnsHash L B drawn blocks asked) :
    let o := ((mineToFunding L B drawn blocks : RpcMethod τ _ _ _).run asked).outcome
    let funded := FundingOutput L B drawn blocks asked
    ((∃ mined, o = .ok mined) ↔ ∃ address height ti oi, funded address height ti oi)
    ∧ (∀ msg keys scid, o = .ok (msg, keys, scid) → ∀ address height ti oi,
      funded address height ti oi →
        keys.address = address ∧ scidStr scid = s!"{height}x{ti}x{oi}")
    ∧ ((¬ ∃ mined, o = .ok mined) → ∃ e, o = .err e) := by
  intro o funded
  refine ⟨?_, ?_, ?_⟩
  · constructor
    · rintro ⟨⟨msg, keys, scid⟩, hok⟩
      rcases (mineToFunding_eq_ok drawn blocks asked keys scid).mp ⟨msg, hok⟩ with
        ⟨address, height, ti, oi, hfunded, -, -⟩
      exact ⟨address, height, ti, oi, hfunded⟩
    · rintro ⟨address, height, ti, oi, hfunded⟩
      rcases (mineToFunding_eq_ok drawn blocks asked _ _).mpr
        ⟨address, height, ti, oi, hfunded, rfl, rfl⟩ with ⟨msg, hok⟩
      exact ⟨_, hok⟩
  · intro msg keys scid hok address height ti oi hfunded
    rcases (mineToFunding_eq_ok drawn blocks asked keys scid).mp ⟨msg, hok⟩ with
      ⟨address', height', ti', oi', hfunded', hkeys, hscid⟩
    rcases FundingOutput.unique _ _ _ _ _ _ _ _ _ _ _ hfunded hfunded' with ⟨rfl, rfl, rfl, rfl⟩
    rcases FundingOutput.inRange hB _ _ _ _ _ _ _ hfunded with ⟨hheight, hti, hoi⟩
    refine ⟨congrArg FundingKeys.address hkeys, ?_⟩
    have hpack := scidStr_pack ⟨height.toNat, ti, oi, hheight, hti, hoi⟩
    unfold ScidParts.pack at hpack
    rw [UInt64.ofNat_toNat] at hpack
    rw [hscid, hpack]
    rfl
  · intro hfail
    have hsettles := (triple_mineToFunding (fun _ : τ => False) drawn blocks asked hmined asked
      rfl).1
    cases ho : o with
    | ok mined => exact absurd ⟨mined, ho⟩ hfail
    | err e => exact ⟨e, rfl⟩
    | panicked => exact absurd ho hsettles.1
    | diverged => exact absurd ho hsettles.2

end

/-- A library whose addresses are their texts. -/
def BitcoinCrate.transparent : BitcoinCrate .transparent where
  Address := String
  parseAddress := .ok
  addressText address := address
  toWif _ := "cSecret"
  keyLt a b := decide (beNat a.toList < beNat b.toList)
  jsonText _ := "null"

/-- A node that mines as many blocks as it is asked for, also none, and whose block at
    height 101 pays the address in the second output of its second transaction. -/
def Bitcoind.sample : Bitcoind String where
  call _ method params :=
    let output address := Json.object [("scriptPubKey", .object [("address", .string address)])]
    match method, params with
    | "getdescriptorinfo", _ => .ok (.object [("checksum", .string "8fhd9pwu")])
    | "deriveaddresses", _ => .ok (.array [.string "bcrt1q"])
    | "importdescriptors", _ => .ok (.array [.object [("success", .bool true)]])
    | "getblock", _ => .ok (.object [("height", .number (.posInt 101)),
        ("tx", .array [.string "coinbase", .string "spend"])])
    | "getrawtransaction", .string "coinbase" :: _ =>
      .ok (.object [("vout", .array [output "bcrt1p"])])
    | "getrawtransaction", .string "spend" :: _ =>
      .ok (.object [("vout", .array [output "bcrt1p", output "bcrt1q"])])
    | _, _ => .error "Method not found"
  generateToAddress _ blocks _ := .ok (List.replicate blocks "00ab")
  getBlockCount _ := .ok 101
  bestBlockHash _ := .ok "00ab"
  getBalance _ := .ok "50"

theorem Bitcoind.sample_reportsBlocks : sample.ReportsBlocks where
  height asked hash block height hblock hheight := by
    rw [← Except.ok.inj hblock] at hheight
    rw [← Option.some.inj hheight]
    decide
  transactions asked hash block txids hblock htxids := by
    rw [← Except.ok.inj hblock] at htxids
    rw [← Option.some.inj htxids]
    decide
  outputs asked params tx vout htx hvout := by
    simp only [sample] at htx
    split at htx
    -- The answers of the other methods have no outputs.
    case h_5 | h_6 =>
      rw [← Except.ok.inj htx] at hvout
      rw [← Option.some.inj hvout]
      decide
    case h_7 => exact nomatch htx
    all_goals
      rw [← Except.ok.inj htx] at hvout
      exact nomatch hvout

/-- The second output of the second transaction of the block at height 101. -/
theorem scid_of_funding_output_sample :
    let drawn : Secp256k1.transparent.SecretKey × Secp256k1.transparent.SecretKey :=
      (List.Vector.replicate 32 1, List.Vector.replicate 32 2)
    ∃ msg keys scid, ((mineToFunding .transparent .sample drawn 6
        : RpcMethod Unit String Error _).run []).outcome = .ok (msg, keys, scid)
      ∧ scidStr scid = "101x1x1" := by
  intro drawn
  have hfunded : FundingOutput .transparent .sample drawn 6 [] "bcrt1q" 101 1 1 := by
    refine ⟨"8fhd9pwu", "00ab", List.replicate 5 "00ab", [.string "coinbase", .string "spend"],
      ⟨⟨_, rfl, rfl⟩, ⟨_, "bcrt1q", rfl, rfl, rfl⟩, ⟨_, rfl, ?_⟩⟩, rfl, ⟨_, rfl, rfl, rfl⟩, ?_⟩
    · simp [Json.item, Json.field]
    · refine (firstHit_succ _ 0 1 rfl ?_).mpr ((firstHit_zero _ 1 rfl).mpr ?_)
      · decide
      · decide
  have h := scid_of_funding_output (L := .transparent) (τ := Unit) Bitcoind.sample_reportsBlocks
    drawn 6 [] fun _ _ _ => by simp [Bitcoind.sample, List.replicate_succ]
  rcases h.1.mpr ⟨_, _, _, _, hfunded⟩ with ⟨⟨msg, keys, scid⟩, hok⟩
  exact ⟨msg, keys, scid, hok, (h.2.1 msg keys scid hok _ _ _ _ hfunded).2⟩

end Simd

end LnGossipSim
