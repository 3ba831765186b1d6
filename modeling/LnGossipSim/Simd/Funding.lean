import LnGossipSim.Bolt.Scid
import LnGossipSim.Simd.Rpc

/-!
# Funding a Channel

Before the daemon announces a channel it mines blocks to a fresh address. The
address belongs to two keys that are drawn for it, and its descriptor is imported
into the wallet. Then the first mined block is asked for, and its transactions
one by one, until one of them has an output that pays the address. The short
channel id is that output's.

Every answer may be an error, or may not have what is expected of it, and then
the error names what was missing. The one exception is the list of hashes that
mining returns, whose first is taken without a check.

## Main definitions

* `BitcoinCrate`: The types and operations of the bitcoin library.
* `newFundingAddress`: A fresh address.
* `findFundingOutput`, `fundingScid`: The search through a block.
* `mineToFunding`, `mine`: Blocks mined to a fresh address.
* `FundingReport`: The answers for an address as they should be.

## Theorems

* `newFundingAddress_bind_eq_ok`: When there is a fresh address.
* `triple_mineToFunding`: Mining does not panic when hashes are returned.
* `mineToFunding_panicked`: It does when none is.
-/

namespace LnGossipSim

namespace Simd

open Bolt

/-- What the bitcoin library contributes: addresses with their texts, the text of
    a private key for the test network, the order of public keys, and the text of
    a JSON value. -/
structure BitcoinCrate (S : Secp256k1) where
  Address : Type
  parseAddress : String → Except String Address
  addressText : Address → String
  toWif : S.SecretKey → String
  keyLt : S.PublicKey → S.PublicKey → Bool
  jsonText : Json → String

/-- Keypair material from a 2-of-2 P2WSH funding address. -/
structure FundingKeys {S : Secp256k1} (L : BitcoinCrate S) where
  address : L.Address
  sk1 : S.SecretKey
  sk2 : S.SecretKey
  pk1 : S.PublicKey
  pk2 : S.PublicKey

section

variable {S : Secp256k1} (L : BitcoinCrate S)

/-- Sorts two secrets by their public keys. -/
def sortSecrets (drawn : S.SecretKey × S.SecretKey) : S.SecretKey × S.SecretKey :=
  if L.keyLt (S.publicKey drawn.1) (S.publicKey drawn.2) then drawn else (drawn.2, drawn.1)

/-- The descriptor with the sorted private keys. -/
def fundingDescriptor (drawn : S.SecretKey × S.SecretKey) : String :=
  let w1 := L.toWif (sortSecrets L drawn).1
  let w2 := L.toWif (sortSecrets L drawn).2
  s!"wsh(multi(2,{w1},{w2}))"

/-- The descriptor with its checksum. -/
def fullDescriptor (drawn : S.SecretKey × S.SecretKey) (checksum : String) : String :=
  let desc := fundingDescriptor L drawn
  s!"{desc}#{checksum}"

/-- What is imported: the descriptor, from now on, and not to be derived from. -/
def importParam (descFull : String) : Json :=
  .array [.object [("desc", .string descFull), ("timestamp", .string "now"),
    ("active", .bool false)]]

/-- The keys of an address made from two secrets. -/
def fundingKeys (drawn : S.SecretKey × S.SecretKey) (address : L.Address) : FundingKeys L :=
  let (sk1, sk2) := sortSecrets L drawn
  { address, sk1, sk2, pk1 := S.publicKey sk1, pk2 := S.publicKey sk2 }

variable (B : Bitcoind L.Address) {τ : Type}

/-- Create a fresh 2-of-2 P2WSH address from two random keys, and import it into
    the wallet. -/
def newFundingAddress (drawn : S.SecretKey × S.SecretKey) :
    RpcMethod τ L.Address Error (FundingKeys L) := do
  let desc := fundingDescriptor L drawn
  let info ← rpcCall B .descriptor "getdescriptorinfo" [.string desc]
  let checksum ← Method.lift (Outcome.okOr (.descriptor "missing checksum")
    (info.field "checksum").asStr)
  let descFull := fullDescriptor L drawn checksum
  let addrs ← rpcCall B .address "deriveaddresses" [.string descFull]
  let text ← Method.lift (Outcome.okOr (.address "missing address in deriveaddresses")
    (addrs.item 0).asStr)
  let addr ← Method.lift (Outcome.ofExcept .address (L.parseAddress text))
  let result ← rpcCall B .descriptor "importdescriptors" [importParam descFull]
  let error := L.jsonText ((result.item 0).field "error")
  Method.lift (Outcome.rejectIf (((result.item 0).field "success").asBool = some false)
    (.descriptor s!"importdescriptors: {error}"))
  return fundingKeys L drawn addr

/-- The parameters that ask for a transaction of a block. -/
def transactionParams (firstHash : String) (txid : Json) : List Json :=
  [txid, .bool true, .string firstHash]

/-- An output pays the address with this text. -/
def PaysTo (addrStr : String) (output : Json) : Prop :=
  ((output.field "scriptPubKey").field "address").asStr = some addrStr

instance (addrStr : String) : DecidablePred (PaysTo addrStr) :=
  fun _ => inferInstanceAs (Decidable (_ = _))

/-- Searches the transactions for the funding output, from the index of the first
    of them on. -/
def findFundingOutput (firstHash addrStr : String) : Nat → List Json →
    RpcMethod τ L.Address Error (Option UInt64 × Option UInt64)
  | _, [] => return (none, none)
  | ti, txidVal :: txids => do
    let txid ← Method.lift (Outcome.okOr (.rpc "txid is not a string") txidVal.asStr)
    let tx ← rpcCall B .rpc "getrawtransaction" (transactionParams firstHash (.string txid))
    let vout ← Method.lift (Outcome.okOr (.rpc "tx has no vout") (tx.field "vout").asArray)
    match vout.findIdx? (fun o => PaysTo addrStr o) with
    | some oi => return (some (UInt64.ofNat ti), some (UInt64.ofNat oi))
    | none => findFundingOutput firstHash addrStr (ti + 1) txids

/-- The short channel id of the output that pays the address in a block. -/
def fundingScid (firstHash : String) (address : L.Address) :
    RpcMethod τ L.Address Error UInt64 := do
  let block ← rpcCall B .rpc "getblock" [.string firstHash]
  let blockHeight ← Method.lift (Outcome.okOr (.rpc "block has no height")
    (block.field "height").asU64)
  let txids ← Method.lift (Outcome.okOr (.rpc "block has no tx array") (block.field "tx").asArray)
  let found ← findFundingOutput L B firstHash (L.addressText address) 0 txids
  let txIndex ← Method.lift (Outcome.okOr (.rpc "funding output not found in block") found.1)
  let outputIndex ← Method.lift (Outcome.okOr (.rpc "funding output not found in block") found.2)
  return packScid blockHeight txIndex outputIndex

/-- The human-readable result, the funding keys, and the short channel id derived
    from the first mined block. Panics if there is none. -/
def miningResult (funding : FundingKeys L) (hashes : List String) :
    RpcMethod τ L.Address Error (String × FundingKeys L × UInt64) := do
  let firstHash ← Method.lift (Outcome.expect hashes[0]?)
  let scid ← fundingScid L B firstHash funding.address
  let mined := hashes.length
  let address := L.addressText funding.address
  return (s!"Mined {mined} block(s) to {address}\n", funding, scid)

/-- Mine blocks to a fresh 2-of-2 P2WSH funding address. -/
def mineToFunding (drawn : S.SecretKey × S.SecretKey) (blocks : Nat) :
    RpcMethod τ L.Address Error (String × FundingKeys L × UInt64) := do
  let funding ← newFundingAddress L B drawn
  let hashes ← generateToAddress B .rpc blocks funding.address
  miningResult L B funding hashes

/-- Mines blocks. Returns the result, or the text of the error. -/
def mine (drawn : S.SecretKey × S.SecretKey) (blocks : Nat) :
    RpcMethod τ L.Address Empty String := do
  match ← Method.attempt (mineToFunding L B drawn blocks) with
  | .ok (msg, _, _) => return msg
  | .error e =>
    let text := e.text
    return s!"{text}\n"

/-- The requests for a fresh address. -/
def fundingRequests (drawn : S.SecretKey × S.SecretKey) (checksum : String) :
    List (Request L.Address) :=
  [.call "getdescriptorinfo" [.string (fundingDescriptor L drawn)],
    .call "deriveaddresses" [.string (fullDescriptor L drawn checksum)],
    .call "importdescriptors" [importParam (fullDescriptor L drawn checksum)]]

/-- The answers for a fresh address are as they should be: there is a checksum,
    the first derived address parses, and the import does not say that it failed.
    Its answer is read for a literal `false` only, so one without a truth value in
    that place passes. -/
structure FundingReport (drawn : S.SecretKey × S.SecretKey) (asked : List (Request L.Address))
    (checksum : String) (address : L.Address) : Prop where
  described : ∃ info, B.call asked "getdescriptorinfo" [.string (fundingDescriptor L drawn)]
    = .ok info ∧ info.field "checksum" = .string checksum
  derived : ∃ addrs text, B.call (asked ++ (fundingRequests L drawn checksum).take 1)
      "deriveaddresses" [.string (fullDescriptor L drawn checksum)] = .ok addrs
    ∧ addrs.item 0 = .string text ∧ L.parseAddress text = .ok address
  imported : ∃ result, B.call (asked ++ (fundingRequests L drawn checksum).take 2)
      "importdescriptors" [importParam (fullDescriptor L drawn checksum)] = .ok result
    ∧ (result.item 0).field "success" ≠ .bool false

end

section

variable {S : Secp256k1} {L : BitcoinCrate S} {B : Bitcoind L.Address} {τ β : Type}

/-- A method that starts with a fresh address succeeds when the answers for the
    address are as they should be and the rest succeeds on it. -/
theorem newFundingAddress_bind_eq_ok (drawn : S.SecretKey × S.SecretKey)
    (f : FundingKeys L → RpcMethod τ L.Address Error β) (asked : List (Request L.Address)) (b : β) :
    ((newFundingAddress L B drawn >>= f).run asked).outcome = .ok b
      ↔ ∃ checksum address, FundingReport L B drawn asked checksum address
        ∧ ((f (fundingKeys L drawn address)).run
          (asked ++ fundingRequests L drawn checksum)).outcome = .ok b := by
  unfold newFundingAddress rpcCall
  simp only [bind_assoc, pure_bind, ask_bind_eq_ok, Method.lift_bind_eq_ok, Outcome.okOr_eq_ok,
    Outcome.ofExcept_eq_ok, Outcome.rejectIf_eq_ok, Json.asStr_eq_some, Json.asBool_eq_some,
    List.append_assoc, List.cons_append, List.nil_append]
  constructor
  · intro h
    rcases h with ⟨info, hinfo, checksum, hchecksum, addrs, haddrs, text, htext, address, haddress,
      result, hresult, -, hsuccess, hrest⟩
    exact ⟨checksum, address, ⟨⟨info, hinfo, hchecksum⟩, ⟨addrs, text, haddrs, htext, haddress⟩,
      ⟨result, hresult, hsuccess⟩⟩, hrest⟩
  · intro h
    rcases h with ⟨checksum, address, ⟨⟨info, hinfo, hchecksum⟩, ⟨addrs, text, haddrs, htext,
      haddress⟩, ⟨result, hresult, hsuccess⟩⟩, hrest⟩
    exact ⟨info, hinfo, checksum, hchecksum, addrs, haddrs, text, htext, address, haddress, result,
      hresult, (), hsuccess, hrest⟩

/-- A fresh address, with the requests made for it. -/
theorem newFundingAddress_eq_ok (drawn : S.SecretKey × S.SecretKey)
    (asked asked' : List (Request L.Address)) (keys : FundingKeys L) :
    ((newFundingAddress L B drawn : RpcMethod τ _ _ _).run asked).outcome = .ok keys
        ∧ ((newFundingAddress L B drawn : RpcMethod τ _ _ _).run asked).state = asked'
      ↔ ∃ checksum address, FundingReport L B drawn asked checksum address
        ∧ keys = fundingKeys L drawn address
        ∧ asked' = asked ++ fundingRequests L drawn checksum := by
  rw [← Method.outcome_with_state, newFundingAddress_bind_eq_ok]
  simp only [Method.run_get_bind, Method.run_pure, Outcome.ok.injEq, Prod.mk.injEq, eq_comm]

section

variable (Bad : τ → Prop)

/-- Asking for a fresh address ends in one or an error. -/
theorem safe_newFundingAddress (drawn : S.SecretKey × S.SecretKey) :
    Method.Safe Bad (newFundingAddress L B drawn : RpcMethod τ _ _ _) := by
  refine Method.safe_bind Bad _ _ (safe_ask Bad _ _) fun info => ?_
  refine Method.safe_okOr_bind Bad _ _ _ fun checksum => ?_
  refine Method.safe_bind Bad _ _ (safe_ask Bad _ _) fun addrs => ?_
  refine Method.safe_okOr_bind Bad _ _ _ fun text => ?_
  refine Method.safe_bind Bad _ _ (Method.safe_lift Bad _ (Outcome.settles_ofExcept _ _))
    fun addr => ?_
  refine Method.safe_bind Bad _ _ (safe_ask Bad _ _) fun result => ?_
  exact Method.safe_bind Bad _ _ (Method.safe_lift Bad _ (Outcome.settles_rejectIf _ _))
    fun _ => Method.safe_pure Bad _

/-- The search ends in indices, in nothing or in an error. The induction is on the
    transactions. -/
theorem safe_findFundingOutput (firstHash addrStr : String) (start : Nat) (txids : List Json) :
    Method.Safe Bad (findFundingOutput L B firstHash addrStr start txids : RpcMethod τ _ _ _) := by
  induction txids generalizing start with
  | nil => exact Method.safe_pure Bad _
  | cons txid txids ih =>
      rw [findFundingOutput]
      refine Method.safe_okOr_bind Bad _ _ _ fun id => ?_
      refine Method.safe_bind Bad _ _ (safe_ask Bad _ _) fun tx => ?_
      refine Method.safe_okOr_bind Bad _ _ _ fun vout => ?_
      cases vout.findIdx? (fun out => PaysTo addrStr out) with
      | some oi => exact Method.safe_pure Bad _
      | none => exact ih (start + 1)

/-- So does the part of mining behind the first hash. -/
theorem safe_fundingScid (firstHash : String) (address : L.Address) :
    Method.Safe Bad (fundingScid L B firstHash address : RpcMethod τ _ _ _) := by
  refine Method.safe_bind Bad _ _ (safe_ask Bad _ _) fun block => ?_
  refine Method.safe_okOr_bind Bad _ _ _ fun height => ?_
  refine Method.safe_okOr_bind Bad _ _ _ fun txids => ?_
  refine Method.safe_bind Bad _ _ (safe_findFundingOutput Bad _ _ _ _) fun found => ?_
  refine Method.safe_okOr_bind Bad _ _ _ fun ti => ?_
  exact Method.safe_okOr_bind Bad _ _ _ fun oi => Method.safe_pure Bad _

theorem safe_miningResult (funding : FundingKeys L) (hash : String) (hashes : List String) :
    Method.Safe Bad (miningResult L B funding (hash :: hashes) : RpcMethod τ _ _ _) :=
  Method.safe_bind Bad _ _ (Method.safe_lift Bad _ (Outcome.settles_ok hash)) fun first =>
    Method.safe_bind Bad _ _ (safe_fundingScid Bad first funding.address)
      fun _ => Method.safe_pure Bad _

/-- There is a fresh address, with the requests made for it, or an error. -/
theorem triple_newFundingAddress (drawn : S.SecretKey × S.SecretKey)
    (asked : List (Request L.Address)) :
    Method.Triple Bad (fun a => a = asked) (newFundingAddress L B drawn : RpcMethod τ _ _ _)
      fun keys asked' => ∃ checksum address, FundingReport L B drawn asked checksum address
        ∧ keys = fundingKeys L drawn address
        ∧ asked' = asked ++ fundingRequests L drawn checksum := by
  rintro _ rfl
  rcases safe_newFundingAddress (B := B) Bad drawn _ trivial with ⟨hsettles, htrace, -⟩
  exact ⟨hsettles, htrace, fun keys hok => (newFundingAddress_eq_ok drawn _ _ keys).mp ⟨hok, rfl⟩⟩

/-- Mining to an address ends in a short channel id or an error, unless there is a
    fresh address and then no hash is returned. -/
theorem triple_mineToFunding (drawn : S.SecretKey × S.SecretKey) (blocks : Nat)
    (asked : List (Request L.Address))
    (hmined : ∀ checksum address, FundingReport L B drawn asked checksum address →
      B.generateToAddress (asked ++ fundingRequests L drawn checksum) blocks address ≠ .ok []) :
    Method.Triple Bad (fun a => a = asked) (mineToFunding L B drawn blocks : RpcMethod τ _ _ _)
      fun _ _ => True := by
  refine Method.triple_bind Bad _ _ (triple_newFundingAddress Bad drawn asked) fun funding => ?_
  refine Method.triple_bind Bad _ _ (triple_ask Bad _ _ _) fun hashes => ?_
  cases hashes with
  | nil =>
      -- The first hash is missing, and this was ruled out.
      rintro s ⟨_, ⟨checksum, address, hreport, rfl, rfl⟩, hempty⟩
      exact absurd hempty (hmined checksum address hreport)
  | cons hash hashes =>
      exact (safe_miningResult Bad funding hash hashes).triple

theorem safe_mineToFunding (drawn : S.SecretKey × S.SecretKey) (blocks : Nat)
    (hmined : ∀ asked address, B.generateToAddress asked blocks address ≠ .ok []) :
    Method.Safe Bad (mineToFunding L B drawn blocks : RpcMethod τ _ _ _) :=
  fun asked _ => triple_mineToFunding Bad drawn blocks asked (fun _ address _ => hmined _ address)
    asked rfl

end

/-- Mining to an address panics when there is a fresh address and no hash is
    returned. -/
theorem mineToFunding_panicked (drawn : S.SecretKey × S.SecretKey) (blocks : Nat)
    (asked : List (Request L.Address)) (checksum : String) (address : L.Address)
    (hreport : FundingReport L B drawn asked checksum address)
    (hempty : B.generateToAddress (asked ++ fundingRequests L drawn checksum) blocks address
      = .ok []) :
    ((mineToFunding L B drawn blocks : RpcMethod τ _ _ _).run asked).outcome = .panicked := by
  rcases (newFundingAddress_eq_ok (τ := τ) drawn asked _ _).mpr
    ⟨checksum, address, hreport, rfl, rfl⟩ with ⟨hkeys, hstate⟩
  refine (Method.outcome_bind_eq_panicked _ _ _).mpr (Or.inr ⟨_, hkeys, ?_⟩)
  refine (Method.outcome_bind_eq_panicked _ _ _).mpr (Or.inr ⟨[], ?_, rfl⟩)
  unfold generateToAddress
  rw [hstate, run_ask]
  exact (Outcome.ofExcept_eq_ok _ _ _).mpr hempty

end

end Simd

end LnGossipSim
