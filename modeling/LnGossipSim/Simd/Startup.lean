import Mathlib.Data.List.DropRight
import LnGossipSim.Library.Justified
import LnGossipSim.Library.Yields
import LnGossipSim.Simd.Rpc

/-!
# Starting with bitcoind

Before the daemon listens it connects to bitcoind. It asks which chain this is and
goes on with the test network only, and then it sees to it that its wallet is there:
it loads the wallet, and creates it if it could not be loaded. The wallet may have
been loaded by an earlier run, which bitcoind reports as an error too. The text of
the error is what tells the two apart.

A client is made for an address, and making one may fail. The daemon keeps the second
one, whose address names the wallet.

## Main definitions

* `WalletCrate`: What the client library contributes besides its calls.
* `ensureWallet`: The wallet is loaded, or created.
* `BitcoindClient.new`: The start.
* `EnsuresWallet`, `OnRegtest`: What the answers have to be.
* `StartReason`: Why the start makes a request.

## Theorems

* `yields_ensureWallet`: When the wallet is there, and what was requested for it.
* `BitcoindClient.yields_new`: When the start succeeds.
* `moves_ask`: A request that mines nothing.
* `BitcoindClient.new_asks`: Without the test network nothing else is requested.
-/

namespace LnGossipSim

namespace Simd

open Method

/-- What the client library contributes besides its calls: making a client for an
    address, and the answers to the requests for a wallet. -/
structure WalletCrate (Address : Type) where
  newWithAuth : String → Except String Unit
  loadWallet : List (Request Address) → String → Except String Unit
  createWallet : List (Request Address) → String → Except String Unit

/-- The name of the daemon's wallet. -/
def walletName : String := "ln-gossip-sim"

/-- The request for the chain. -/
def chainRequest {Address : Type} : Request Address := .call "getblockchaininfo" []

/-- The request to load a wallet. -/
def loadRequest {Address : Type} (name : String) : Request Address :=
  .call "loadwallet" [.string name]

/-- The request to create a wallet. -/
def createRequest {Address : Type} (name : String) : Request Address :=
  .call "createwallet" [.string name]

/-- The error reports a wallet that is loaded. -/
def AlreadyLoaded (msg : String) : Prop := "already loaded".toList <:+: msg.toList

instance (msg : String) : Decidable (AlreadyLoaded msg) := inferInstanceAs (Decidable (_ <:+: _))

/-- The address of the wallet. -/
def walletUrl (url : String) : String :=
  let base := String.ofList (url.toList.rdropWhile fun c => c = '/')
  s!"{base}/wallet/{walletName}"

section

variable {τ Address : Type} (X : WalletCrate Address)

/-- Loads the wallet, and creates it if that fails for another reason than that it is
    loaded. -/
def ensureWallet : RpcMethod τ Address Error Unit := do
  let loaded ← attempt (ask (fun e => e) (loadRequest walletName) fun asked =>
    X.loadWallet asked walletName)
  -- Only the text of the error tells a wallet that is loaded from one that is missing.
  match loaded with
  | .ok _ => return ()
  | .error msg =>
    if AlreadyLoaded msg then return ()
    else
      ask (fun e => .rpc s!"create wallet: {e}") (createRequest walletName) fun asked =>
        X.createWallet asked walletName

variable (B : Bitcoind Address)

/-- Connect to bitcoind, verify regtest, and ensure that the wallet exists. Returns the
    address that the client was made for. -/
def BitcoindClient.new (url : String) : RpcMethod τ Address Error String := do
  lift (Outcome.ofExcept .rpc (X.newWithAuth url))
  let info ← rpcCall B .rpc "getblockchaininfo" []
  let chain ← lift (Outcome.okOr (.rpc "missing chain field") (info.field "chain").asStr)
  lift (Outcome.rejectIf (chain ≠ "regtest") (.chain s!"expected regtest, got {chain}"))
  ensureWallet X
  -- The requests of the daemon go to the wallet, the ones above to the node.
  lift (Outcome.ofExcept .rpc (X.newWithAuth (walletUrl url)))
  return walletUrl url

/-- The chain is reported to be the test network. -/
def OnRegtest : Prop :=
  ∃ info, B.call [] "getblockchaininfo" [] = .ok info ∧ info.field "chain" = .string "regtest"

/-- The number of blocks that a request mines, if it does. -/
def Request.blocks : Request Address → Option Nat
  | .generateToAddress blocks _ => some blocks
  | _ => none

/-- Why the start makes a request: to know the chain before anything else, or after
    that on the test network, and then it mines nothing. -/
def StartReason (before : List (Request Address)) (request : Request Address) : Prop :=
  (before = [] ∧ request = chainRequest)
    ∨ (before.head? = some chainRequest ∧ OnRegtest B ∧ request.blocks = none)

/-- The wallet was loaded by these requests, or it had been loaded before, or it was
    created. -/
inductive EnsuresWallet (asked : List (Request Address)) : List (Request Address) → Prop
  | loaded (h : X.loadWallet asked walletName = .ok ()) :
      EnsuresWallet asked [loadRequest walletName]
  | before (msg : String) (h : X.loadWallet asked walletName = .error msg)
      (hmsg : AlreadyLoaded msg) : EnsuresWallet asked [loadRequest walletName]
  | created (msg : String) (h : X.loadWallet asked walletName = .error msg)
      (hmsg : ¬ AlreadyLoaded msg)
      (hcreated : X.createWallet (asked ++ [loadRequest walletName]) walletName = .ok ()) :
      EnsuresWallet asked [loadRequest walletName, createRequest walletName]

end

section

variable {τ Address : Type} {X : WalletCrate Address} {B : Bitcoind Address}

theorem yields_ask {ε α : Type} (report : String → ε) (request : Request Address)
    (answer : List (Request Address) → Except String α) (asked asked' : List (Request Address))
    (a : α) :
    Yields (ask report request answer : RpcMethod τ Address ε α) asked a asked'
      ↔ answer asked = .ok a ∧ asked ++ [request] = asked' := by
  unfold Yields
  rw [run_ask, Outcome.ofExcept_eq_ok]

/-- What the requests for the wallet leave, by the answer to the first. -/
theorem run_ensureWallet (asked : List (Request Address)) :
    (ensureWallet X : RpcMethod τ Address Error Unit).run asked
      = match X.loadWallet asked walletName with
        | .ok _ => ⟨.ok (), asked ++ [loadRequest walletName], []⟩
        | .error msg =>
          if AlreadyLoaded msg then ⟨.ok (), asked ++ [loadRequest walletName], []⟩
          else
            ⟨Outcome.ofExcept (fun e => .rpc s!"create wallet: {e}")
                (X.createWallet (asked ++ [loadRequest walletName]) walletName),
              asked ++ [loadRequest walletName] ++ [createRequest walletName], []⟩ := by
  unfold ensureWallet
  rw [run_bind, run_attempt, run_ask]
  cases X.loadWallet asked walletName with
  | ok _ => rfl
  | error msg =>
      simp only [Outcome.ofExcept, Outcome.attempt]
      by_cases hmsg : AlreadyLoaded msg
      · rw [if_pos hmsg, if_pos hmsg]
        rfl
      · rw [if_neg hmsg, if_neg hmsg, run_ask]
        rfl

/-- The wallet is there when the answers are as they should be. -/
theorem yields_ensureWallet (asked asked' : List (Request Address)) (u : Unit) :
    Yields (ensureWallet X : RpcMethod τ Address Error Unit) asked u asked'
      ↔ ∃ requests, EnsuresWallet X asked requests ∧ asked' = asked ++ requests := by
  unfold Yields
  rw [run_ensureWallet]
  constructor
  · intro h
    -- One way for each branch of the code, and no way when creating the wallet fails.
    cases hload : X.loadWallet asked walletName with
    | ok u =>
        rw [hload] at h
        exact ⟨_, .loaded hload, h.2.symm⟩
    | error msg =>
        simp only [hload] at h
        by_cases hmsg : AlreadyLoaded msg
        · rw [if_pos hmsg] at h
          exact ⟨_, .before msg hload hmsg, h.2.symm⟩
        · rw [if_neg hmsg] at h
          have hcreated := (Outcome.ofExcept_eq_ok _ _ _).mp h.1
          refine ⟨_, .created msg hload hmsg hcreated, ?_⟩
          rw [← h.2, List.append_assoc]
          rfl
  · rintro ⟨requests, hwallet, rfl⟩
    cases hwallet with
    | loaded h => simp only [h, and_self]
    | before msg h hmsg => simp only [h, if_pos hmsg, and_self]
    | created msg h hmsg hcreated =>
        simp only [h, if_neg hmsg, hcreated, Outcome.ofExcept, List.append_assoc,
          List.cons_append, List.nil_append, and_self]

/-- The start succeeds when both clients are made, the chain is the test network, and
    the wallet is there. -/
theorem BitcoindClient.yields_new (url client : String) (asked : List (Request Address)) :
    Yields (BitcoindClient.new X B url : RpcMethod τ Address Error String) [] client asked
      ↔ X.newWithAuth url = .ok () ∧ OnRegtest B
        ∧ (∃ requests, EnsuresWallet X [chainRequest] requests ∧ asked = chainRequest :: requests)
        ∧ X.newWithAuth (walletUrl url) = .ok () ∧ client = walletUrl url := by
  unfold BitcoindClient.new rpcCall
  simp only [yields_bind, yields_lift, yields_ask, yields_pure, yields_ensureWallet,
    Outcome.ofExcept_eq_ok, Outcome.okOr_eq_ok, Outcome.rejectIf_eq_ok, not_not,
    Json.asStr_eq_some]
  constructor
  · rintro ⟨_, _, ⟨hurl, rfl⟩, info, _, ⟨hinfo, rfl⟩, chain, _, ⟨hchain, rfl⟩, _, _,
      ⟨hregtest, rfl⟩, _, _, ⟨requests, hwallet, rfl⟩, _, _, ⟨hclient, rfl⟩, rfl, rfl⟩
    rw [hregtest] at hchain
    exact ⟨hurl, ⟨info, hinfo, hchain⟩, ⟨requests, hwallet, rfl⟩, hclient, rfl⟩
  · rintro ⟨hurl, ⟨info, hinfo, hchain⟩, ⟨requests, hwallet, rfl⟩, hclient, rfl⟩
    exact ⟨(), _, ⟨hurl, rfl⟩, info, _, ⟨hinfo, rfl⟩, "regtest", _, ⟨hchain, rfl⟩, (), _,
      ⟨rfl, rfl⟩, (), _, ⟨requests, hwallet, rfl⟩, (), _, ⟨hclient, rfl⟩, rfl, rfl⟩

section

variable {reason : List (Request Address) → Request Address → Prop}

/-- A request that mines nothing, and has a reason whatever was requested before. -/
theorem moves_ask {ε α : Type} (report : String → ε) (request : Request Address)
    (answer : List (Request Address) → Except String α) (h : ∀ asked, reason asked request)
    (hblocks : request.blocks = none) :
    Moves (Justified reason Request.blocks []) (ask report request answer :
      RpcMethod τ Address ε α) := by
  intro asked
  rw [run_ask]
  exact Justified.idle request (h asked) hblocks

theorem moves_ensureWallet (h : ∀ asked request, request.blocks = none → reason asked request) :
    Moves (Justified reason Request.blocks []) (ensureWallet X : RpcMethod τ Address Error Unit) := by
  refine moves_bind _ _ _ (moves_attempt _ _ ?_) fun loaded => ?_
  · exact moves_ask _ _ _ (fun asked => h asked _ rfl) rfl
  · cases loaded with
    | ok u => exact moves_pure _ _
    | error msg =>
        refine moves_ite _ _ _ _ (moves_pure _ _) ?_
        exact moves_ask _ _ _ (fun asked => h asked _ rfl) rfl

end

/-- Whatever is answered, the chain is asked for first, and nothing else is requested
    unless it is the test network. -/
theorem BitcoindClient.new_asks (url : String) :
    Justified (StartReason B) Request.blocks [] []
      ((BitcoindClient.new X B url : RpcMethod τ Address Error String).run []).state := by
  have hchain : Justified (StartReason B) Request.blocks [] [] [chainRequest] :=
    Justified.idle chainRequest (Or.inl ⟨rfl, rfl⟩) rfl
  unfold BitcoindClient.new rpcCall
  cases hurl : X.newWithAuth url with
  | error e =>
      -- No client, so nothing was requested.
      simp only [Outcome.ofExcept, run_lift_err_bind]
      exact Justified.refl []
  | ok u =>
      simp only [Outcome.ofExcept, run_lift_ok_bind]
      cases hinfo : B.call [] "getblockchaininfo" [] with
      | error e =>
          rw [run_ask_bind_of_error _ _ _ _ _ hinfo]
          exact hchain
      | ok info =>
          rw [run_ask_bind_of_ok _ _ _ _ _ hinfo]
          refine hchain.trans ?_
          -- From here on a request needs the test network, and that for the chain stays first.
          suffices hrest : Justified (fun _ request => OnRegtest B ∧ request.blocks = none)
              Request.blocks [] [chainRequest] _ from
            hrest.weaken (fun new request h => Or.inr ⟨rfl, h⟩) (List.Sublist.refl _)
          refine moves_lift_bind _ _ _ (fun chain hfield => ?_) [chainRequest]
          refine moves_lift_bind _ _ _ fun _ hregtest => ?_
          rw [Outcome.rejectIf_eq_ok, not_not] at hregtest
          rw [Outcome.okOr_eq_ok, Json.asStr_eq_some, hregtest] at hfield
          have hon : OnRegtest B := ⟨info, hinfo, hfield⟩
          refine moves_bind _ _ _ (moves_ensureWallet fun _ _ h => ⟨hon, h⟩) fun _ => ?_
          exact moves_bind _ _ _ (moves_lift _ _) fun _ => moves_pure _ _

end

end Simd

end LnGossipSim
