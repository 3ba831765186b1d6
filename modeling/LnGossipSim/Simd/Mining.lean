import LnGossipSim.Simd.Server
import LnGossipSim.Simd.Startup

/-!
# What the Daemon Mines

Mining moves coins, so a request for it should not come out of nowhere. The requests
that a daemon has made, from its start on, are a log, and each entry has a reason in
what was there before it. The first asks for the chain. All others come after it and
are made on the test network only, and one that mines does so for a line which asked
for that many blocks, right after the wallet took the descriptor of the address that is
mined to. No line mines twice.

The start and the lines are each a piece of the log. The lines are handled one after
the other here, so the pieces do not mix, as those of several sessions may. A line
makes its requests at one place, where it mines to a fresh address, and all else that
it does leaves the log as it is. In that place the answers for the address are known,
because without them the request would not have been made.

## Main definitions

* `OnAsked`: A relation of the requests made.
* `FundingReason`: Why blocks are mined to an address.
* `Turn.blocksAsked`: The blocks that a line asks for.
* `simd`: The daemon, from its start on.
* `DaemonReason`: Why the daemon makes a request.

## Theorems

* `moves_mineToFunding`: What mining to a fresh address requests.
* `moves_line`, `justified_lines`: What one line requests, and what all of them do.
* `mines_as_asked`: What the daemon requests.
-/

namespace LnGossipSim

namespace Simd

open Bolt Method Noise

/-- The relation of the requests made. -/
def OnAsked {S : Secp256k1} {Address : Type} (R : List (Request Address) → List (Request Address) →
    Prop) (s s' : Server S Address) : Prop := R s.asked s'.asked

instance {S : Secp256k1} {Address : Type}
    (R : List (Request Address) → List (Request Address) → Prop) [IsPreorder _ R] :
    IsPreorder (Server S Address) (OnAsked R) where
  refl s := refl_of R s.asked
  trans _ _ _ h h' := trans_of R h h'

section

variable {S : Secp256k1} (L : BitcoinCrate S)

/-- Why blocks are mined to an address: its descriptor was imported just before, as it
    should be. -/
def FundingReason (B : Bitcoind L.Address) (drawn : S.SecretKey × S.SecretKey)
    (before : List (Request L.Address)) (address : L.Address) : Prop :=
  ∃ earlier checksum, before = earlier ++ fundingRequests L drawn checksum
    ∧ FundingReport L B drawn earlier checksum address

/-- The blocks that a line asks for, if it does. -/
def Turn.blocksAsked {C : ControlCrates S} {Address : Type} (turn : Turn C Address) : Option Nat :=
  let parts := splitWhitespace turn.line
  match parts.head? with
  | some "mine" => parts[1]?.bind parseUsize
  | some "sendchannelannouncement" => some 6
  | some "sendchannelannouncement2" => some 6
  | _ => none

/-- Why a request is made for one of these lines: if it mines, then as the line asks,
    and to an address of the line's keys. -/
def LineReason {C : ControlCrates S} (turns : List (Turn C L.Address))
    (before : List (Request L.Address)) (request : Request L.Address) : Prop :=
  ∀ blocks address, request = .generateToAddress blocks address → ∃ turn ∈ turns,
    turn.blocksAsked = some blocks
      ∧ FundingReason L turn.bitcoind turn.surroundings.drawn before address

end

section

variable {S : Secp256k1} {L : BitcoinCrate S} {B : Bitcoind L.Address} {τ : Type}
  {reason : List (Request L.Address) → Request L.Address → Prop}
  (hidle : ∀ before request, request.blocks = none → reason before request)

include hidle

/-- A fresh address is made without mining. -/
theorem moves_newFundingAddress (drawn : S.SecretKey × S.SecretKey) :
    Moves (Justified reason Request.blocks [])
      (newFundingAddress L B drawn : RpcMethod τ L.Address Error _) := by
  refine moves_bind _ _ _ (moves_ask _ _ _ (fun _ => hidle _ _ rfl) rfl) fun info => ?_
  refine moves_bind _ _ _ (moves_lift _ _) fun checksum => ?_
  refine moves_bind _ _ _ (moves_ask _ _ _ (fun _ => hidle _ _ rfl) rfl) fun addrs => ?_
  refine moves_bind _ _ _ (moves_lift _ _) fun text => ?_
  refine moves_bind _ _ _ (moves_lift _ _) fun addr => ?_
  refine moves_bind _ _ _ (moves_ask _ _ _ (fun _ => hidle _ _ rfl) rfl) fun result => ?_
  exact moves_bind _ _ _ (moves_lift _ _) fun _ => moves_pure _ _

/-- So is the search for the output. The induction is on the transactions. -/
theorem moves_findFundingOutput (firstHash addrStr : String) (start : Nat) (txids : List Json) :
    Moves (Justified reason Request.blocks [])
      (findFundingOutput L B firstHash addrStr start txids : RpcMethod τ L.Address Error _) := by
  induction txids generalizing start with
  | nil => exact moves_pure _ _
  | cons txid txids ih =>
      rw [findFundingOutput]
      refine moves_bind _ _ _ (moves_lift _ _) fun id => ?_
      refine moves_bind _ _ _ (moves_ask _ _ _ (fun _ => hidle _ _ rfl) rfl) fun tx => ?_
      refine moves_bind _ _ _ (moves_lift _ _) fun vout => ?_
      cases vout.findIdx? (fun out => PaysTo addrStr out) with
      | some oi => exact moves_pure _ _
      | none => exact ih (start + 1)

theorem moves_miningResult (funding : FundingKeys L) (hashes : List String) :
    Moves (Justified reason Request.blocks [])
      (miningResult L B funding hashes : RpcMethod τ L.Address Error _) := by
  refine moves_bind _ _ _ (moves_lift _ _) fun firstHash => ?_
  refine moves_bind _ _ _ ?_ fun scid => moves_pure _ _
  refine moves_bind _ _ _ (moves_ask _ _ _ (fun _ => hidle _ _ rfl) rfl) fun block => ?_
  refine moves_bind _ _ _ (moves_lift _ _) fun height => ?_
  refine moves_bind _ _ _ (moves_lift _ _) fun txids => ?_
  refine moves_bind _ _ _ (moves_findFundingOutput hidle _ _ _ _) fun found => ?_
  refine moves_bind _ _ _ (moves_lift _ _) fun txIndex => ?_
  exact moves_bind _ _ _ (moves_lift _ _) fun outputIndex => moves_pure _ _

/-- Mining to a fresh address mines once at most, and then to the address whose
    descriptor was imported just before. -/
theorem moves_mineToFunding (drawn : S.SecretKey × S.SecretKey) (blocks : Nat)
    (hmines : ∀ before address, FundingReason L B drawn before address →
      reason before (.generateToAddress blocks address)) :
    Moves (Justified reason Request.blocks [blocks])
      (mineToFunding L B drawn blocks : RpcMethod τ L.Address Error _) := by
  intro asked
  have hfresh := moves_newFundingAddress (B := B) (τ := τ) hidle drawn asked
  have hkeys := newFundingAddress_eq_ok (B := B) (τ := τ) drawn asked
  -- Requests that mine nothing may come before and after the one that mines.
  have habsorbs : Absorbs (Justified reason Request.blocks [])
      (Justified reason Request.blocks [blocks]) := Justified.absorbs [blocks]
  unfold mineToFunding
  rw [run_bind]
  rcases hrun : (newFundingAddress L B drawn : RpcMethod τ L.Address Error _).run asked with
    ⟨o, asked', t⟩
  rw [hrun] at hfresh hkeys
  cases o with
  -- The import succeeded, so the address is that of the descriptor, and may be mined to.
  | ok funding =>
      rcases (hkeys asked' funding).mp ⟨rfl, rfl⟩ with ⟨checksum, address, hreport, rfl, rfl⟩
      refine habsorbs.before _ _ _ hfresh ?_
      have hmined : Justified reason Request.blocks [blocks]
          (asked ++ fundingRequests L drawn checksum)
          (asked ++ fundingRequests L drawn checksum ++ [.generateToAddress blocks address]) :=
        Justified.single _ (hmines _ address ⟨asked, checksum, rfl, hreport⟩)
      -- The blocks are requested, and all that follows depends on the answer.
      change Justified reason Request.blocks [blocks] _
        ((ask Error.rpc (.generateToAddress blocks address) _ >>= _).run _).state
      cases hanswer : B.generateToAddress (asked ++ fundingRequests L drawn checksum) blocks
          address with
      | ok hashes =>
          rw [run_ask_bind_of_ok _ _ _ _ hashes hanswer]
          exact habsorbs.after _ _ _ hmined (moves_miningResult hidle _ hashes _)
      | error e =>
          rw [run_ask_bind_of_error _ _ _ _ e hanswer]
          exact hmined
  | err e => exact habsorbs.only _ _ hfresh
  | panicked => exact habsorbs.only _ _ hfresh
  | diverged => exact habsorbs.only _ _ hfresh

theorem moves_mine (drawn : S.SecretKey × S.SecretKey) (blocks : Nat)
    (hmines : ∀ before address, FundingReason L B drawn before address →
      reason before (.generateToAddress blocks address)) :
    Moves (Justified reason Request.blocks [blocks])
      (mine L B drawn blocks : RpcMethod τ L.Address Empty _) := by
  refine moves_bind_after _ _ (Justified.absorbs _) _ _
    (moves_attempt _ _ (moves_mineToFunding hidle drawn blocks hmines)) fun result => ?_
  cases result with
  | ok mined => exact moves_pure _ _
  | error e => exact moves_pure _ _

theorem moves_askOr {α : Type} (default : α) (request : Request L.Address)
    (answer : List (Request L.Address) → Except String α) (hblocks : request.blocks = none) :
    Moves (Justified reason Request.blocks [])
      (askOr default request answer : RpcMethod τ L.Address Empty α) := by
  refine moves_bind _ _ _ (moves_attempt _ _ (moves_ask _ _ _ (fun _ => hidle _ _ hblocks) hblocks))
    fun result => ?_
  cases result with
  | ok a => exact moves_pure _ _
  | error e => exact moves_pure _ _

theorem moves_chainInfo :
    Moves (Justified reason Request.blocks []) (chainInfo B : RpcMethod τ L.Address Empty _) := by
  refine moves_bind _ _ _ (moves_askOr hidle _ _ _ rfl) fun blocks => ?_
  refine moves_bind _ _ _ (moves_askOr hidle _ _ _ rfl) fun hash => ?_
  exact moves_bind _ _ _ (moves_askOr hidle _ _ _ rfl) fun balance => moves_pure _ _

end

section

/-- What a line requests, it requests as it asks for blocks. -/
theorem respectsRequests_line {S : Secp256k1} {C : ControlCrates S} {L : BitcoinCrate S}
    (turn : Turn C L.Address) :
    RespectsRequests turn.surroundings turn.bitcoind (splitWhitespace turn.line)
      (OnAsked (Justified (LineReason L [turn]) Request.blocks turn.blocksAsked.toList)) := by
  have hidle : ∀ before request, request.blocks = none → LineReason L [turn] before request := by
    rintro before _ hnone blocks address rfl
    exact absurd hnone (by simp [Request.blocks])
  have hmines : ∀ blocks, turn.blocksAsked = some blocks → ∀ before address,
      FundingReason L turn.bitcoind turn.surroundings.drawn before address →
      LineReason L [turn] before (.generateToAddress blocks address) := by
    rintro blocks hasked before address hreason _ _ ⟨rfl, rfl⟩
    exact ⟨turn, List.mem_singleton.mpr rfl, hasked, hreason⟩
  constructor
  · intro _ s
    exact (Justified.absorbs _).only _ _ (moves_chainInfo hidle s.asked)
  · intro hcommand blocks hblocks s
    have hasked : turn.blocksAsked = some blocks := by
      unfold Turn.blocksAsked
      simp only [hcommand, hblocks]
    rw [hasked]
    exact moves_mine hidle _ blocks (hmines blocks hasked) s.asked
  · intro hcommand s
    have hasked : turn.blocksAsked = some 6 := by
      unfold Turn.blocksAsked
      rcases hcommand with hcommand | hcommand
      · simp only [hcommand]
      · simp only [hcommand]
    rw [hasked]
    exact moves_mineToFunding hidle _ 6 (hmines 6 hasked) s.asked

variable {S : Secp256k1} [DecidableEq S.PublicKey] {C : ControlCrates S} {P : Primitives}
  {E : Signing S} {L : BitcoinCrate S}

/-- Nothing else that is done for a line is a request. -/
theorem moves_line (nodeId : S.PublicKey) (turn : Turn C L.Address) :
    Moves (OnAsked (Justified (LineReason L [turn]) Request.blocks turn.blocksAsked.toList))
      (turn.act P E L nodeId) := by
  -- What is done to the shared state, by this line or by other tasks, requests nothing.
  let R : Server S L.Address → Server S L.Address → Prop :=
    OnAsked (Justified (LineReason L [turn]) Request.blocks [])
  have hR : Respects turn.surroundings P R :=
    ⟨fun _ s => refl_of R s, fun _ _ s => refl_of R s, fun s => refl_of R s⟩
  have habsorbs : Absorbs R
      (OnAsked (Justified (LineReason L [turn]) Request.blocks turn.blocksAsked.toList)) :=
    ⟨fun _ _ => (Justified.absorbs _).only _ _, fun _ _ _ => (Justified.absorbs _).before _ _ _,
      fun _ _ _ => (Justified.absorbs _).after _ _ _⟩
  refine moves_bind_before R _ habsorbs _ _ (moves_modify _ _ fun s => refl_of R s) fun _ => ?_
  refine moves_handleCommand hR habsorbs nodeId turn.line (fun _ => ?_) (fun _ => ?_)
    (respectsRequests_line turn)
  · exact moves_cmdConnect hR (fun _ _ s => refl_of R s) _
  · exact moves_cmdDisconnect hR (fun _ _ s _ => refl_of R s) _

end

section

variable {S : Secp256k1} [DecidableEq S.PublicKey] {C : ControlCrates S} (P : Primitives)
  (E : Signing S) (L : BitcoinCrate S) (X : WalletCrate L.Address) (B : Bitcoind L.Address)

/-- The daemon: it starts, and then it handles lines, one after the other. It ends when
    the start fails. -/
def simd (nodeId : S.PublicKey) (url : String) (shared : Shared S)
    (turns : List (Turn C L.Address)) : Server S L.Address :=
  let started := (BitcoindClient.new X B url : RpcMethod CommandEvent _ _ _).run []
  match started.outcome with
  | .ok _ => (calls (Turn.act P E L nodeId) turns { shared, asked := started.state }).state
  | _ => { shared, asked := started.state }

/-- Why the daemon makes a request: to know the chain before anything else, or after
    that on the test network, and then it mines as one of the lines asks. -/
def DaemonReason (turns : List (Turn C L.Address)) (before : List (Request L.Address))
    (request : Request L.Address) : Prop :=
  (before = [] ∧ request = chainRequest)
    ∨ (before.head? = some chainRequest ∧ OnRegtest B ∧ LineReason L turns before request)

variable {P E L X B}

/-- A daemon that started handles the lines after its start. -/
theorem simd_of_ok (nodeId : S.PublicKey) (url client : String) (shared : Shared S)
    (turns : List (Turn C L.Address)) (log : List (Request L.Address))
    (h : Yields (BitcoindClient.new X B url : RpcMethod CommandEvent _ _ _) [] client log) :
    simd P E L X B nodeId url shared turns
      = (calls (Turn.act P E L nodeId) turns { shared, asked := log }).state := by
  unfold simd
  simp only [h.1, h.2]

/-- A daemon that did not start handles none. -/
theorem asked_simd_of_not_ok (nodeId : S.PublicKey) (url : String) (shared : Shared S)
    (turns : List (Turn C L.Address))
    (h : ∀ client, ((BitcoindClient.new X B url : RpcMethod CommandEvent _ _ _).run []).outcome
      ≠ .ok client) :
    (simd P E L X B nodeId url shared turns).asked
      = ((BitcoindClient.new X B url : RpcMethod CommandEvent _ _ _).run []).state := by
  unfold simd
  cases houtcome : ((BitcoindClient.new X B url : RpcMethod CommandEvent _ _ _).run []).outcome with
  | ok client => exact absurd houtcome (h client)
  | err e => simp only [houtcome]
  | panicked => simp only [houtcome]
  | diverged => simp only [houtcome]

/-- What the lines request, all together. -/
theorem justified_lines (nodeId : S.PublicKey) (turns : List (Turn C L.Address))
    (s : Server S L.Address) :
    Justified (LineReason L turns) Request.blocks
      (turns.flatMap fun turn => turn.blocksAsked.toList) s.asked
      (calls (Turn.act P E L nodeId) turns s).state.asked := by
  refine Justified.calls _ Server.asked _ turns (fun turn hturn s' => ?_) s
  refine (moves_line nodeId turn s').weaken (fun _ request h => ?_) (List.Sublist.refl _)
  intro blocks address heq
  rcases h blocks address heq with ⟨_, hmem, hline⟩
  rw [List.mem_singleton.mp hmem] at hline
  exact ⟨turn, hturn, hline⟩

/-- What the daemon requests, from its start on. -/
theorem justified_simd (nodeId : S.PublicKey) (url : String) (shared : Shared S)
    (turns : List (Turn C L.Address)) :
    Justified (DaemonReason L B turns) Request.blocks
      (turns.flatMap fun turn => turn.blocksAsked.toList) []
      (simd P E L X B nodeId url shared turns).asked := by
  have hstart : Justified (DaemonReason L B turns) Request.blocks [] []
      ((BitcoindClient.new X B url : RpcMethod CommandEvent _ _ _).run []).state := by
    refine (BitcoindClient.new_asks url).weaken (fun before request h => ?_) (List.Sublist.refl _)
    refine h.imp_right fun h => ⟨h.1, h.2.1, ?_⟩
    rintro blocks address rfl
    exact absurd h.2.2 (by simp [Request.blocks])
  by_cases hok : ∃ client,
      ((BitcoindClient.new X B url : RpcMethod CommandEvent _ _ _).run []).outcome = .ok client
  · rcases hok with ⟨client, hok⟩
    have hyields := yields_of_outcome _ _ _ hok
    rcases (BitcoindClient.yields_new url client _).mp hyields with
      ⟨-, hregtest, ⟨requests, -, hlog⟩, -, -⟩
    rw [simd_of_ok nodeId url client shared turns _ hyields]
    refine hstart.trans ?_
    -- The lines come after the start, so the request for the chain stays the first one.
    refine (justified_lines nodeId turns _).weaken (fun new request h => ?_) (List.Sublist.refl _)
    refine Or.inr ⟨?_, hregtest, h⟩
    rw [hlog]
    rfl
  · rw [asked_simd_of_not_ok nodeId url shared turns (not_exists.mp hok)]
    exact (Justified.absorbs _).only _ _ hstart

/-- Whatever the lines and the answers are, the chain is asked for first, and all else
    is requested after that, on the test network. The start mines nothing. A line mines
    once at most, as many blocks as it asks for, and only to an address of its keys
    whose descriptor was imported just before. The lines are handled one after the
    other here. -/
theorem mines_as_asked (nodeId : S.PublicKey) (url : String) (shared : Shared S)
    (turns : List (Turn C L.Address)) :
    let asked (lines : List (Turn C L.Address)) := (simd P E L X B nodeId url shared lines).asked
    (∀ before request after, asked turns = before ++ request :: after →
      DaemonReason L B turns before request)
    ∧ (asked []).filterMap Request.blocks = []
    ∧ ∀ earlier turn, Justified (LineReason L [turn]) Request.blocks turn.blocksAsked.toList
        (asked earlier) (asked (earlier ++ [turn])) := by
  intro asked
  refine ⟨(justified_simd nodeId url shared turns).of_nil.1, ?_, fun earlier turn => ?_⟩
  · exact List.sublist_nil.mp (justified_simd nodeId url shared []).of_nil.2
  by_cases hok : ∃ client,
      ((BitcoindClient.new X B url : RpcMethod CommandEvent _ _ _).run []).outcome = .ok client
  · rcases hok with ⟨client, hok⟩
    have hyields := yields_of_outcome _ _ _ hok
    have hline := moves_line (P := P) (E := E) nodeId turn
      (simd P E L X B nodeId url shared earlier)
    have hlast : asked (earlier ++ [turn])
        = ((turn.act P E L nodeId).run (simd P E L X B nodeId url shared earlier)).state.asked := by
      change (simd P E L X B nodeId url shared (earlier ++ [turn])).asked = _
      rw [simd_of_ok nodeId url client shared _ _ hyields,
        simd_of_ok nodeId url client shared _ _ hyields, calls_append]
      rfl
    rw [hlast]
    exact hline
  · -- Without a start no line is handled.
    have hsame : asked (earlier ++ [turn]) = asked earlier :=
      (asked_simd_of_not_ok nodeId url shared _ (not_exists.mp hok)).trans
        (asked_simd_of_not_ok nodeId url shared _ (not_exists.mp hok)).symm
    rw [hsame]
    exact (Justified.absorbs _).only _ _ (Justified.refl _)

end

/-- The wallet is there already, and two of three lines mine. -/
example :
    let wallets : WalletCrate String :=
      ⟨fun _ => .ok (), fun _ _ => .error "Wallet is already loaded.", fun _ _ => .error "exists"⟩
    let chain := { Bitcoind.sample with
      call := fun _ _ _ => .ok (.object [("chain", .string "regtest")]) }
    let left := simd .transparent .transparent .transparent wallets chain
      (List.Vector.replicate 33 2) "http://localhost" Server.idle.shared
      [.alone "mine 2", .alone "peers", .alone "mine 1"]
    left.asked.filterMap Request.blocks = [2, 1] := by
  decide +kernel

end Simd

end LnGossipSim
