import LnGossipSim.Library.Caller
import LnGossipSim.Bolt.Types

/-!
# Requests to bitcoind

The daemon asks bitcoind for what it needs, one request after the other. The
answers are inputs of the model: `Bitcoind` gives the answer to each request,
which may depend on all requests made before it, and it may be an error. So the
state of the code here is the list of requests made.

Most answers are JSON values that the code takes apart itself. Looking up a key
or an index that is not there gives null, and so does looking into a value that
is no object or no array. Only the last step, which expects a string, a number
or an array, can miss.

## Main definitions

* `Json`: The JSON values, and how they are taken apart.
* `Error`: What the requests can report, with its text.
* `Request`, `Bitcoind`: The requests, and what answers them.
* `ask`, `rpcCall`, `generateToAddress`: One request.
* `blockCount`, `bestBlockHash`, `balance`: Requests with a default.

## Theorems

* `run_ask`: A request by its answer.
* `ask_bind_eq_ok`: A method that starts with a request.
* `triple_ask`: A request ends in an answer or an error.
-/

namespace LnGossipSim

namespace Simd

/-- A number of a JSON value: an unsigned 64-bit number, or another one as it is
    printed. -/
inductive JsonNumber where
  | posInt (value : UInt64)
  | other (text : String)
  deriving DecidableEq

/-- A JSON value. An object has at most one entry for a key. -/
inductive Json where
  | null
  | bool (value : Bool)
  | number (value : JsonNumber)
  | string (value : String)
  | array (items : List Json)
  | object (fields : List (String × Json))

namespace Json

/-- The value under a key, or null. -/
def field (key : String) : Json → Json
  | object fields => (fields.lookup key).getD null
  | _ => null

/-- The value at an index, or null. -/
def item (n : Nat) : Json → Json
  | array items => items[n]?.getD null
  | _ => null

/-- The string, if it is one. -/
def asStr : Json → Option String
  | string s => some s
  | _ => none

/-- The unsigned 64-bit number, if it is one. -/
def asU64 : Json → Option UInt64
  | number (.posInt n) => some n
  | _ => none

/-- The items, if it is an array. -/
def asArray : Json → Option (List Json)
  | array items => some items
  | _ => none

/-- The truth value, if it is one. -/
def asBool : Json → Option Bool
  | bool b => some b
  | _ => none

theorem asStr_eq_some (v : Json) (s : String) : v.asStr = some s ↔ v = .string s := by
  cases v <;> simp [asStr]

theorem asU64_eq_some (v : Json) (n : UInt64) : v.asU64 = some n ↔ v = .number (.posInt n) := by
  cases v with
  | number n => cases n <;> simp [asU64]
  | _ => simp [asU64]

theorem asArray_eq_some (v : Json) (items : List Json) :
    v.asArray = some items ↔ v = .array items := by
  cases v <;> simp [asArray]

theorem asBool_eq_some (v : Json) (b : Bool) : v.asBool = some b ↔ v = .bool b := by
  cases v <;> simp [asBool]

end Json

/-- Crate-wide errors. -/
inductive Error where
  | rpc (message : String)
  | address (message : String)
  | descriptor (message : String)
  | chain (message : String)
  deriving DecidableEq

/-- The text of an error. -/
def Error.text : Error → String
  | .rpc message => s!"RPC: {message}"
  | .address message => s!"address: {message}"
  | .descriptor message => s!"descriptor: {message}"
  | .chain message => s!"chain: {message}"

/-- A request: a call by its name and parameters, or one of those that the client
    has a method for. -/
inductive Request (Address : Type) where
  | call (method : String) (params : List Json)
  | generateToAddress (blocks : Nat) (address : Address)
  | getBlockCount
  | bestBlockHash
  | getBalance

/-- What bitcoind answers, given the requests made before. An error is given by
    its text. -/
structure Bitcoind (Address : Type) where
  call : List (Request Address) → String → List Json → Except String Json
  generateToAddress : List (Request Address) → Nat → Address → Except String (List String)
  getBlockCount : List (Request Address) → Except String UInt64
  bestBlockHash : List (Request Address) → Except String String
  getBalance : List (Request Address) → Except String String

section

variable {τ ε α β Address : Type}

/-- Code that makes requests, with those made so far as its state. -/
abbrev RpcMethod (τ Address ε α : Type) := Method τ (List (Request Address)) ε α

/-- Makes a request, and reports the error of the answer. -/
def ask (report : String → ε) (request : Request Address)
    (answer : List (Request Address) → Except String α) : RpcMethod τ Address ε α := do
  let asked ← Method.get
  Method.modify fun asked => asked ++ [request]
  Method.lift (Outcome.ofExcept report (answer asked))

variable (B : Bitcoind Address) (report : String → ε)

/-- Calls a method of bitcoind by its name. -/
def rpcCall (method : String) (params : List Json) : RpcMethod τ Address ε Json :=
  ask report (.call method params) fun asked => B.call asked method params

/-- Mines blocks to an address. Returns their hashes. -/
def generateToAddress (blocks : Nat) (address : Address) : RpcMethod τ Address ε (List String) :=
  ask report (.generateToAddress blocks address) fun asked =>
    B.generateToAddress asked blocks address

/-- The answer to a request, or a default for an error. -/
def askOr (default : α) (request : Request Address)
    (answer : List (Request Address) → Except String α) : RpcMethod τ Address ε α := do
  match ← Method.attempt (ask (fun e => e) request answer) with
  | .ok a => return a
  | .error _ => return default

/-- The number of blocks, or zero. -/
def blockCount : RpcMethod τ Address ε UInt64 := askOr 0 .getBlockCount B.getBlockCount

/-- The hash of the best block, if it is known. -/
def bestBlockHash : RpcMethod τ Address ε String := askOr "unknown" .bestBlockHash B.bestBlockHash

/-- The balance of the wallet, or zero. -/
def balance : RpcMethod τ Address ε String := askOr "0 BTC" .getBalance B.getBalance

variable {B report}

theorem run_ask (request : Request Address)
    (answer : List (Request Address) → Except String α) (asked : List (Request Address)) :
    (ask report request answer : RpcMethod τ Address ε α).run asked
      = ⟨Outcome.ofExcept report (answer asked), asked ++ [request], []⟩ := by
  unfold ask
  rw [Method.run_get_bind, Method.run_modify_bind, Method.run_lift]

/-- A request that is answered is stepped over. -/
theorem run_ask_bind_of_ok (request : Request Address)
    (answer : List (Request Address) → Except String α) (f : α → RpcMethod τ Address ε β)
    (asked : List (Request Address)) (a : α) (h : answer asked = .ok a) :
    (ask report request answer >>= f).run asked = (f a).run (asked ++ [request]) := by
  have hrun : (ask report request answer : RpcMethod τ Address ε α).run asked = _ :=
    run_ask request answer asked
  rw [h] at hrun
  exact Method.run_bind_of_ok _ _ _ _ _ _ hrun

/-- A request whose answer is an error ends the method. -/
theorem run_ask_bind_of_error (request : Request Address)
    (answer : List (Request Address) → Except String α) (f : α → RpcMethod τ Address ε β)
    (asked : List (Request Address)) (e : String) (h : answer asked = .error e) :
    (ask report request answer >>= f).run asked = ⟨.err (report e), asked ++ [request], []⟩ := by
  have hrun : (ask report request answer : RpcMethod τ Address ε α).run asked = _ :=
    run_ask request answer asked
  rw [h] at hrun
  exact Method.run_bind_of_err _ _ _ _ _ _ hrun

/-- A method that starts with a request succeeds when the answer is a value and
    the rest succeeds on it. -/
theorem ask_bind_eq_ok (request : Request Address)
    (answer : List (Request Address) → Except String α) (f : α → RpcMethod τ Address ε β)
    (asked : List (Request Address)) (b : β) :
    ((ask report request answer >>= f).run asked).outcome = .ok b
      ↔ ∃ a, answer asked = .ok a ∧ ((f a).run (asked ++ [request])).outcome = .ok b := by
  rw [Method.run_bind, run_ask]
  cases answer asked with
  | ok a => simp [Outcome.ofExcept]
  | error e => simp [Outcome.ofExcept]

/-- A request ends in a value or an error, and a value is what was answered. -/
theorem triple_ask (Bad : τ → Prop) (Pre : List (Request Address) → Prop)
    (request : Request Address) (answer : List (Request Address) → Except String α) :
    Method.Triple Bad Pre (ask report request answer : RpcMethod τ Address ε α)
      (fun a _ => ∃ asked, Pre asked ∧ answer asked = .ok a) := by
  intro asked hpre
  rw [run_ask]
  refine ⟨Outcome.settles_ofExcept _ _, fun _ hc => absurd hc List.not_mem_nil, ?_⟩
  exact fun a ha => ⟨asked, hpre, (Outcome.ofExcept_eq_ok _ _ a).mp ha⟩

theorem safe_ask (Bad : τ → Prop) (request : Request Address)
    (answer : List (Request Address) → Except String α) :
    Method.Safe Bad (ask report request answer : RpcMethod τ Address ε α) :=
  Method.Triple.weaken Bad _ (triple_ask Bad _ request answer) (fun _ h => h) fun _ _ _ => trivial

theorem safe_askOr (Bad : τ → Prop) (default : α) (request : Request Address)
    (answer : List (Request Address) → Except String α) :
    Method.Safe Bad (askOr default request answer : RpcMethod τ Address ε α) := by
  refine Method.safe_bind _ _ _ (Method.safe_attempt _ _ (safe_ask _ _ _)) fun r => ?_
  cases r with
  | ok a => exact Method.safe_pure _ _
  | error e => exact Method.safe_pure _ _

end

end Simd

end LnGossipSim
