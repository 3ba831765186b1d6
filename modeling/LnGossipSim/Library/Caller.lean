import Mathlib.Order.Defs.Unbundled
import LnGossipSim.Library.Method

/-!
# Calling Methods

What code does with the methods it calls. It may hold the receiver in a local
variable. It may handle the error of a call, which then is a value like any
other, while a panic goes on through it. It may run the call as a task of its
own, and then a panic ends the task only and is a value for the code that waits
for it. The panic has happened all the same, so it is noted in the trace.

A triple says what a method does from the states that meet a precondition: it
ends in a value or an error, it notes no event of a given kind, and a value it
returns meets a postcondition together with the state that is left. Triples are
proved statement by statement, each from what the one before it promised.

Most methods need neither condition. They are safe from every state, and a
sequence is safe when its parts are.

What a method does to the state, however it ends, is a relation between the
state it found and the state it left. A preorder that relates what the parts of a
sequence do also relates what the sequence does.

## Main definitions

* `Method.attempt`: The error of a call as a value.
* `Method.withLocal`: A method on a local variable.
* `Method.spawn`: A method as a task of its own.
* `Method.noting`: A method with its calls noted as those of another kind.
* `Method.Triple`: What a method promises from a precondition.
* `Method.Safe`: What it promises from every state.
* `Method.Moves`, `Method.MovesUnlessOk`: What a method does to the state, and
  what it does when it fails.
* `Method.Absorbs`: A relation that holds across what another one relates.

## Theorems

* `Method.outcome_bind_eq_ok`, `Method.outcome_bind_eq_panicked`: How a sequence
  ends.
* `Method.mem_trace_bind`: What a sequence notes.
* `Method.run_withLocal_bind_of_ok`: A call on a local variable is stepped over.
* `Method.triple_bind`, `Method.safe_bind`, `Method.moves_bind`,
  `Method.movesUnlessOk_bind`, `Method.moves_seq`, `Method.moves_bind_before`,
  `Method.moves_bind_after`, `Method.calls_moves`: The rules for sequences.
* `Method.triple_attempt`, `Method.triple_withLocal`, `Method.triple_zoom`,
  `Method.triple_noting`, `Method.triple_spawn`: The rules for calls.
-/

namespace Outcome

variable {ε ε' α : Type}

/-- The error as a value. -/
def attempt : Outcome ε α → Outcome ε' (Except ε α)
  | .ok a => .ok (.ok a)
  | .err e => .ok (.error e)
  | .panicked => .panicked
  | .diverged => .diverged

/-- What the code that waits for a task gets: the result, or nothing when the task
    panicked. -/
def joined : Outcome ε α → Outcome ε' (Option (Except ε α))
  | .ok a => .ok (some (.ok a))
  | .err e => .ok (some (.error e))
  | .panicked => .ok none
  | .diverged => .diverged

/-- The note that a panic leaves. -/
def panicNote {τ : Type} (panic : τ) : Outcome ε α → List τ
  | .panicked => [panic]
  | _ => []

end Outcome

namespace Method

variable {τ τ' σ ρ ε ε' α β γ : Type}

/-- A call whose error the caller handles. -/
def attempt (m : Method τ σ ε α) : Method τ σ ε' (Except ε α) := fun s =>
  let r := m.run s
  ⟨r.outcome.attempt, r.state, r.trace⟩

/-- A call on a local variable, returned with the value. -/
def withLocal (v : ρ) (m : Method τ ρ ε α) : Method τ σ ε (α × ρ) := fun s =>
  let r := m.run v
  ⟨(do return (← r.outcome, r.state)), s, r.trace⟩

/-- A call whose own calls are noted as those of another kind. -/
def noting (f : τ → τ') (m : Method τ σ ε α) : Method τ' σ ε α := fun s =>
  let r := m.run s
  ⟨r.outcome, r.state, r.trace.map f⟩

/-- A call as a task of its own. A panic ends the task only: it is noted, and the
    code that waits for the task gets no result. -/
def spawn (panic : τ) (m : Method τ σ ε α) : Method τ σ ε' (Option (Except ε α)) := fun s =>
  let r := m.run s
  ⟨r.outcome.joined, r.state, r.trace ++ r.outcome.panicNote panic⟩

/-- From a state that meets the precondition, the method ends in a value or an
    error and notes nothing bad, and a value it returns meets the postcondition
    with the state it left. -/
def Triple (Bad : τ → Prop) (Pre : σ → Prop) (m : Method τ σ ε α) (Post : α → σ → Prop) : Prop :=
  ∀ s, Pre s → (m.run s).outcome.Settles ∧ (∀ c ∈ (m.run s).trace, ¬ Bad c)
    ∧ ∀ a, (m.run s).outcome = .ok a → Post a (m.run s).state

/-- However the method ends, the state it leaves is related to the one it found. -/
def Moves (R : σ → σ → Prop) (m : Method τ σ ε α) : Prop := ∀ s, R s (m.run s).state

/-- The same of the runs that do not return a value. -/
def MovesUnlessOk (R : σ → σ → Prop) (m : Method τ σ ε α) : Prop :=
  ∀ s, (∀ a, (m.run s).outcome ≠ .ok a) → R s (m.run s).state

@[simp] theorem run_attempt (m : Method τ σ ε α) (s : σ) :
    (attempt m : Method τ σ ε' (Except ε α)).run s
      = ⟨(m.run s).outcome.attempt, (m.run s).state, (m.run s).trace⟩ := rfl

theorem run_mapErr_noting (g : ε → ε') (f : τ → τ') (m : Method τ σ ε α) (s : σ) :
    (mapErr g (noting f m)).run s
      = ⟨(m.run s).outcome.mapErr g, (m.run s).state, (m.run s).trace.map f⟩ := rfl

@[simp] theorem run_spawn (panic : τ) (m : Method τ σ ε α) (s : σ) :
    (spawn panic m : Method τ σ ε' (Option (Except ε α))).run s
      = ⟨(m.run s).outcome.joined, (m.run s).state,
        (m.run s).trace ++ (m.run s).outcome.panicNote panic⟩ := rfl

/-- A sequence returns a value when both parts do. -/
theorem outcome_bind_eq_ok (x : Method τ σ ε α) (f : α → Method τ σ ε β) (s : σ) (b : β) :
    ((x >>= f).run s).outcome = .ok b
      ↔ ∃ a, (x.run s).outcome = .ok a ∧ ((f a).run (x.run s).state).outcome = .ok b := by
  rw [run_bind]
  rcases x.run s with ⟨o, s', t⟩
  cases o <;> simp

/-- A value together with the state it is returned in, read off a sequence that
    returns both. -/
theorem outcome_with_state (x : Method τ σ ε α) (s s' : σ) (a : α) :
    ((x >>= fun a => get >>= fun s' => pure (a, s')).run s).outcome = .ok (a, s')
      ↔ (x.run s).outcome = .ok a ∧ (x.run s).state = s' := by
  rw [outcome_bind_eq_ok]
  simp only [run_get_bind, run_pure, Outcome.ok.injEq, Prod.mk.injEq]
  constructor
  · rintro ⟨b, hb, rfl, hs⟩
    exact ⟨hb, hs⟩
  · rintro ⟨ha, hs⟩
    exact ⟨a, ha, rfl, hs⟩

/-- A sequence panics when one of its parts does. -/
theorem outcome_bind_eq_panicked (x : Method τ σ ε α) (f : α → Method τ σ ε β) (s : σ) :
    ((x >>= f).run s).outcome = .panicked
      ↔ (x.run s).outcome = .panicked
        ∨ ∃ a, (x.run s).outcome = .ok a ∧ ((f a).run (x.run s).state).outcome = .panicked := by
  rw [run_bind]
  rcases x.run s with ⟨o, s', t⟩
  cases o <;> simp

/-- A method that starts with code that does not touch the state. -/
theorem lift_bind_eq_ok (x : Outcome ε α) (f : α → Method τ σ ε β) (s : σ) (b : β) :
    ((lift x >>= f).run s).outcome = .ok b
      ↔ ∃ a, x = .ok a ∧ ((f a).run s).outcome = .ok b := by
  rw [run_bind, run_lift]
  cases x <;> simp

/-- What the first part of a sequence notes, the sequence notes. -/
theorem mem_trace_bind (x : Method τ σ ε α) (f : α → Method τ σ ε β) (s : σ) (call : τ)
    (h : call ∈ (x.run s).trace) : call ∈ ((x >>= f).run s).trace := by
  rw [run_bind]
  rcases hrun : x.run s with ⟨o, s', t⟩
  rw [hrun] at h
  cases o with
  | ok a => exact List.mem_append_left _ h
  | err e => exact h
  | panicked => exact h
  | diverged => exact h

/-- A call on a local variable that succeeds leaves the caller's state alone. -/
theorem run_withLocal_bind_of_ok (v v' : ρ) (m : Method τ ρ ε α) (a : α) (t : List τ)
    (f : α × ρ → Method τ σ ε β) (s : σ) (h : m.run v = ⟨.ok a, v', t⟩) :
    (withLocal v m >>= f).run s = ((f (a, v')).run s).after t := by
  refine run_bind_of_ok _ _ s s (a, v') t ?_
  change (⟨(do return (← (m.run v).outcome, (m.run v).state)), s, (m.run v).trace⟩
    : Return τ σ ε (α × ρ)) = _
  rw [h]
  rfl

/-- A call on a local variable that fails ends the caller. -/
theorem run_withLocal_bind_of_err (v v' : ρ) (m : Method τ ρ ε α) (e : ε) (t : List τ)
    (f : α × ρ → Method τ σ ε β) (s : σ) (h : m.run v = ⟨.err e, v', t⟩) :
    (withLocal v m >>= f).run s = ⟨.err e, s, t⟩ := by
  refine run_bind_of_err _ _ s s e t ?_
  change (⟨(do return (← (m.run v).outcome, (m.run v).state)), s, (m.run v).trace⟩
    : Return τ σ ε (α × ρ)) = _
  rw [h]
  rfl

section

variable (Bad : τ → Prop) {Pre : σ → Prop} {Post : α → σ → Prop}

/-- A stronger precondition and a weaker postcondition. -/
theorem Triple.weaken {Pre' : σ → Prop} {Post' : α → σ → Prop} (m : Method τ σ ε α)
    (h : Triple Bad Pre m Post) (hpre : ∀ s, Pre' s → Pre s)
    (hpost : ∀ a s, Post a s → Post' a s) : Triple Bad Pre' m Post' := by
  intro s hs
  rcases h s (hpre s hs) with ⟨hsettles, htrace, ha⟩
  exact ⟨hsettles, htrace, fun a hok => hpost _ _ (ha a hok)⟩

/-- A part of the precondition that is not about the state. -/
theorem triple_of_fact {fact : Prop} (m : Method τ σ ε α) (h : fact → Triple Bad Pre m Post) :
    Triple Bad (fun s => fact ∧ Pre s) m Post :=
  fun s hs => h hs.1 s hs.2

theorem triple_pure (a : α) (h : ∀ s, Pre s → Post a s) :
    Triple Bad Pre (pure a : Method τ σ ε α) Post := by
  refine fun s hs => ⟨Outcome.settles_ok a, fun c hc => absurd hc List.not_mem_nil, ?_⟩
  intro b hb
  rw [← Outcome.ok.inj hb]
  exact h s hs

theorem triple_get {Post : σ → σ → Prop} (h : ∀ s, Pre s → Post s s) :
    Triple Bad Pre (get : Method τ σ ε σ) Post := by
  refine fun s hs => ⟨Outcome.settles_ok s, fun c hc => absurd hc List.not_mem_nil, ?_⟩
  intro b hb
  rw [← Outcome.ok.inj hb]
  exact h s hs

theorem triple_modify {Post : Unit → σ → Prop} (f : σ → σ) (h : ∀ s, Pre s → Post () (f s)) :
    Triple Bad Pre (modify f : Method τ σ ε Unit) Post :=
  fun s hs => ⟨Outcome.settles_ok (), fun _ hc => absurd hc List.not_mem_nil, fun _ _ => h s hs⟩

theorem triple_lift (x : Outcome ε α) (hx : x.Settles)
    (h : ∀ a s, x = .ok a → Pre s → Post a s) : Triple Bad Pre (lift x : Method τ σ ε α) Post :=
  fun s hs => ⟨hx, fun _ hc => absurd hc List.not_mem_nil, fun a ha => h a s ha hs⟩

/-- A sequence, whose second statement starts from what the first one
    promises. -/
theorem triple_bind {Post' : β → σ → Prop} (x : Method τ σ ε α) (f : α → Method τ σ ε β)
    (hx : Triple Bad Pre x Post) (hf : ∀ a, Triple Bad (Post a) (f a) Post') :
    Triple Bad Pre (x >>= f) Post' := by
  intro s hs
  rcases hx s hs with ⟨hsettles, htrace, hpost⟩
  rw [run_bind]
  rcases hrun : x.run s with ⟨o, s', t⟩
  rw [hrun] at hsettles htrace hpost
  cases o with
  | ok a =>
      rcases hf a s' (hpost a rfl) with ⟨hsettles', htrace', hpost'⟩
      refine ⟨hsettles', fun c hc => ?_, hpost'⟩
      exact (List.mem_append.mp hc).elim (htrace c) (htrace' c)
  | err e => exact ⟨Outcome.settles_err e, htrace, fun b hb => nomatch hb⟩
  | panicked => exact absurd rfl hsettles.1
  | diverged => exact absurd rfl hsettles.2

theorem triple_mapErr (g : ε → ε') (m : Method τ σ ε α) (h : Triple Bad Pre m Post) :
    Triple Bad Pre (mapErr g m) Post := by
  intro s hs
  rcases h s hs with ⟨hsettles, htrace, hpost⟩
  exact ⟨Outcome.settles_mapErr g _ hsettles, htrace,
    fun a ha => hpost a ((Outcome.mapErr_eq_ok g _ a).mp ha)⟩

/-- A call whose error is handled: what it promises of a value it still
    promises. -/
theorem triple_attempt (m : Method τ σ ε α) (h : Triple Bad Pre m Post) :
    Triple Bad Pre (attempt m : Method τ σ ε' (Except ε α))
      (fun r s => ∀ a, r = .ok a → Post a s) := by
  intro s hs
  rcases h s hs with ⟨hsettles, htrace, hpost⟩
  rw [run_attempt]
  cases ho : (m.run s).outcome with
  | ok a =>
      refine ⟨Outcome.settles_ok _, htrace, fun r hr b hb => hpost b ?_⟩
      rw [hb] at hr
      rw [ho, Except.ok.inj (Outcome.ok.inj hr)]
  | err e =>
      refine ⟨Outcome.settles_ok _, htrace, fun r hr b hb => ?_⟩
      rw [hb] at hr
      exact nomatch Outcome.ok.inj hr
  | panicked => exact absurd ho hsettles.1
  | diverged => exact absurd ho hsettles.2

/-- A call on a local variable leaves the caller's state alone. -/
theorem triple_withLocal {Pre' : ρ → Prop} {Post' : α → ρ → Prop} (v : ρ) (m : Method τ ρ ε α)
    (h : Triple Bad Pre' m Post') (hv : Pre' v) :
    Triple Bad Pre (withLocal v m : Method τ σ ε (α × ρ)) (fun p s => Post' p.1 p.2 ∧ Pre s) := by
  intro s hs
  rcases h v hv with ⟨hsettles, htrace, hpost⟩
  refine ⟨Outcome.settles_bind _ _ hsettles fun _ _ => Outcome.settles_ok _, htrace, ?_⟩
  intro p hp
  rcases (Outcome.bind_eq_ok _ _ _).mp hp with ⟨a, ha, hpair⟩
  rw [← Outcome.ok.inj hpair]
  exact ⟨hpost a ha, hs⟩

/-- A call on a part of the state. -/
theorem triple_zoom {Pre' : ρ → Prop} {Post' : α → ρ → Prop} (view : σ → ρ) (update : ρ → σ → σ)
    (m : Method τ ρ ε α) (h : Triple Bad Pre' m Post') (hpre : ∀ s, Pre s → Pre' (view s))
    (hpost : ∀ a r s, Pre s → Post' a r → Post a (update r s)) :
    Triple Bad Pre (zoom view update m) Post := by
  intro s hs
  rcases h (view s) (hpre s hs) with ⟨hsettles, htrace, ha⟩
  exact ⟨hsettles, htrace, fun a hok => hpost a _ s hs (ha a hok)⟩

/-- A call whose own calls are noted as those of another kind. -/
theorem triple_noting {Bad' : τ' → Prop} (f : τ → τ') (m : Method τ σ ε α)
    (h : Triple Bad Pre m Post) (hf : ∀ c, Bad' (f c) → Bad c) :
    Triple Bad' Pre (noting f m) Post := by
  intro s hs
  rcases h s hs with ⟨hsettles, htrace, hpost⟩
  refine ⟨hsettles, fun c hc hbad => ?_, hpost⟩
  rcases List.mem_map.mp hc with ⟨c', hc', heq⟩
  rw [← heq] at hbad
  exact htrace c' hc' (hf c' hbad)

/-- A task that keeps its promise has a result. -/
theorem triple_spawn (panic : τ) (m : Method τ σ ε α) (h : Triple Bad Pre m Post) :
    Triple Bad Pre (spawn panic m : Method τ σ ε' (Option (Except ε α)))
      (fun r s => r ≠ none ∧ ∀ a, r = some (.ok a) → Post a s) := by
  intro s hs
  rcases h s hs with ⟨hsettles, htrace, hpost⟩
  rw [run_spawn]
  cases ho : (m.run s).outcome with
  | ok a =>
      refine ⟨Outcome.settles_ok _, by simpa [Outcome.panicNote] using htrace, fun r hr => ?_⟩
      rw [← Outcome.ok.inj hr]
      exact ⟨by simp, fun b hb => hpost b (by rw [ho, Except.ok.inj (Option.some.inj hb)])⟩
  | err e =>
      refine ⟨Outcome.settles_ok _, by simpa [Outcome.panicNote] using htrace, fun r hr => ?_⟩
      rw [← Outcome.ok.inj hr]
      exact ⟨by simp, fun b hb => nomatch Option.some.inj hb⟩
  | panicked => exact absurd ho hsettles.1
  | diverged => exact absurd ho hsettles.2

/-- From any state, the method ends in a value or an error and notes nothing
    bad. -/
def Safe (Bad : τ → Prop) (m : Method τ σ ε α) : Prop :=
  Triple Bad (fun _ => True) m fun _ _ => True

theorem Safe.settles {m : Method τ σ ε α} (h : Safe Bad m) (s : σ) : (m.run s).outcome.Settles :=
  (h s trivial).1

theorem Safe.triple {m : Method τ σ ε α} (h : Safe Bad m) : Triple Bad Pre m fun _ _ => True :=
  fun s _ => h s trivial

theorem safe_pure (a : α) : Safe Bad (pure a : Method τ σ ε α) :=
  triple_pure Bad a fun _ _ => trivial

theorem safe_lift (x : Outcome ε α) (hx : x.Settles) : Safe Bad (lift x : Method τ σ ε α) :=
  triple_lift Bad x hx fun _ _ _ _ => trivial

theorem safe_get : Safe Bad (get : Method τ σ ε σ) := triple_get Bad fun _ _ => trivial

theorem safe_modify (f : σ → σ) : Safe Bad (modify f : Method τ σ ε Unit) :=
  triple_modify Bad f fun _ _ => trivial

theorem safe_record (call : τ) (h : ¬ Bad call) : Safe Bad (record call : Method τ σ ε Unit) := by
  refine fun s _ => ⟨Outcome.settles_ok (), fun c hc => ?_, fun _ _ => trivial⟩
  rw [List.mem_singleton.mp hc]
  exact h

theorem safe_bind (x : Method τ σ ε α) (f : α → Method τ σ ε β) (hx : Safe Bad x)
    (hf : ∀ a, Safe Bad (f a)) : Safe Bad (x >>= f) :=
  triple_bind Bad x f hx hf

/-- Code that does not touch the state, with what is known of its value. -/
theorem safe_lift_bind (x : Outcome ε α) (f : α → Method τ σ ε β) (hx : x.Settles)
    (hf : ∀ a, x = .ok a → Safe Bad (f a)) : Safe Bad (lift x >>= f) :=
  triple_bind Bad _ _ (triple_lift Bad x hx fun _ _ ha hs => ⟨ha, hs⟩)
    fun a => triple_of_fact Bad _ fun ha => hf a ha

theorem safe_okOr_bind (e : ε) (x : Option α) (f : α → Method τ σ ε β)
    (hf : ∀ a, Safe Bad (f a)) : Safe Bad (lift (Outcome.okOr e x) >>= f) :=
  safe_bind Bad _ f (safe_lift Bad _ (Outcome.settles_okOr e x)) hf

theorem safe_ite (c : Prop) [Decidable c] (m m' : Method τ σ ε α) (h : Safe Bad m)
    (h' : Safe Bad m') : Safe Bad (if c then m else m') := by
  by_cases hc : c
  · rw [if_pos hc]
    exact h
  · rw [if_neg hc]
    exact h'

theorem safe_mapErr (g : ε → ε') (m : Method τ σ ε α) (h : Safe Bad m) : Safe Bad (mapErr g m) :=
  triple_mapErr Bad g m h

theorem safe_attempt (m : Method τ σ ε α) (h : Safe Bad m) :
    Safe Bad (attempt m : Method τ σ ε' (Except ε α)) :=
  Triple.weaken Bad _ (triple_attempt Bad m h) (fun _ h => h) fun _ _ _ => trivial

theorem safe_withLocal (v : ρ) (m : Method τ ρ ε α) (h : Safe Bad m) :
    Safe Bad (withLocal v m : Method τ σ ε (α × ρ)) :=
  Triple.weaken Bad _ (triple_withLocal Bad v m h trivial) (fun _ h => h) fun _ _ _ => trivial

theorem safe_zoom (view : σ → ρ) (update : ρ → σ → σ) (m : Method τ ρ ε α) (h : Safe Bad m) :
    Safe Bad (zoom view update m) :=
  triple_zoom Bad view update m h (fun _ _ => trivial) fun _ _ _ _ _ => trivial

theorem safe_noting {Bad' : τ' → Prop} (f : τ → τ') (m : Method τ σ ε α) (h : Safe Bad m)
    (hf : ∀ c, Bad' (f c) → Bad c) : Safe Bad' (noting f m) :=
  triple_noting Bad f m h hf

theorem safe_spawn (panic : τ) (m : Method τ σ ε α) (h : Safe Bad m) :
    Safe Bad (spawn panic m : Method τ σ ε' (Option (Except ε α))) :=
  Triple.weaken Bad _ (triple_spawn Bad panic m h) (fun _ h => h) fun _ _ _ => trivial

/-- What ends in a value or an error is safe as far as nothing it notes is bad. -/
theorem safe_of_settles (m : Method τ σ ε α) (h : ∀ s, (m.run s).outcome.Settles) :
    Safe (fun _ => False) m :=
  fun s _ => ⟨h s, fun _ _ hbad => hbad, fun _ _ => trivial⟩

/-- A promise of a method whose value is dropped. -/
theorem Triple.of_drop {Pre : σ → Prop} {Post : σ → Prop} (m : Method τ σ ε α)
    (h : Triple Bad Pre (m >>= fun _ => (pure () : Method τ σ ε Unit)) fun _ => Post) :
    Triple Bad Pre m fun _ => Post := by
  intro s hs
  rcases h s hs with ⟨hsettles, htrace, hpost⟩
  rw [run_bind] at hsettles htrace hpost
  rcases hrun : m.run s with ⟨o, s', t⟩
  rw [hrun] at hsettles htrace hpost
  cases o with
  | ok a =>
      refine ⟨Outcome.settles_ok a, fun c hc => htrace c ?_, fun _ _ => hpost () rfl⟩
      exact List.mem_append_left _ hc
  | err e => exact ⟨Outcome.settles_err e, htrace, fun b hb => absurd hb (by simp)⟩
  | panicked => exact absurd rfl hsettles.1
  | diverged => exact absurd rfl hsettles.2

end

/-- A sequence does what its first part does, and then what its second does, if it
    comes to that. -/
theorem moves_seq (R₁ R₂ Q : σ → σ → Prop) (hstop : ∀ s s', R₁ s s' → Q s s')
    (hcomp : ∀ s s₁ s', R₁ s s₁ → R₂ s₁ s' → Q s s') (x : Method τ σ ε α) (f : α → Method τ σ ε β)
    (hx : Moves R₁ x) (hf : ∀ a, Moves R₂ (f a)) : Moves Q (x >>= f) := by
  intro s
  have hfirst := hx s
  rw [run_bind]
  rcases hrun : x.run s with ⟨o, s', t⟩
  rw [hrun] at hfirst
  cases o with
  | ok a => exact hcomp s s' _ hfirst (hf a s')
  | err e => exact hstop s s' hfirst
  | panicked => exact hstop s s' hfirst
  | diverged => exact hstop s s' hfirst

section

variable (R : σ → σ → Prop)

theorem moves_modify (f : σ → σ) (h : ∀ s, R s (f s)) :
    Moves R (modify f : Method τ σ ε Unit) := h

theorem moves_mapErr (g : ε → ε') (m : Method τ σ ε α) (h : Moves R m) :
    Moves R (mapErr g m) := h

theorem moves_attempt (m : Method τ σ ε α) (h : Moves R m) :
    Moves R (attempt m : Method τ σ ε' (Except ε α)) := h

theorem moves_noting (f : τ → τ') (m : Method τ σ ε α) (h : Moves R m) :
    Moves R (noting f m) := h

/-- A method on a part of the state moves the whole by updates of that part. -/
theorem moves_zoom (view : σ → ρ) (update : ρ → σ → σ) (m : Method τ ρ ε α)
    (h : ∀ r s, R s (update r s)) : Moves R (zoom view update m) := fun s => h _ s

theorem moves_ite (c : Prop) [Decidable c] (m m' : Method τ σ ε α) (h : Moves R m)
    (h' : Moves R m') : Moves R (if c then m else m') := by
  by_cases hc : c
  · rw [if_pos hc]
    exact h
  · rw [if_neg hc]
    exact h'

/-- Code that does not touch the state, with what is known of its value. -/
theorem moves_lift_bind [Std.Refl R] (x : Outcome ε α) (f : α → Method τ σ ε β)
    (hf : ∀ a, x = .ok a → Moves R (f a)) : Moves R (lift x >>= f) := by
  intro s
  rw [run_bind, run_lift]
  cases x with
  | ok a => exact hf a rfl s
  | err e => exact refl_of R s
  | panicked => exact refl_of R s
  | diverged => exact refl_of R s

variable [IsPreorder σ R]

theorem moves_pure (a : α) : Moves R (pure a : Method τ σ ε α) := fun s => refl_of R s

theorem moves_get : Moves R (get : Method τ σ ε σ) := fun s => refl_of R s

theorem moves_lift (x : Outcome ε α) : Moves R (lift x : Method τ σ ε α) := fun s => refl_of R s

theorem moves_withLocal (v : ρ) (m : Method τ ρ ε α) :
    Moves R (withLocal v m : Method τ σ ε (α × ρ)) := fun s => refl_of R s

/-- A sequence moves the state as its parts do, one after the other. -/
theorem moves_bind (x : Method τ σ ε α) (f : α → Method τ σ ε β) (hx : Moves R x)
    (hf : ∀ a, Moves R (f a)) : Moves R (x >>= f) :=
  moves_seq R R R (fun _ _ h => h) (fun _ _ _ h h' => trans_of R h h') x f hx hf

/-- What every call of a sequence does, the sequence does. -/
theorem calls_moves {ι : Type} (act : ι → Method τ σ ε α) (ops : List ι)
    (h : ∀ op ∈ ops, Moves R (act op)) (s : σ) : R s (calls act ops s).state := by
  induction ops generalizing s with
  | nil => exact refl_of R s
  | cons op ops ih =>
      have hrest := ih (fun op' hop' => h op' (List.mem_cons_of_mem op hop')) ((act op).run s).state
      exact trans_of R (h op List.mem_cons_self s) hrest

end

/-- A relation of which it does not matter what the other one relates before and
    after. What may happen once in a sequence is such a relation. -/
structure Absorbs (R Q : σ → σ → Prop) : Prop where
  only : ∀ s s', R s s' → Q s s'
  before : ∀ s s₁ s', R s s₁ → Q s₁ s' → Q s s'
  after : ∀ s s₁ s', Q s s₁ → R s₁ s' → Q s s'

section

variable (R Q : σ → σ → Prop)

/-- A preorder absorbs itself. -/
theorem absorbs_self [IsPreorder σ R] : Absorbs R R where
  only _ _ h := h
  before _ _ _ h h' := trans_of R h h'
  after _ _ _ h h' := trans_of R h h'

/-- Like the other one, it relates a state to itself. -/
theorem Absorbs.refl [Std.Refl R] (hQ : Absorbs R Q) : Std.Refl Q where
  refl s := hQ.only s s (refl_of R s)

/-- What comes before is absorbed. -/
theorem moves_bind_before (hQ : Absorbs R Q) (x : Method τ σ ε α) (f : α → Method τ σ ε β)
    (hx : Moves R x) (hf : ∀ a, Moves Q (f a)) : Moves Q (x >>= f) :=
  moves_seq R Q Q hQ.only hQ.before x f hx hf

/-- What comes after is absorbed. -/
theorem moves_bind_after (hQ : Absorbs R Q) (x : Method τ σ ε α) (f : α → Method τ σ ε β)
    (hx : Moves Q x) (hf : ∀ a, Moves R (f a)) : Moves Q (x >>= f) :=
  moves_seq Q R Q (fun _ _ h => h) hQ.after x f hx hf

theorem moves_mono (h : ∀ s s', R s s' → Q s s') (m : Method τ σ ε α) (hm : Moves R m) :
    Moves Q m :=
  fun s => h s _ (hm s)

end

section

variable (R : σ → σ → Prop)

/-- A method that always returns a value never fails. -/
theorem movesUnlessOk_of_ok (m : Method τ σ ε α) (h : ∀ s, ∃ a, (m.run s).outcome = .ok a) :
    MovesUnlessOk R m := by
  intro s hfails
  rcases h s with ⟨a, ha⟩
  exact absurd ha (hfails a)

/-- A sequence fails in its first part, or in its second after the first. -/
theorem movesUnlessOk_bind [IsPreorder σ R] (x : Method τ σ ε α) (f : α → Method τ σ ε β)
    (hx : Moves R x) (hf : ∀ a, MovesUnlessOk R (f a)) : MovesUnlessOk R (x >>= f) := by
  intro s hfails
  have hfirst := hx s
  rw [run_bind] at hfails ⊢
  rcases hrun : x.run s with ⟨o, s', t⟩
  rw [hrun] at hfirst hfails
  cases o with
  | ok a => exact trans_of R hfirst (hf a s' hfails)
  | err e => exact hfirst
  | panicked => exact hfirst
  | diverged => exact hfirst

end

end Method
