import CallRouting.Proofs.Destination
import CallRouting.Proofs.Install

/-!
# Services at work

All that happens to a service, with what it was at each moment before. A call takes the snapshot and
the pool that were current when it came in, which need not be the current ones when it is routed.

* `Service.Operation`, `Service.perform` : new rules, new pools and dropped plans;
* `Service.router_perform`, `Service.chain_perform` : what an operation can do to either part;
* `Session`, `Session.run` : operations and calls in any order; a call may be late by any number of
  steps;
* `Tagged` : a number that tells values apart, because it grows with each new one;
* `Session.Sound` : versions tell snapshots apart, and serial numbers pools, throughout a run.
-/

namespace CallRouting

/-! ## Operations -/

/-- What can be done to a service, apart from calling it. -/
inductive Service.Operation where
  | install (text : Option String)
  | installRule (rule : Rule)
  | apply (text : Option String)
  | process (change : Change)
  | resync (read : Except SourceError (Option String))
  | setPool (pool : Pool)
  | invalidate

namespace Service

def perform (s : Service) : Operation → Service
  | .install text => (s.install text).2
  | .installRule rule => (s.installRule rule).2
  | .apply text => (s.apply text).2
  | .process change => (s.process change).2
  | .resync read => (s.resync read).2
  | .setPool pool => s.setPool pool
  | .invalidate => s.invalidate

variable (s : Service)

theorem Heard.router_cases {s s' : Service} {text : Option String} (h : s.Heard s' text) :
    s'.router = s.router ∨ ∃ rule, s.router.Replaced s'.router rule := by
  cases hr : s.router.compiler.rule? text with
  | none => exact Or.inl (h.kept hr)
  | some rule => exact Or.inr ⟨rule, h.took rule hr⟩

/-- An operation leaves the rule in force, or puts the next one in force. -/
theorem router_perform (o : Operation) :
    (s.perform o).router = s.router ∨ ∃ rule, s.router.Replaced (s.perform o).router rule := by
  cases o with
  | install text =>
    rcases s.router.install_cases text with ⟨r', rule, hr, -, hrep⟩ | ⟨e, he, -⟩
    · simp only [perform, install, hr]
      exact Or.inr ⟨rule, hrep⟩
    · refine Or.inl ?_
      simp only [perform, install, he]
  | installRule rule =>
    rcases s.router.installRule_cases rule with ⟨r', hr, -, hrep⟩ | ⟨e, he, -⟩
    · simp only [perform, installRule, hr]
      exact Or.inr ⟨rule, hrep⟩
    · refine Or.inl ?_
      simp only [perform, installRule, he]
  | apply text => exact (s.heard_apply text).router_cases
  | process change =>
    simp only [perform, process]
    split
    · exact (s.heard_apply change.value).router_cases
    · exact Or.inl rfl
  | resync read =>
    cases read with
    | error e => exact Or.inl rfl
    | ok text => exact (s.heard_apply text).router_cases
  | setPool pool => exact Or.inl rfl
  | invalidate => exact Or.inl rfl

theorem chain_apply (text : Option String) : (s.apply text).2.chain = s.chain := by
  rw [apply_eq]
  split <;> rfl

/-- Rules come and go without the chain. -/
theorem chain_perform (o : Operation) :
    (s.perform o).chain = s.chain ∨ (∃ pool, (s.perform o).chain = s.chain.setPool pool) ∨
      (s.perform o).chain = s.chain.invalidate := by
  cases o with
  | install text =>
    simp only [perform, install]
    split <;> exact Or.inl rfl
  | installRule rule =>
    simp only [perform, installRule]
    split <;> exact Or.inl rfl
  | apply text => exact Or.inl (s.chain_apply text)
  | process change =>
    simp only [perform, process]
    split
    · exact Or.inl (s.chain_apply change.value)
    · exact Or.inl rfl
  | resync read =>
    cases read with
    | error e => exact Or.inl rfl
    | ok text => exact Or.inl (s.chain_apply text)
  | setPool pool => exact Or.inr (Or.inl ⟨pool, rfl⟩)
  | invalidate => exact Or.inr (Or.inr rfl)

end Service

/-! ## Sessions -/

/-- A service and what it was before each step. -/
structure Session where
  now : Service
  past : List Service := []

namespace Session

inductive Event where
  | operation (o : Service.Operation)
  /-- A call that took its snapshot at one moment and its pool at another. -/
  | call (i j : Nat) (call : Call)

/-- The service at a moment; a moment that has not yet come is the current one. -/
def moment (s : Session) (i : Nat) : Service := s.past[i]?.getD s.now

/-- The answer to a call that took its snapshot at moment `i` and its pool at moment `j`. -/
def answer (s : Session) (i j : Nat) (call : Call) : Except RoutingError Pool × Service :=
  s.now.routeWith (s.moment i).router.active (s.moment j).chain.candidates call

def step (s : Session) : Event → Session
  | .operation o => { now := s.now.perform o, past := s.past ++ [s.now] }
  | .call i j call => { now := (s.answer i j call).2, past := s.past ++ [s.now] }

def run (s : Session) (events : List Event) : Session := events.foldl step s

/-- What every step keeps, every run keeps. -/
theorem run_induction {P : Session → Prop} (hstep : ∀ s e, P s → P (s.step e)) {s : Session}
    (hs : P s) (events : List Event) : P (s.run events) := by
  induction events generalizing s with
  | nil => exact hs
  | cons e es ih => exact ih (hstep s e hs)

/-- All that the service has been so far. -/
def states (s : Session) : List Service := s.past ++ [s.now]

theorem now_mem (s : Session) : s.now ∈ s.states :=
  List.mem_append_right _ (List.mem_singleton_self _)

theorem moment_mem (s : Session) (i : Nat) : s.moment i ∈ s.states := by
  unfold moment
  cases h : s.past[i]? with
  | none => exact s.now_mem
  | some a => exact List.mem_append_left _ (List.mem_of_getElem? h)

theorem past_step (s : Session) (e : Event) : (s.step e).past = s.states := by
  cases e <;> rfl

theorem mem_states_step {s : Session} {a : Service} (h : a ∈ s.states) (e : Event) :
    a ∈ (s.step e).states := by
  rw [states, past_step]
  exact List.mem_append_left _ h

end Session

/-! ## Numbers that tell values apart -/

/-- The number tells apart all the values that there have been, and is highest now. -/
structure Tagged {S V : Type} (value : S → V) (tag : V → Nat) (past : List S) (now : S) : Prop where
  le : ∀ a ∈ past, tag (value a) ≤ tag (value now)
  eq : ∀ a ∈ past, ∀ b ∈ past, tag (value a) = tag (value b) → value a = value b
  eq_now : ∀ a ∈ past, tag (value a) = tag (value now) → value a = value now

namespace Tagged

variable {S V : Type} {value : S → V} {tag : V → Nat} {past : List S} {now : S}

theorem nil (value : S → V) (tag : V → Nat) (now : S) : Tagged value tag [] now :=
  ⟨nofun, nofun, nofun⟩

theorem eq_of_mem (h : Tagged value tag past now) {a b : S} (ha : a ∈ past ++ [now])
    (hb : b ∈ past ++ [now]) (hab : tag (value a) = tag (value b)) : value a = value b := by
  rw [List.mem_append, List.mem_singleton] at ha hb
  rcases ha with ha | rfl <;> rcases hb with hb | rfl
  · exact h.eq a ha b hb hab
  · exact h.eq_now a ha hab
  · exact (h.eq_now b hb hab.symm).symm
  · rfl

theorem le_of_mem (h : Tagged value tag past now) {a : S} (ha : a ∈ past ++ [now]) :
    tag (value a) ≤ tag (value now) := by
  rw [List.mem_append, List.mem_singleton] at ha
  rcases ha with ha | rfl
  · exact h.le a ha
  · exact Nat.le_refl _

/-- The value stays, or a new one with a higher number comes. -/
theorem step (h : Tagged value tag past now) {new : S}
    (hnew : value new = value now ∨ tag (value now) < tag (value new)) :
    Tagged value tag (past ++ [now]) new := by
  refine ⟨fun a ha => ?_, fun a ha b hb => h.eq_of_mem ha hb, fun a ha hab => ?_⟩
  · have hle := h.le_of_mem ha
    rcases hnew with hnew | hlt
    · rw [hnew]
      exact hle
    · omega
  · rcases hnew with hnew | hlt
    · rw [hnew] at hab ⊢
      exact h.eq_of_mem ha (List.mem_append_right _ (List.mem_singleton_self _)) hab
    · have hle := h.le_of_mem ha
      omega

end Tagged

namespace Session

/-- At all moments the version belongs to one snapshot and the serial number to one pool. -/
structure Sound (s : Session) (key : String) (baseline : Call) : Prop where
  key_eq : s.now.router.key = key
  baseline_eq : s.now.chain.baseline = baseline
  versions : Tagged (·.router.active) (·.version) s.past s.now
  serials : Tagged (·.chain.candidates) (·.serial) s.past s.now

theorem sound_nil (s : Service) : Sound { now := s } s.router.key s.chain.baseline :=
  ⟨rfl, rfl, .nil _ _ _, .nil _ _ _⟩

variable {s : Session} {key : String} {baseline : Call}

theorem Sound.snapshot_eq (h : s.Sound key baseline) {a b : Service} (ha : a ∈ s.states)
    (hb : b ∈ s.states) (hab : a.router.active.version = b.router.active.version) :
    a.router.active = b.router.active := h.versions.eq_of_mem ha hb hab

theorem Sound.candidates_eq (h : s.Sound key baseline) {a b : Service} (ha : a ∈ s.states)
    (hb : b ∈ s.states) (hab : a.chain.candidates.serial = b.chain.candidates.serial) :
    a.chain.candidates = b.chain.candidates := h.serials.eq_of_mem ha hb hab

theorem Sound.step_operation (h : s.Sound key baseline) (o : Service.Operation) :
    (s.step (.operation o)).Sound key baseline := by
  have hrouter := s.now.router_perform o
  have hchain := s.now.chain_perform o
  refine ⟨?_, ?_, h.versions.step ?_, h.serials.step ?_⟩ <;> simp only [Session.step]
  · rcases hrouter with hr | ⟨rule, hr⟩
    · rw [hr, h.key_eq]
    · rw [hr.key, h.key_eq]
  · rcases hchain with hc | ⟨pool, hc⟩ | hc <;> rw [hc] <;> exact h.baseline_eq
  · rcases hrouter with hr | ⟨rule, hr⟩
    · exact Or.inl (by rw [hr])
    · exact Or.inr (by rw [hr.version]; omega)
  · rcases hchain with hc | ⟨pool, hc⟩ | hc <;> rw [hc]
    · exact Or.inl rfl
    · exact Or.inr (Nat.lt_succ_self _)
    · exact Or.inl rfl

theorem chain_step_call (s : Session) (i j : Nat) (call : Call) :
    (s.step (.call i j call)).now.chain = (s.now.chain.serve s.now.router.key
      (s.moment i).router.active (s.moment j).chain.candidates call).chain := rfl

theorem Sound.step_call (h : s.Sound key baseline) (i j : Nat) (call : Call) :
    (s.step (.call i j call)).Sound key baseline := by
  have hchain := s.now.chain.chain_serve s.now.router.key (s.moment i).router.active
    (s.moment j).chain.candidates call
  rw [← chain_step_call] at hchain
  refine ⟨h.key_eq, ?_, h.versions.step (Or.inl rfl), h.serials.step (Or.inl ?_)⟩
  · rcases hchain with hc | ⟨kept, -, hc⟩ <;> rw [hc] <;> exact h.baseline_eq
  · rcases hchain with hc | ⟨kept, -, hc⟩ <;> rw [hc]

theorem Sound.step (h : s.Sound key baseline) (e : Event) : (s.step e).Sound key baseline := by
  cases e with
  | operation o => exact h.step_operation o
  | call i j call => exact h.step_call i j call

end Session
end CallRouting
