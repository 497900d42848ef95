import CallRouting.Proofs.ListenerRun

/-!
# Listeners catch up

Whatever happens to a source, and whatever the listener has missed, it comes to have the latest text
in force once it has nothing left to read, if that text can be put in force at all.

* `Compiler.lastRule?` : the rule of the last of some texts that can be put in force;
* `Trace.Caught` : what a listener has in force, as far as it has read; every step keeps that, and
  it says the above of a listener that has read everything.
-/

namespace CallRouting

/-- The rule of the last of the texts that can be put in force. -/
def Compiler.lastRule? (compiler : Compiler) (texts : List (Option String)) : Option Rule :=
  texts.reverse.findSome? compiler.rule?

theorem Compiler.lastRule?_snoc (compiler : Compiler) (texts : List (Option String))
    (text : Option String) :
    compiler.lastRule? (texts ++ [text]) = (compiler.rule? text).or (compiler.lastRule? texts) := by
  rw [lastRule?, List.reverse_append, List.findSome?_append, List.reverse_singleton,
    List.findSome?_singleton]
  rfl

namespace Trace

/-- What a listener has in force, as far as it has read. -/
structure Caught (t : Trace) (compiler : Compiler) : Prop where
  latest : t.read = t.changes.length → ∀ rule, compiler.rule? t.latest = some rule →
    t.live.service.router.active.rule = rule
  accepted : (∀ take ∈ t.takes, take.resync = false) →
    compiler.lastRule? (t.texts.take (t.read + 1)) = some t.live.service.router.active.rule

variable {t : Trace} {key : String} {compiler : Compiler}

theorem Caught.step_source (h : t.Caught compiler) (ht : t.Tied key compiler) (e : Source.Event) :
    (t.step (.source e)).Caught compiler := by
  have hle := ht.read_le
  rcases ht.source_cases e with ⟨hs, -⟩ | ⟨change, -, hs, -⟩
  · have hlatest : (t.step (.source e)).latest = t.latest := by rw [Trace.latest, hs]; rfl
    have htexts : (t.step (.source e)).texts = t.texts := by rw [texts, hs]; rfl
    refine ⟨fun hread rule hr => ?_, fun hlag => ?_⟩
    · rw [hs] at hread
      rw [hlatest] at hr
      exact h.latest hread rule hr
    · rw [htexts]
      exact h.accepted hlag
  · have htexts : (t.step (.source e)).texts = t.texts ++ [change.value] := texts_snoc hs rfl
    refine ⟨fun hread => ?_, fun hlag => ?_⟩
    · rw [hs, List.length_append, List.length_singleton] at hread
      have hread : t.read = t.changes.length + 1 := hread
      omega
    · rw [htexts, show (t.step (.source e)).read = t.read from rfl,
        List.take_append_of_le_length (by rw [length_texts]; omega)]
      exact h.accepted hlag

theorem Caught.step_receive (h : t.Caught compiler) (ht : t.Tied key compiler) :
    (t.step .receive).Caught compiler := by
  rcases ht.receive_cases with ⟨-, hsame⟩ | ⟨change, hm⟩ | hl
  · rw [hsame]
    exact h
  · have htook := hm.heard.took
    have hkept := hm.heard.kept
    rw [ht.compiler_eq] at htook hkept
    refine ⟨fun hread rule hr => ?_, fun hlag => ?_⟩
    · -- The change that was taken is the latest one.
      have hread : t.read + 1 = t.changes.length := hm.read.symm.trans hread
      have hlast : (t.step .receive).latest = change.value :=
        Option.some.inj (t.latest_eq.symm.trans (hread ▸ hm.texts))
      rw [hlast] at hr
      exact (htook rule hr).rule
    · have hbefore := h.accepted fun take hmem => hlag take (by
        rw [hm.takes]
        exact List.mem_append_left _ hmem)
      rw [hm.read, show (t.step .receive).texts = t.texts from rfl, List.take_add_one, hm.texts,
        Option.toList_some, Compiler.lastRule?_snoc]
      cases hr : compiler.rule? change.value with
      | none => rw [Option.none_or, hbefore, hkept hr]
      | some rule => rw [Option.some_or, (htook rule hr).rule]
  · refine ⟨fun hread => ?_, fun hlag => ?_⟩
    · have hlag := hl.read
      have hcap := ht.capacity
      rw [← ht.changes_eq] at hcap
      have hread : (t.step .receive).read = t.changes.length := hread
      omega
    · have := hlag _ (by
        rw [hl.takes]
        exact List.mem_append_right _ (List.mem_singleton_self _))
      cases this

theorem Starts.caught {source : Source} (h : t.Starts source key compiler) : t.Caught compiler := by
  refine ⟨fun _ rule hr => ?_, fun _ => ?_⟩
  · rw [Trace.latest, h.changes] at hr
    exact Option.some.inj (h.rule.symm.trans hr)
  · rw [texts, h.changes, h.read_eq]
    show ([t.first].reverse.findSome? compiler.rule?) = _
    rw [List.reverse_singleton, List.findSome?_singleton, h.rule]

theorem Starts.run_caught {source : Source} (h : t.Starts source key compiler)
    (events : List Live.Event) :
    (t.run events).Tied key compiler ∧ (t.run events).Caught compiler := by
  refine run_induction (P := fun t => t.Tied key compiler ∧ t.Caught compiler)
    (fun t e ⟨ht, hc⟩ => ⟨ht.step e, ?_⟩) ⟨h.tied, h.caught⟩ events
  cases e with
  | source e => exact hc.step_source ht e
  | receive => exact hc.step_receive ht

/-- **Listeners converge.** A listener that has drained its stream has the latest text in force, if
that can be put in force. If it has never missed a change, it has the last text in force that can
be. -/
theorem converges (source : Source) (hnew : source.IsNew) (files : FileTree)
    (before : List Source.Event) (application : String) (compiler : Compiler) (capacity : Nat)
    (baseline : Call) (pool : Pool) (l : Live)
    (hl : Live.attach (Feed.run { files, source } before).files
      (Feed.run { files, source } before).source application compiler capacity baseline pool =
        .ok l)
    (events : List Live.Event) (hdrained : ((begin l).run events).live.heard? = none) :
    let t := (begin l).run events
    (∀ rule, compiler.rule? t.latest = some rule → t.live.service.router.active.rule = rule) ∧
      ((∀ take ∈ t.takes, take.resync = false) →
        compiler.lastRule? t.texts = some t.live.service.router.active.rule) := by
  obtain ⟨ht, hc⟩ := (starts_of_attach hnew hl).run_caught events
  have hread := ht.heard?_eq_none_iff.1 hdrained
  refine ⟨hc.latest hread, fun hlag => ?_⟩
  have h := hc.accepted hlag
  rwa [hread, ← length_texts, List.take_length] at h

/-- A text, and another one that no rule can be read from. -/
def goodThenBad : List Live.Event :=
  [.source (.publish (ruleKey "demo") "force: true"), .receive,
    .source (.publish (ruleKey "demo") "\x7b"), .receive]

theorem converges_goodThenBad :
    ∃ l, Live.attach {} (.memory {}) "demo" Compiler.clauses 16 {} [] = .ok l ∧
      ((begin l).run goodThenBad).live.heard? = none ∧
      Compiler.clauses.rule? ((begin l).run goodThenBad).latest = none ∧
      ((begin l).run goodThenBad).live.service.router.active.rule = { force := true } := by
  refine ⟨_, rfl, by decide +kernel, by decide +kernel, ?_⟩
  have h := (converges (.memory {}) ⟨rfl, rfl⟩ {} [] "demo" Compiler.clauses 16 {} [] _ rfl
    goodThenBad (by decide +kernel)).2 (by decide +kernel)
  exact Option.some.inj (h.symm.trans (by decide +kernel))

end Trace
end CallRouting
