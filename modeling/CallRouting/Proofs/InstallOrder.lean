import CallRouting.Proofs.ListenerRun

/-!
# The order of installs

A listener that has missed changes reads its source, and then goes on with the oldest change that
the channel still has. That one may be older than what it has just read, and is put in force all the
same.

* `Trace.InOrder` : no text is put in force after the text of a later change;
* `Trace.Replays` : a text that was read after missed changes, and later an older one;
* `Trace.Numbered` : where the texts come from that a listener of a source in memory hears of;
* `Trace.Numbered.inOrder_iff` : the installs are in order exactly when there is no such replay;
* `Trace.not_replays_one` : there is none in a channel that keeps a single change;
* `Trace.Starts.not_inOrder_flood` : any other channel has a run that ends in one.
-/

namespace CallRouting.Trace

/-- No text was put in force after the text of a later change. -/
def InOrder (t : Trace) : Prop :=
  ((t.takes.filter (·.installed)).map (·.number)).Pairwise (· ≤ ·)

/-- After missed changes, a text that was read from the source was put in force, and later the text
of a change from before that, which the channel still had. -/
def Replays (t : Trace) (capacity : Nat) : Prop :=
  ∃ a b, [a, b].Sublist t.takes ∧ a.installed ∧ b.installed ∧ a.resync ∧ b.resync = false ∧
    b.number < a.number ∧ a.number < b.number + capacity

/-! ## Where texts come from -/

/-- The source is one in memory, and has the text of the latest change for the key. -/
def Mirrors (t : Trace) (key : String) : Prop :=
  ∃ m, t.live.source = .memory m ∧ (m.channels.get? key).isSome ∧ m.get? key = t.latest

/-- The numbers of the texts that the service heard of, with a channel of this capacity. -/
structure Numbered (t : Trace) (capacity : Nat) : Prop where
  number_le : ∀ take ∈ t.takes, take.number ≤ t.changes.length
  message_le : ∀ take ∈ t.takes, take.resync = false → take.number ≤ t.read
  text : ∀ take ∈ t.takes, ∃ text, take.text = .ok text ∧ t.texts[take.number]? = some text
  pairs : t.takes.Pairwise fun a b =>
    a.number ≤ b.number ∨ a.resync ∧ b.resync = false ∧ a.number < b.number + capacity

variable {t : Trace} {key : String} {compiler : Compiler} {capacity : Nat}

theorem Mirrors.text (h : t.Mirrors key) (ht : t.Tied key compiler) :
    t.live.text = .ok t.latest := by
  obtain ⟨m, hm, -, hget⟩ := h
  rw [Live.text, hm, ht.key_eq, ← hget]
  rfl

theorem Mirrors.step (h : t.Mirrors key) (ht : t.Tied key compiler) (e : Live.Event) :
    (t.step e).Mirrors key := by
  obtain ⟨m, hm, hsub, hget⟩ := h
  cases e with
  | receive => exact ⟨m, t.live.source_receive.trans hm, hsub, hget⟩
  | source e =>
    have hc : t.live.source.channel key = m.channel key := by rw [hm]; rfl
    obtain ⟨m', hm', hsub', hstep⟩ := t.live.feed.step_memory e key hm hsub
    have hc' : (t.live.feed.step e).source.channel key = m'.channel key := by rw [hm']; rfl
    refine ⟨m', hm', hsub', ?_⟩
    rcases hstep with ⟨hsame, hget'⟩ | ⟨change, hsend, hget'⟩
    · have hs := ht.changes_step_of_eq (by rw [hc', hsame, hc])
      rw [hget', hget, latest, latest, hs]
      rfl
    · have hs := ht.changes_step_of_send (by rw [hc', hsend, hc])
      rw [hget', latest_snoc hs]

theorem Numbered.step_source (h : t.Numbered capacity) (ht : t.Tied key compiler)
    (e : Source.Event) : (t.step (.source e)).Numbered capacity := by
  have htexts : ∃ new, (t.step (.source e)).changes = t.changes ++ new := by
    rcases ht.source_cases e with ⟨hs, -⟩ | ⟨change, -, hs, -⟩
    · exact ⟨[], by rw [hs, List.append_nil]⟩
    · exact ⟨[change], hs⟩
  obtain ⟨new, hs⟩ := htexts
  refine ⟨fun take hmem => ?_, h.message_le, fun take hmem => ?_, h.pairs⟩
  · rw [hs, List.length_append]
    exact Nat.le_add_right_of_le (h.number_le take hmem)
  · obtain ⟨text, htext, hat⟩ := h.text take hmem
    refine ⟨text, htext, ?_⟩
    rw [texts, hs, List.map_append, ← List.cons_append]
    exact List.getElem?_append_left (List.getElem?_eq_some_iff.1 hat).1 |>.trans hat

/-- One more text, of a change that there has been. -/
theorem Numbered.snoc {t' : Trace} {take : Take} (h : t.Numbered capacity)
    (hfirst : t'.first = t.first) (hs : t'.changes = t.changes) (hread : t.read ≤ t'.read)
    (htakes : t'.takes = t.takes ++ [take]) (hmessage : take.resync = false → take.number ≤ t'.read)
    (htext : ∃ text, take.text = .ok text ∧ t.texts[take.number]? = some text)
    (hpairs : ∀ a ∈ t.takes,
      a.number ≤ take.number ∨ a.resync ∧ take.resync = false ∧ a.number < take.number + capacity) :
    t'.Numbered capacity where
  number_le a ha := by
    rw [hs]
    rw [htakes] at ha
    rcases List.mem_append.1 ha with ha | ha
    · exact h.number_le a ha
    · obtain ⟨text, -, hat⟩ := htext
      have hlt := (List.getElem?_eq_some_iff.1 hat).1
      rw [length_texts] at hlt
      rw [List.mem_singleton.1 ha]
      omega
  message_le a ha hres := by
    rw [htakes] at ha
    rcases List.mem_append.1 ha with ha | ha
    · exact Nat.le_trans (h.message_le a ha hres) hread
    · obtain rfl := List.mem_singleton.1 ha
      exact hmessage hres
  text a ha := by
    rw [texts, hfirst, hs]
    rw [htakes] at ha
    rcases List.mem_append.1 ha with ha | ha
    · exact h.text a ha
    · obtain rfl := List.mem_singleton.1 ha
      exact htext
  pairs := by
    rw [htakes, List.pairwise_append]
    refine ⟨h.pairs, List.pairwise_singleton _ _, fun a ha b hb => ?_⟩
    obtain rfl := List.mem_singleton.1 hb
    exact hpairs a ha

theorem Numbered.step_message {change : Change} (h : t.Numbered capacity)
    (hcap : t.live.changes.capacity = capacity) (hm : t.TakesMessage change) :
    (t.step .receive).Numbered capacity := by
  refine h.snoc rfl rfl (by rw [hm.read]; omega) hm.takes
    (fun _ => Nat.le_of_eq hm.read.symm) ⟨change.value, rfl, hm.texts⟩ fun a ha => ?_
  have hle := h.number_le a ha
  have hkept := hm.kept
  cases hres : a.resync with
  | false => exact Or.inl (Nat.le_succ_of_le (h.message_le a ha hres))
  | true =>
    refine Or.inr ⟨rfl, rfl, ?_⟩
    show a.number < t.read + 1 + capacity
    omega

theorem Numbered.step_lag (h : t.Numbered capacity) (ht : t.Tied key compiler)
    (hmirror : t.Mirrors key) (hl : t.TakesLag) : (t.step .receive).Numbered capacity := by
  have hread := hl.read
  have hbehind := hl.behind
  refine h.snoc rfl rfl (by omega) hl.takes nofun ⟨t.latest, hmirror.text ht, t.latest_eq⟩ ?_
  exact fun a ha => Or.inl (h.number_le a ha)

/-- What is known of a listener of a source in memory after each step. -/
structure Follows (t : Trace) (key : String) (compiler : Compiler) (capacity : Nat) : Prop where
  tied : t.Tied key compiler
  mirrors : t.Mirrors key
  numbered : t.Numbered capacity
  capacity_eq : t.live.changes.capacity = capacity

theorem Follows.step (h : t.Follows key compiler capacity) (e : Live.Event) :
    (t.step e).Follows key compiler capacity := by
  refine ⟨h.tied.step e, h.mirrors.step h.tied e, ?_, ?_⟩
  · cases e with
    | source e => exact h.numbered.step_source h.tied e
    | receive =>
      rcases h.tied.receive_cases with ⟨-, hsame⟩ | ⟨change, hm⟩ | hl
      · rw [hsame]
        exact h.numbered
      · exact h.numbered.step_message h.capacity_eq hm
      · exact h.numbered.step_lag h.tied h.mirrors hl
  · have hcap := h.capacity_eq
    rw [h.tied.changes_eq] at hcap
    rw [(h.tied.step e).changes_eq]
    cases e with
    | source e => exact (t.live.feed.capacity_step_channel e key).trans hcap
    | receive =>
      rw [Tied.source_step_receive]
      exact hcap

theorem Starts.follows {source : Source} (h : t.Starts source key compiler)
    (hm : source.isMemory) : t.Follows key compiler source.capacity.nextPowerOfTwo := by
  obtain ⟨m, hlive⟩ := (Source.isMemory_iff _).1 (h.isMemory.trans hm)
  have hsub := h.subscribed
  have htext := h.text
  rw [hlive] at hsub
  rw [Live.text, hlive, h.tied.key_eq] at htext
  have hno : ∀ take, take ∉ t.takes := fun take => by
    rw [h.takes]
    exact List.not_mem_nil
  refine ⟨h.tied, ⟨m, hlive, hsub, ?_⟩, ?_, h.capacity⟩
  · rw [latest, h.changes]
    exact Except.ok.inj htext
  · refine ⟨fun a ha => absurd ha (hno a), fun a ha => absurd ha (hno a),
      fun a ha => absurd ha (hno a), ?_⟩
    rw [h.takes]
    exact List.Pairwise.nil

theorem Follows.run (h : t.Follows key compiler capacity) (events : List Live.Event) :
    (t.run events).Follows key compiler capacity :=
  run_induction (P := fun t => t.Follows key compiler capacity) (fun _ e h => h.step e) h events

/-! ## Order -/

theorem Numbered.inOrder_iff (h : t.Numbered capacity) : t.InOrder ↔ ¬ t.Replays capacity := by
  rw [InOrder, List.pairwise_map, List.pairwise_filter]
  constructor
  · rintro hord ⟨a, b, hsub, ha, hb, -, -, hlt, -⟩
    have hle := List.pairwise_iff_forall_sublist.1 hord hsub ha hb
    omega
  · intro hno
    refine List.pairwise_iff_forall_sublist.2 fun {a b} hsub ha hb => ?_
    rcases List.pairwise_iff_forall_sublist.1 h.pairs hsub with hle | ⟨hres, hmsg, hlt⟩
    · exact hle
    · exact Nat.le_of_not_lt fun hgt => hno ⟨a, b, hsub, ha, hb, hres, hmsg, hgt, hlt⟩

/-- A channel that keeps a single change has nothing older than what the source has. -/
theorem not_replays_one (t : Trace) : ¬ t.Replays 1 := by
  rintro ⟨a, b, -, -, -, -, -, hlt, hwindow⟩
  omega

/-! ## Runs out of order -/

/-- A blank text puts a rule in force, whatever compiles its clauses: it has none. -/
theorem rule?_blank (compiler : Compiler) : compiler.rule? (some "") = some .absent := rfl

theorem rule?_force (compiler : Compiler) :
    compiler.rule? (some "force: true") = some { force := true } := by
  have hp : (Rule.parse (some "force: true")).toOption = some { force := true } := by
    decide +kernel
  rw [Compiler.rule?, hp]
  rfl

theorem Follows.texts_publish (h : t.Follows key compiler capacity) (text : String) :
    (t.step (.source (.publish key text))).texts = t.texts ++ [some text] := by
  obtain ⟨m, hm, hsub, -⟩ := h.mirrors
  have hsend : (t.live.feed.step (.publish key text)).source.channel key =
      (t.live.source.channel key).send
        { key, value := some text, kind := .between (m.get? key) (some text) } := by
    simp only [Feed.step, Live.feed, hm, Source.channel]
    rw [m.channel_publish, if_pos ⟨rfl, hsub⟩]
  exact texts_snoc (h.tied.changes_step_of_send hsend) rfl

/-- The same text, published so many times. -/
def published (key text : String) (n : Nat) : List Live.Event :=
  (List.replicate n (Source.Event.publish key text)).map .source

theorem Follows.texts_run_published (h : t.Follows key compiler capacity) (text : String)
    (n : Nat) :
    (t.run (published key text n)).texts = t.texts ++ List.replicate n (some text) := by
  induction n generalizing t with
  | zero => exact (List.append_nil _).symm
  | succ n ih =>
    have hrun : t.run (published key text (n + 1)) =
        (t.step (.source (.publish key text))).run (published key text n) := rfl
    rw [hrun, ih (h.step _), h.texts_publish, List.append_assoc, List.replicate_succ]
    rfl

/-- Nothing that happens to the source makes the listener read anything. -/
theorem read_run_source (t : Trace) (events : List Source.Event) :
    (t.run (events.map .source)).read = t.read := by
  induction events generalizing t with
  | nil => rfl
  | cons e es ih => exact ih (t.step (.source e))

/-- A listener that has missed one change and lags behind by the others. -/
theorem Follows.takes_receive_lag (h : t.Follows key compiler capacity)
    (hlen : t.changes.length = t.read + capacity + 1) {rule : Rule}
    (hrule : compiler.rule? t.latest = some rule) :
    (t.step .receive).takes = t.takes ++ [⟨t.changes.length, .ok t.latest, true, true⟩] ∧
      (t.step .receive).read = t.read + 1 := by
  have hcap := h.capacity_eq
  rcases h.tied.receive_cases with ⟨hread, -⟩ | ⟨change, hm⟩ | hl
  · omega
  · have hkept := hm.kept
    omega
  · have hread := hl.read
    have htext := h.mirrors.text h.tied
    have hinstalled := (hl.heard _ htext).version_ne_iff
    rw [h.tied.compiler_eq, hrule] at hinstalled
    refine ⟨?_, by omega⟩
    rw [hl.takes, htext, decide_eq_true (hinstalled.2 rfl)]

theorem Follows.takes_receive_message (h : t.Follows key compiler capacity)
    (hlt : t.read < t.changes.length) (hlen : t.changes.length ≤ t.read + capacity)
    {text : Option String} (hat : t.texts[t.read + 1]? = some text) {rule : Rule}
    (hrule : compiler.rule? text = some rule) :
    (t.step .receive).takes = t.takes ++ [⟨t.read + 1, .ok text, false, true⟩] := by
  have hcap := h.capacity_eq
  rcases h.tied.receive_cases with ⟨hread, -⟩ | ⟨change, hm⟩ | hl
  · omega
  · obtain rfl := Option.some.inj (hm.texts.symm.trans hat)
    rw [hm.takes, h.tied.compiler_eq, hrule]
    rfl
  · have hbehind := hl.behind
    omega

/-- The listener reads the last text from the source, and then the second one from the channel. -/
theorem Follows.not_inOrder (h : t.Follows key compiler capacity) (hcap : 2 ≤ capacity)
    (hread : t.read = 0) (hlength : t.changes.length = capacity + 1) {last second : Rule}
    (hlast : compiler.rule? t.latest = some last) {text : Option String}
    (hat : t.texts[2]? = some text) (hsecond : compiler.rule? text = some second) :
    ¬ ((t.step .receive).step .receive).InOrder := by
  obtain ⟨htakes1, hread1⟩ := h.takes_receive_lag (by omega) hlast
  have hat1 : (t.step .receive).texts[(t.step .receive).read + 1]? = some text := by
    rw [hread1, hread]
    exact hat
  have hlength1 : (t.step .receive).changes.length = capacity + 1 := hlength
  have htakes2 := (h.step .receive).takes_receive_message (by omega) (by omega) hat1 hsecond
  rw [InOrder, htakes2, htakes1, hread1, hread, hlength, List.append_assoc, List.filter_append,
    List.map_append, List.pairwise_append]
  rintro ⟨-, hord, -⟩
  have hle : capacity + 1 ≤ 2 := by simpa using hord
  omega

/-- As many blank texts as the channel keeps, and one text more. -/
def crowd (key : String) (capacity : Nat) : List Live.Event :=
  published key "" capacity ++ published key "force: true" 1

theorem Starts.texts_crowd {source : Source} (h : t.Starts source key compiler)
    (hm : source.isMemory) (n : Nat) :
    (t.run (crowd key n)).texts =
      t.first :: (List.replicate n (some "") ++ [some "force: true"]) := by
  have hfollows := h.follows hm
  rw [crowd, run, List.foldl_append]
  show ((t.run (published key "" n)).run (published key "force: true" 1)).texts = _
  rw [(hfollows.run _).texts_run_published, hfollows.texts_run_published, texts, h.changes]
  rfl

/-- The crowd, and the first two steps of the listener after that. -/
def flood (key : String) (capacity : Nat) : List Live.Event :=
  crowd key capacity ++ [.receive, .receive]

theorem Starts.not_inOrder_flood {source : Source} (h : t.Starts source key compiler)
    (hm : source.isMemory) (hcap : 2 ≤ source.capacity.nextPowerOfTwo) :
    ¬ (t.run (flood key source.capacity.nextPowerOfTwo)).InOrder := by
  have hfollows := (h.follows hm).run (crowd key source.capacity.nextPowerOfTwo)
  generalize source.capacity.nextPowerOfTwo = n at *
  have htexts := h.texts_crowd hm n
  have hread : (t.run (crowd key n)).read = 0 := by
    rw [crowd, published, published, ← List.map_append, t.read_run_source, h.read_eq]
  have hlength : (t.run (crowd key n)).changes.length = n + 1 := by
    have hl := length_texts (t.run (crowd key n))
    rw [htexts, List.length_cons, List.length_append, List.length_replicate] at hl
    exact Nat.succ.inj hl.symm
  have hlatest : (t.run (crowd key n)).latest = some "force: true" := by
    have hl := latest_eq (t.run (crowd key n))
    rw [htexts, hlength, List.getElem?_cons_succ,
      List.getElem?_append_right (Nat.le_of_eq List.length_replicate), List.length_replicate,
      Nat.sub_self] at hl
    exact (Option.some.inj hl).symm
  have hat : (t.run (crowd key n)).texts[2]? = some (some "") := by
    rw [htexts, List.getElem?_cons_succ,
      List.getElem?_append_left (Nat.lt_of_lt_of_eq hcap List.length_replicate.symm),
      List.getElem?_replicate, if_pos (Nat.lt_of_succ_le hcap)]
  rw [flood, run, List.foldl_append]
  exact hfollows.not_inOrder hcap hread hlength (hlatest ▸ rule?_force compiler) hat
    (rule?_blank compiler)

/-- **When a listener installs in order.** A run of a listener of a source in memory installs texts
out of the order of their changes exactly when it replays a change that is older than what it has
read after missed changes. All its runs are in order exactly when the channel keeps one change. -/
theorem installs_in_order_iff (memory : Memory) (hnew : (Source.memory memory).IsNew)
    (before : List Source.Event) (application : String) (compiler : Compiler) (capacity : Nat)
    (baseline : Call) (pool : Pool) (l : Live)
    (hl : Live.attach (Feed.run { source := .memory memory } before).files
      (Feed.run { source := .memory memory } before).source application compiler capacity baseline
        pool = .ok l) :
    (∀ events,
      let t := (begin l).run events
      (∀ take ∈ t.takes, ∃ text, take.text = .ok text ∧ t.texts[take.number]? = some text) ∧
        (t.InOrder ↔ ¬ t.Replays memory.capacity.nextPowerOfTwo)) ∧
      ((∀ events, ((begin l).run events).InOrder) ↔ memory.capacity.nextPowerOfTwo = 1) := by
  have hstart := starts_of_attach hnew hl
  have hfollows := fun events => (hstart.follows rfl).run events
  refine ⟨fun events => ⟨(hfollows events).numbered.text, (hfollows events).numbered.inOrder_iff⟩,
    fun hall => ?_, fun hone events => ?_⟩
  · have hpos := Channel.capacity_ofCapacity_pos (α := Change) memory.capacity
    have hsmall : ¬ 2 ≤ memory.capacity.nextPowerOfTwo := fun hcap =>
      hstart.not_inOrder_flood rfl hcap (hall _)
    simp only [Channel.ofCapacity] at hpos
    omega
  · refine (hfollows events).numbered.inOrder_iff.2 ?_
    show ¬ Replays _ memory.capacity.nextPowerOfTwo
    rw [hone]
    exact not_replays_one _

theorem inOrder_single :
    ∃ l, Live.attach {} (.memory { capacity := 1 }) "demo" Compiler.clauses 16 {} [] = .ok l ∧
      ∀ events, ((begin l).run events).InOrder := by
  refine ⟨_, rfl, ?_⟩
  exact (installs_in_order_iff { capacity := 1 } ⟨rfl, rfl⟩ [] "demo" Compiler.clauses 16 {} [] _
    rfl).2.2 (by decide +kernel)

instance (t : Trace) : Decidable t.InOrder := inferInstanceAs (Decidable (List.Pairwise _ _))

/-- Three texts, and two steps of the listener. -/
def threeTexts : List Live.Event :=
  ["force: true", "runtime: true", "force: true\nruntime: true"].map
      (fun text => .source (.publish (ruleKey "demo") text)) ++ [.receive, .receive]

/-- A channel that keeps two changes is not enough for every run to be in order. -/
theorem not_inOrder_threeTexts :
    ¬ ∀ (memory : Memory), (Source.memory memory).IsNew → ∀ (application : String)
      (compiler : Compiler) (capacity : Nat) (baseline : Call) (pool : Pool) (l : Live),
      Live.attach {} (.memory memory) application compiler capacity baseline pool = .ok l →
        ∀ events, ((begin l).run events).InOrder := by
  intro h
  have h1 := h { capacity := 2 } ⟨rfl, rfl⟩ "demo" Compiler.clauses 16 {} [] _ rfl threeTexts
  revert h1
  decide +kernel

end CallRouting.Trace
