import CallRouting.Live
import CallRouting.Proofs.Install
import CallRouting.Proofs.SourceRun

/-!
# Listeners at work

A listener takes one notice after the other from the channel of its key, while things happen to the
source. A `Trace` is a live service with the history of that.

* `Live.receive` : the listener takes one notice;
* `Live.Event`, `Live.run` : what happens to the source, and steps of the listener, in any order;
* `Live.listen_eq_run` : the turn of the listener is to take notices until there are none;
* `Trace` : the changes of the key since the start, and the texts that the service heard of, each
  with the number of the change that it came from;
* `Trace.Tied` : how the history and the state of a listener belong together, kept by every step.
-/

namespace CallRouting

open Channel (Carries)

/-! ## One notice -/

namespace Service

variable (s : Service)

theorem heard_message (read : Except SourceError (Option String)) {change : Change}
    (h : change.key = s.router.key) : s.Heard (s.hear read (.message change)) change.value := by
  rw [hear, process, if_pos h]
  exact s.heard_apply change.value

theorem heard_lagged (text : Option String) (missed : Nat) :
    s.Heard (s.hear (.ok text) (.lagged missed)) text := s.heard_apply text

/-- A source that cannot be read leaves the rule in force. -/
theorem router_hear_lagged_error (e : SourceError) (missed : Nat) :
    (s.hear (.error e) (.lagged missed)).router = s.router := rfl

theorem hear_cases (read : Except SourceError (Option String)) (n : Notice Change) :
    (∃ text, s.Heard (s.hear read n) text) ∨ (s.hear read n).router = s.router := by
  cases n with
  | message change =>
    by_cases h : change.key = s.router.key
    · exact Or.inl ⟨_, s.heard_message read h⟩
    · rw [hear, process, if_neg h]
      exact Or.inr rfl
  | lagged missed =>
    cases read with
    | error e => exact Or.inr (s.router_hear_lagged_error e missed)
    | ok text => exact Or.inl ⟨text, s.heard_lagged text missed⟩

theorem key_hear (read : Except SourceError (Option String)) (n : Notice Change) :
    (s.hear read n).router.key = s.router.key := by
  rcases s.hear_cases read n with ⟨text, h⟩ | h
  · exact h.key
  · rw [h]

theorem compiler_hear (read : Except SourceError (Option String)) (n : Notice Change) :
    (s.hear read n).router.compiler = s.router.compiler := by
  rcases s.hear_cases read n with ⟨text, h⟩ | h
  · exact h.compiler
  · rw [h]

end Service

namespace Live

/-- The next notice for the listener. -/
def heard? (l : Live) : Option (Notice Change × Receiver) :=
  if l.listener.done then none else l.changes.receive? l.listener.receiver

theorem heard?_eq_some_iff {l : Live} {p : Notice Change × Receiver} :
    l.heard? = some p ↔
      l.listener.done = false ∧ l.changes.receive? l.listener.receiver = some p := by
  unfold heard?
  cases l.listener.done <;> simp

/-- The listener takes its next notice. If there is none and the channel is closed, it ends. -/
def receive (l : Live) : Live :=
  match l.heard? with
  | some (n, receiver) =>
    { l with
      listener := { l.listener with receiver }
      service := l.service.hear (l.source.read l.files l.key) n }
  | none => { l with listener := { l.listener with done := l.listener.done || l.changes.closed } }

theorem receive_of_none {l : Live} (h : l.heard? = none) :
    l.receive =
      { l with listener := { l.listener with done := l.listener.done || l.changes.closed } } := by
  simp only [receive, h]

theorem receive_of_some {l : Live} {n : Notice Change} {r : Receiver} (h : l.heard? = some (n, r)) :
    l.receive =
      { l with
        listener := { l.listener with receiver := r }
        service := l.service.hear (l.source.read l.files l.key) n } := by
  simp only [receive, h]

@[simp] theorem key_receive (l : Live) : l.receive.key = l.key := by
  unfold receive
  split
  · exact l.service.key_hear _ _
  · rfl

@[simp] theorem compiler_receive (l : Live) :
    l.receive.service.router.compiler = l.service.router.compiler := by
  unfold receive
  split
  · exact l.service.compiler_hear _ _
  · rfl

@[simp] theorem source_receive (l : Live) : l.receive.source = l.source := by
  unfold receive
  split <;> rfl

@[simp] theorem stream_receive (l : Live) : l.receive.stream = l.stream := by
  unfold receive
  split <;> rfl

theorem done_receive {l : Live} (h : l.changes.closed = false) :
    l.receive.listener.done = l.listener.done := by
  unfold receive
  split
  · rfl
  · simp only [h, Bool.or_false]

theorem next_le_next_receive (l : Live) :
    l.listener.receiver.next ≤ l.receive.listener.receiver.next := by
  cases h : l.heard? with
  | none =>
    refine Nat.le_of_eq ?_
    rw [receive, h]
  | some p =>
    obtain ⟨n, r⟩ := p
    rw [receive, h]
    exact Nat.le_of_lt (Channel.lt_of_receive? (heard?_eq_some_iff.1 h).2).1

@[simp] theorem changes_receive (l : Live) : l.receive.changes = l.changes := by
  rw [changes, stream_receive, source_receive, key_receive]
  rfl

theorem listen_of_none {l : Live} (h : l.heard? = none) : l.listen = l.receive := by
  rw [receive_of_none h]
  unfold listen Reader.take
  unfold heard? at h
  cases hd : l.listener.done with
  | true =>
    simp only [if_true, List.foldl_nil, Bool.true_or]
    rw [← hd]
  | false =>
    rw [hd] at h
    simp only [Bool.false_eq_true, if_false, Bool.false_or] at h ⊢
    rw [Channel.drain_nil _ _ h]
    rfl

theorem heard?_receive_of_none {l : Live} (h : l.heard? = none) : l.receive.heard? = none := by
  have hc := l.changes_receive
  rw [heard?, hc, receive_of_none h]
  unfold heard? at h
  split at h
  · next hd => simp only [hd, Bool.true_or, if_true]
  · simp only [h, ite_self]

theorem listen_receive {l : Live} {n : Notice Change} {r : Receiver}
    (h : l.heard? = some (n, r)) : l.receive.listen = l.listen := by
  have hk := l.key_receive
  have hc := l.changes_receive
  have hr := receive_of_some h
  obtain ⟨hd, h⟩ := heard?_eq_some_iff.1 h
  rw [listen, hk, hc, hr]
  simp only [listen, Reader.take, hd, Bool.false_eq_true, if_false, Channel.drain_cons _ _ _ _ h,
    List.foldl_cons]

/-! ## Runs -/

/-- What can happen to a listener and its source. -/
inductive Event where
  | source (e : Source.Event)
  | receive

/-- The source, with nothing said about who has subscribed. -/
def feed (l : Live) : Feed := { files := l.files, source := l.source }

def step (l : Live) : Event → Live
  | .source e => { l with files := (l.feed.step e).files, source := (l.feed.step e).source }
  | .receive => l.receive

def run (l : Live) (events : List Event) : Live := events.foldl step l

/-- The turn of the listener is to take one notice after the other until there is none. -/
theorem listen_eq_run (l : Live) :
    ∃ n, l.listen = l.run (List.replicate n .receive) ∧ l.listen.heard? = none := by
  induction hm : l.changes.sent - l.listener.receiver.next using Nat.strongRecOn generalizing l with
  | ind m ih =>
    cases h : l.heard? with
    | none =>
      have hl := listen_of_none h
      refine ⟨1, hl, ?_⟩
      rw [hl]
      exact heard?_receive_of_none h
    | some p =>
      obtain ⟨notice, r⟩ := p
      have hr := receive_of_some h
      have hlt := Channel.lt_of_receive? (heard?_eq_some_iff.1 h).2
      obtain ⟨n, hn, hnone⟩ := ih (l.changes.sent - r.next) (by omega) l.receive (by
        rw [changes_receive, hr])
      rw [listen_receive h] at hn hnone
      exact ⟨n + 1, hn, hnone⟩

/-- What the source has for the key now. -/
def text (l : Live) : Except SourceError (Option String) := l.source.read l.files l.key

theorem attach_of_subscribe {files : FileTree} {source source' : Source} {application : String}
    {compiler : Compiler} {capacity : Nat} {baseline : Call} {pool : Pool} {sub : Subscription}
    (h : source.subscribe files (ruleKey application) = .ok (sub, source')) :
    attach files source application compiler capacity baseline pool =
      match Router.build compiler sub.key sub.initial with
      | .ok router =>
        .ok (start files source' (.ofRouter router capacity baseline pool) sub.receiver)
      | .error e => .error e := by
  rw [attach, h]
  show (Router.build compiler sub.key sub.initial).bind _ = _
  cases Router.build compiler sub.key sub.initial <;> rfl

/-- How a listener starts: one more subscriber of the source, and a router with the text it got. -/
theorem attach_eq_ok {files : FileTree} {source : Source} {application : String}
    {compiler : Compiler} {capacity : Nat} {baseline : Call} {pool : Pool} {l : Live}
    (h : attach files source application compiler capacity baseline pool = .ok l) :
    ∃ sub, Source.Joined source l.source files (ruleKey application) sub ∧ l.files = files ∧
      l.stream = none ∧ l.listener = { receiver := sub.receiver } ∧
      Router.build compiler (ruleKey application) sub.initial = .ok l.service.router := by
  cases hs : source.subscribe files (ruleKey application) with
  | error e =>
    rw [attach, hs] at h
    cases h
  | ok p =>
    obtain ⟨sub, source'⟩ := p
    have hj := Source.joined_of_subscribe hs
    rw [attach_of_subscribe hs, hj.key_eq] at h
    cases hb : Router.build compiler (ruleKey application) sub.initial with
    | error e =>
      rw [hb] at h
      cases h
    | ok router =>
      rw [hb, Except.ok.injEq] at h
      subst h
      exact ⟨sub, hj, rfl, rfl, rfl, hb⟩

end Live

/-! ## Histories -/

/-- A text that the service heard of. -/
structure Take where
  /-- The number of the change of the key that it came from. -/
  number : Nat
  text : Except SourceError (Option String)
  /-- Whether the source was read for it, after missed changes. -/
  resync : Bool
  /-- Whether the service put it in force. -/
  installed : Bool

/-- A live service with its history. The text at the start has the number 0, and the first change of
the key after it the number 1. -/
structure Trace where
  live : Live
  /-- How many changes there had been at the start. -/
  base : Nat
  first : Option String
  changes : List Change := []
  takes : List Take := []

namespace Trace

def begin (l : Live) : Trace where
  live := l
  base := l.listener.receiver.next
  first := l.text.toOption.join

/-- How many of the changes the listener has taken or missed. -/
def read (t : Trace) : Nat := t.live.listener.receiver.next - t.base

/-- The texts by their numbers. -/
def texts (t : Trace) : List (Option String) := t.first :: t.changes.map (·.value)

/-- The text of the latest change. -/
def latest (t : Trace) : Option String := (t.changes.getLast?.map (·.value)).getD t.first

theorem length_texts (t : Trace) : t.texts.length = t.changes.length + 1 := by
  rw [texts, List.length_cons, List.length_map]

theorem latest_eq (t : Trace) : t.texts[t.changes.length]? = some t.latest := by
  rw [texts, latest, List.getLast?_eq_getElem?]
  cases h : t.changes.length with
  | zero =>
    rw [List.length_eq_zero_iff.1 h]
    rfl
  | succ n =>
    have hlt : n < t.changes.length := by omega
    rw [List.getElem?_cons_succ, List.getElem?_map, Nat.add_sub_cancel,
      List.getElem?_eq_getElem hlt]
    rfl

theorem texts_snoc {t t' : Trace} {change : Change} (hs : t'.changes = t.changes ++ [change])
    (hf : t'.first = t.first) : t'.texts = t.texts ++ [change.value] := by
  rw [texts, texts, hf, hs, List.map_append]
  rfl

theorem latest_snoc {t t' : Trace} {change : Change} (hs : t'.changes = t.changes ++ [change]) :
    t'.latest = change.value := by
  rw [latest, hs, List.getLast?_append, List.getLast?_singleton, Option.some_or]
  rfl

def step (t : Trace) : Live.Event → Trace
  | .source e =>
    let live := t.live.step (.source e)
    { t with live, changes := t.changes ++ live.changes.since t.live.changes.sent }
  | .receive =>
    let live := t.live.receive
    let installed := live.service.router.active.version ≠ t.live.service.router.active.version
    let taken := match t.live.heard? with
      | some (.message change, r) => [⟨r.next - t.base, .ok change.value, false, installed⟩]
      | some (.lagged _, _) => [⟨t.changes.length, t.live.text, true, installed⟩]
      | none => []
    { t with live, takes := t.takes ++ taken }

def run (t : Trace) (events : List Live.Event) : Trace := events.foldl step t

theorem live_step (t : Trace) (e : Live.Event) : (t.step e).live = t.live.step e := by
  cases e <;> rfl

/-- A trace follows the live service. -/
theorem live_run (t : Trace) (events : List Live.Event) :
    (t.run events).live = t.live.run events := by
  induction events generalizing t with
  | nil => rfl
  | cons e es ih =>
    rw [run, List.foldl_cons, Live.run, List.foldl_cons, ← live_step]
    exact ih (t.step e)

/-- What every step keeps, every run keeps. -/
theorem run_induction {P : Trace → Prop} (hstep : ∀ t e, P t → P (t.step e)) {t : Trace}
    (ht : P t) (events : List Live.Event) : P (t.run events) := by
  induction events generalizing t with
  | nil => exact ht
  | cons e es ih => exact ih (hstep t e ht)

/-- The listener is about to take a change. -/
structure TakesMessage (t : Trace) (change : Change) : Prop where
  at_read : t.changes[t.read]? = some change
  kept : t.changes.length ≤ t.read + t.live.changes.capacity
  read : (t.step .receive).read = t.read + 1
  heard : t.live.service.Heard (t.step .receive).live.service change.value
  takes : (t.step .receive).takes = t.takes ++
    [⟨t.read + 1, .ok change.value, false,
      (t.live.service.router.compiler.rule? change.value).isSome⟩]

/-- The listener is about to learn that it has missed changes, and to read the source instead. -/
structure TakesLag (t : Trace) : Prop where
  behind : t.read + t.live.changes.capacity < t.changes.length
  read : (t.step .receive).read + t.live.changes.capacity = t.changes.length
  heard : ∀ text, t.live.text = .ok text →
    t.live.service.Heard (t.step .receive).live.service text
  takes : (t.step .receive).takes = t.takes ++
    [⟨t.changes.length, t.live.text, true, (t.step .receive).live.service.router.active.version ≠
      t.live.service.router.active.version⟩]

theorem TakesMessage.texts {t : Trace} {change : Change} (h : t.TakesMessage change) :
    t.texts[t.read + 1]? = some change.value := by
  rw [Trace.texts, List.getElem?_cons_succ, List.getElem?_map, h.at_read]
  rfl

/-- The history and the state of a listener with this key and compiler belong together. -/
structure Tied (t : Trace) (key : String) (compiler : Compiler) : Prop where
  stream : t.live.stream = none
  done : t.live.listener.done = false
  key_eq : t.live.key = key
  compiler_eq : t.live.service.router.compiler = compiler
  closed : (t.live.source.channel key).closed = false
  capacity : 0 < (t.live.source.channel key).capacity
  carries : (t.live.source.channel key).Carries t.base t.changes
  keys : ∀ change ∈ t.changes, change.key = key
  base_le : t.base ≤ t.live.listener.receiver.next
  read_le : t.read ≤ t.changes.length

namespace Tied

variable {t : Trace} {key : String} {compiler : Compiler} (h : t.Tied key compiler)

include h

theorem changes_eq : t.live.changes = t.live.source.channel key := by
  rw [Live.changes, h.stream, h.key_eq]
  rfl

theorem next_eq : t.live.listener.receiver.next = t.base + t.read := by
  have := h.base_le
  unfold read
  omega

theorem heard?_eq :
    t.live.heard? = (t.live.source.channel key).receive? t.live.listener.receiver := by
  rw [Live.heard?, h.done, h.changes_eq]
  rfl

/-- The listener has drained its stream when it has read all changes. -/
theorem heard?_eq_none_iff : t.live.heard? = none ↔ t.read = t.changes.length := by
  have hsent := h.carries.sent
  have hnext := h.next_eq
  have hread := h.read_le
  rw [h.heard?_eq, Channel.receive?_eq_none_iff _ _ (by omega)]
  omega

theorem changes_step (e : Source.Event) :
    (t.step (.source e)).changes = t.changes ++
      ((t.live.feed.step e).source.channel key).since (t.live.source.channel key).sent := by
  have hk : (t.live.step (.source e)).key = key := h.key_eq
  have hs : (t.live.step (.source e)).stream = none := h.stream
  have hchanges : (t.live.step (.source e)).changes = (t.live.feed.step e).source.channel key := by
    rw [Live.changes, hk, hs]
    rfl
  simp only [Trace.step, hchanges, h.changes_eq]

theorem changes_step_of_eq {e : Source.Event}
    (hc : (t.live.feed.step e).source.channel key = t.live.source.channel key) :
    (t.step (.source e)).changes = t.changes := by
  rw [h.changes_step, hc, Channel.since_sent, List.append_nil]

theorem changes_step_of_send {e : Source.Event} {change : Change}
    (hc : (t.live.feed.step e).source.channel key = (t.live.source.channel key).send change) :
    (t.step (.source e)).changes = t.changes ++ [change] := by
  rw [h.changes_step, hc, Channel.since_send _ _ h.capacity]

/-- What happens to the source is no change of the key, or one. -/
theorem source_cases (e : Source.Event) :
    ((t.step (.source e)).changes = t.changes ∧
      (t.step (.source e)).live.source.channel key = t.live.source.channel key) ∨
    ∃ change, change.key = key ∧ (t.step (.source e)).changes = t.changes ++ [change] ∧
      (t.step (.source e)).live.source.channel key = (t.live.source.channel key).send change := by
  rcases t.live.feed.step_channel e key with hc | ⟨change, hk, hc⟩
  · exact Or.inl ⟨h.changes_step_of_eq hc, hc⟩
  · exact Or.inr ⟨change, hk, h.changes_step_of_send hc, hc⟩

theorem step_source (e : Source.Event) : (t.step (.source e)).Tied key compiler where
  stream := h.stream
  done := h.done
  key_eq := h.key_eq
  compiler_eq := h.compiler_eq
  closed := (t.live.feed.closed_step_channel e key).trans h.closed
  capacity := Nat.lt_of_lt_of_eq h.capacity (t.live.feed.capacity_step_channel e key).symm
  carries := by
    rcases h.source_cases e with ⟨hs, hc⟩ | ⟨change, -, hs, hc⟩ <;> rw [hs, hc]
    · exact h.carries
    · exact h.carries.send h.capacity change
  keys := by
    rcases h.source_cases e with ⟨hs, -⟩ | ⟨change, hk, hs, -⟩ <;> rw [hs]
    · exact h.keys
    · intro c hmem
      rcases List.mem_append.1 hmem with hmem | hmem
      · exact h.keys c hmem
      · rw [List.mem_singleton.1 hmem, hk]
  base_le := h.base_le
  read_le := by
    have hle : t.read ≤ t.changes.length := h.read_le
    rcases h.source_cases e with ⟨hs, -⟩ | ⟨change, -, hs, -⟩ <;> rw [hs]
    · exact hle
    · rw [List.length_append]
      exact Nat.le_add_right_of_le hle

theorem takesMessage {change : Change} {r : Receiver}
    (hh : t.live.heard? = some (.message change, r))
    (hat : t.changes[t.read]? = some change) (hr : r.next = t.live.listener.receiver.next + 1)
    (hold : (t.live.source.channel key).oldest ≤ t.live.listener.receiver.next) :
    t.TakesMessage change := by
  have hlive := Live.receive_of_some hh
  have hkey := h.keys change (List.mem_of_getElem? hat)
  have hheard : t.live.service.Heard (t.live.receive).service change.value := by
    rw [hlive]
    exact t.live.service.heard_message t.live.text (hkey.trans h.key_eq.symm)
  have hread : (t.step .receive).read = t.read + 1 := by
    have hb := h.base_le
    simp only [read, step, hlive]
    omega
  refine ⟨hat, ?_, hread, hheard, ?_⟩
  · have hsent := h.carries.sent
    have hnext := h.next_eq
    rw [Channel.oldest_eq] at hold
    rw [h.changes_eq]
    omega
  · have hnumber : r.next - t.base = t.read + 1 := by
      have hnext := h.next_eq
      omega
    simp only [step, hh, hnumber, hheard.version_ne_iff, Bool.decide_eq_true]

theorem takesLag {missed : Nat} {r : Receiver} (hh : t.live.heard? = some (.lagged missed, r))
    (hr : r.next = (t.live.source.channel key).oldest)
    (hlt : t.live.listener.receiver.next < (t.live.source.channel key).oldest) : t.TakesLag := by
  have hlive := Live.receive_of_some hh
  have hread : (t.step .receive).read = r.next - t.base := by
    simp only [read, step, hlive]
  have hsent := h.carries.sent
  have hnext := h.next_eq
  have hcap := h.capacity
  rw [Channel.oldest_eq] at hr hlt
  rw [← h.changes_eq] at hsent hcap hr hlt
  refine ⟨by omega, by omega, fun text ht => ?_, by simp only [step, hh]⟩
  show t.live.service.Heard t.live.receive.service text
  rw [hlive, show t.live.source.read t.live.files t.live.key = .ok text from ht]
  exact t.live.service.heard_lagged text missed

/-- A step of the listener: it has nothing to do, or takes a change, or has missed changes. -/
theorem receive_cases :
    (t.read = t.changes.length ∧ t.step .receive = t) ∨ (∃ change, t.TakesMessage change) ∨
      t.TakesLag := by
  cases hh : t.live.heard? with
  | none =>
    refine Or.inl ⟨h.heard?_eq_none_iff.1 hh, ?_⟩
    have hlive : t.live.receive = t.live := by
      rw [Live.receive_of_none hh, h.changes_eq, h.closed, Bool.or_false]
    simp only [step, hlive, hh, List.append_nil]
  | some p =>
    obtain ⟨n, r⟩ := p
    have hrec := hh
    rw [h.heard?_eq] at hrec
    rcases h.carries.receive?_eq_some h.base_le hrec with ⟨change, rfl, hat, hr⟩ | ⟨rfl, hlt, hr⟩
    · refine Or.inr (Or.inl ⟨change, h.takesMessage hh hat hr ?_⟩)
      rw [Channel.receive?_eq] at hrec
      split at hrec
      · cases hrec
      · omega
    · exact Or.inr (Or.inr (h.takesLag hh hr hlt))

omit h in
theorem source_step_receive : (t.step .receive).live.source = t.live.source :=
  t.live.source_receive

theorem step_receive : (t.step .receive).Tied key compiler where
  stream := t.live.stream_receive.trans h.stream
  done := (Live.done_receive (h.changes_eq ▸ h.closed)).trans h.done
  key_eq := t.live.key_receive.trans h.key_eq
  compiler_eq := t.live.compiler_receive.trans h.compiler_eq
  closed := by
    rw [source_step_receive]
    exact h.closed
  capacity := by
    rw [source_step_receive]
    exact h.capacity
  carries := by
    rw [source_step_receive]
    exact h.carries
  keys := h.keys
  base_le := Nat.le_trans h.base_le t.live.next_le_next_receive
  read_le := by
    show (t.step .receive).read ≤ t.changes.length
    rcases h.receive_cases with ⟨hread, hsame⟩ | ⟨change, hm⟩ | hl
    · refine Nat.le_of_eq ?_
      rw [hsame, hread]
    · obtain ⟨hlt, -⟩ := List.getElem?_eq_some_iff.1 hm.at_read
      rw [hm.read]
      exact hlt
    · exact Nat.le_of_add_right_le (Nat.le_of_eq hl.read)

omit h in
theorem step (h : t.Tied key compiler) (e : Live.Event) : (t.step e).Tied key compiler := by
  cases e with
  | source e => exact h.step_source e
  | receive => exact h.step_receive

end Tied

/-- A trace whose listener has just been attached to a source like this one. -/
structure Starts (t : Trace) (source : Source) (key : String) (compiler : Compiler) : Prop where
  tied : t.Tied key compiler
  changes : t.changes = []
  takes : t.takes = []
  text : t.live.text = .ok t.first
  rule : compiler.rule? t.first = some t.live.service.router.active.rule
  subscribed : t.live.source.Subscribed key
  isMemory : t.live.source.isMemory = source.isMemory
  capacity : t.live.changes.capacity = source.capacity.nextPowerOfTwo

theorem Starts.read_eq {t : Trace} {source : Source} {key : String} {compiler : Compiler}
    (h : t.Starts source key compiler) : t.read = 0 := by
  have hle := h.tied.read_le
  rw [h.changes] at hle
  exact Nat.le_zero.1 hle

/-- This is how a listener starts at a source that nobody had used before these events. -/
theorem starts_of_attach {source : Source} (hs : source.IsNew) {files : FileTree}
    {before : List Source.Event} {application : String} {compiler : Compiler} {capacity : Nat}
    {baseline : Call} {pool : Pool} {l : Live}
    (h : Live.attach (Feed.run { files, source } before).files
      (Feed.run { files, source } before).source application compiler capacity baseline pool =
        .ok l) :
    (begin l).Starts source (ruleKey application) compiler := by
  obtain ⟨hcap, hopen⟩ := Feed.run_capacity hs files before (ruleKey application)
  have hmemory : (Feed.run { files, source } before).source.isMemory = source.isMemory :=
    Feed.run_induction (P := fun f => f.source.isMemory = source.isMemory)
      (fun f e hf => (f.isMemory_step e).trans hf) rfl before
  obtain ⟨sub, hj, hfiles, hstream, hlistener, hbuild⟩ := Live.attach_eq_ok h
  obtain ⟨hkey, hcompiler, hrule, -⟩ := Router.build_eq_ok hbuild
  have hkey : l.key = ruleKey application := hkey
  have htext : l.text = .ok sub.initial := by
    rw [Live.text, hj.read, hfiles, hkey, hj.initial]
  have hfirst : (begin l).first = sub.initial := by
    simp only [begin, htext]
    rfl
  have hnext : l.listener.receiver.next = (l.source.channel (ruleKey application)).sent := by
    rw [hlistener, hj.receiver, hj.channel]
    rfl
  have htied : (begin l).Tied (ruleKey application) compiler := by
    refine
      { stream := hstream
        done := by simp only [begin, hlistener]
        key_eq := hkey
        compiler_eq := hcompiler
        closed := ?_
        capacity := ?_
        carries := ?_
        keys := nofun
        base_le := Nat.le_refl _
        read_le := ?_ }
    · simp only [begin, hj.channel]
      exact hopen
    · simp only [begin, hj.channel, hcap]
      exact Channel.capacity_ofCapacity_pos (α := Change) source.capacity
    · simp only [begin, hnext]
      exact Carries.nil _
    · simp only [read, begin]
      omega
  refine ⟨htied, rfl, rfl, by rw [hfirst]; exact htext, by rw [hfirst]; exact hrule, hj.subscribed,
    hj.isMemory.trans hmemory, ?_⟩
  rw [htied.changes_eq]
  simp only [begin, hj.channel, hcap]

end Trace
end CallRouting
