import CallRouting.Proofs.SourceRun
import Mathlib.Data.List.Forall2

/-!
# Streams of changes

Whoever subscribes to a key of a source in memory is given its text, and then reads the changes of
it at any pace. Values and channels are two things that the source keeps; here they are tied
together.

* `Streams`, `Streams.Event`, `Streams.run` : a source in memory and its subscribers, with
  publishing, removing, subscribing and reading in any order;
* `Streams.text`, `Streams.turns` : the text of a key after some events, and what it turned from and
  to at each change, both told from the events alone;
* `Change.Reports` : a change says what turned into what;
* `Tells` : notices that give some messages one by one, and count those that were lost;
* `Streams.Receives`, `Streams.Drains` : what one reading does to a subscriber, and what many do;
* `Streams.Delivers` : what a subscriber has been told and what it has yet to read, kept by every
  event (`Delivers.step`, `Delivers.run`);
* `Streams.subscriber_told` : each subscriber is told of all changes of its key, and of nothing else.
-/

namespace CallRouting

open Channel (Carries)

/-! ## Subscribers -/

/-- The text of a key after some changes of it. -/
def Change.replay (text : Option String) (changes : List Change) : Option String :=
  changes.foldl (fun _ change => change.value) text

namespace Streams

/-- Someone who has subscribed, with all notices received so far. -/
structure Subscriber extends Inbox Change, Subscription

namespace Subscriber

/-- The text of the last change that was received, or else the one given at the start. -/
def latest (sub : Subscriber) : Option String := Change.replay sub.initial sub.messages

def next? (sub : Subscriber) (m : Memory) : Option (Notice Change × Receiver) :=
  (m.channel sub.key).receive? sub.receiver

/-- Takes the next notice, if there is one. -/
def receive (m : Memory) (sub : Subscriber) : Subscriber :=
  { sub with toInbox := sub.take (m.channel sub.key) }

theorem receive_of_some {m : Memory} {sub : Subscriber} {n : Notice Change} {r : Receiver}
    (h : sub.next? m = some (n, r)) :
    sub.receive m = { sub with receiver := r, received := sub.received ++ [n] } := by
  rw [receive, Inbox.take_of_some h]

theorem receive_of_none {m : Memory} {sub : Subscriber} (h : sub.next? m = none) :
    sub.receive m = sub := by
  rw [receive, Inbox.take_of_none h]

/-- Takes all notices that there are. -/
def drain (m : Memory) (sub : Subscriber) : Subscriber :=
  { sub with toInbox := sub.toInbox.drain (m.channel sub.key) }

theorem next?_drain (m : Memory) (sub : Subscriber) : (sub.drain m).next? m = none :=
  (m.channel sub.key).receive?_drain sub.receiver

theorem iterate_receive (m : Memory) (n : Nat) (sub : Subscriber) :
    (receive m)^[n] sub =
      { sub with toInbox := (Inbox.take (m.channel sub.key))^[n] sub.toInbox } := by
  induction n generalizing sub with
  | zero => rfl
  | succ n ih => rw [Function.iterate_succ_apply, ih, Function.iterate_succ_apply, receive]

end Subscriber

end Streams

/-- A source in memory and all who have subscribed to it, in the order in which they did. -/
structure Streams where
  memory : Memory
  subscribers : List Streams.Subscriber := []

namespace Streams

inductive Event where
  | publish (key text : String)
  | remove (key : String)
  | subscribe (key : String)
  /-- The subscriber with this number takes its next notice. -/
  | receive (subscriber : Nat)

def step (s : Streams) : Event → Streams
  | .publish key text => { s with memory := s.memory.publish key text }
  | .remove key => { s with memory := s.memory.remove key }
  | .subscribe key =>
    let (sub, memory) := s.memory.subscribe key
    { memory, subscribers := s.subscribers ++ [{ toSubscription := sub }] }
  | .receive i => { s with subscribers := s.subscribers.modify i (·.receive s.memory) }

def run (s : Streams) (events : List Event) : Streams := events.foldl step s

/-- A new source, with nobody there yet. -/
def new (capacity : Nat) : Streams := { memory := { capacity } }

/-! ## What the events say -/

/-- The text of the key after an event. -/
def Event.after (key : String) (text : Option String) : Event → Option String
  | .publish k new => if k = key then some new else text
  | .remove k => if k = key then none else text
  | .subscribe _ | .receive _ => text

/-- The texts of the key before and after an event that changes it. To publish the text that is
already there counts as a change, to remove one that is not there does not. -/
def Event.turn? (key : String) (text : Option String) :
    Event → Option (Option String × Option String)
  | .publish k new => if k = key then some (text, some new) else none
  | .remove k => if k = key ∧ text.isSome then some (text, none) else none
  | .subscribe _ | .receive _ => none

def text (key : String) (text : Option String) (events : List Event) : Option String :=
  events.foldl (Event.after key) text

def turns (key : String) : Option String → List Event → List (Option String × Option String)
  | _, [] => []
  | text, e :: es => (e.turn? key text).toList ++ turns key (e.after key text) es

end Streams

/-- The change is of this key, has the new text, and says whether there was a text before and
whether there is one now. -/
structure Change.Reports (key : String) (turn : Option String × Option String)
    (change : Change) : Prop where
  key_eq : change.key = key
  value_eq : change.value = turn.2
  added : change.kind = .added ↔ turn.1 = none ∧ turn.2.isSome
  modified : change.kind = .modified ↔ turn.1.isSome ∧ turn.2.isSome
  deleted : change.kind = .deleted ↔ turn.1.isSome ∧ turn.2 = none

/-- The notices are about these messages, in order: each is one of them, or says how many of those
that come next were lost. -/
inductive Tells {α : Type} : List (Notice α) → List α → Prop where
  | nil : Tells [] []
  | message {ns : List (Notice α)} {as : List α} (h : Tells ns as) (a : α) :
    Tells (ns ++ [.message a]) (as ++ [a])
  | lagged {ns : List (Notice α)} {as : List α} (h : Tells ns as) (lost : List α) (hne : lost ≠ []) :
    Tells (ns ++ [.lagged lost.length]) (as ++ lost)

/-! ## One notice -/

theorem Change.replay_append (text : Option String) (cs cs' : List Change) :
    replay text (cs ++ cs') = replay (replay text cs) cs' := List.foldl_append

/-- The next notice for a receiver that has been told of the first messages of the log. -/
theorem Channel.Carries.receive?_eq {α : Type} {c : Channel α} {base : Nat} {told unread : List α}
    (h : c.Carries base (told ++ unread)) {r : Receiver} (hr : r.next = base + told.length) :
    c.receive? r =
      if c.capacity < unread.length then
        some (.lagged (unread.length - c.capacity), ⟨base + told.length + (unread.length - c.capacity)⟩)
      else unread.head?.map fun a => (.message a, ⟨base + told.length + 1⟩) := by
  have hsent := h.sent
  have hold := c.oldest_eq
  rw [List.length_append] at hsent
  rw [Channel.receive?_eq]
  by_cases hlt : c.capacity < unread.length
  · rw [if_pos (by omega), if_pos hlt]
    simp only [Option.some.injEq, Prod.mk.injEq, Notice.lagged.injEq, Receiver.mk.injEq]
    omega
  · rw [if_neg (by omega), if_neg hlt, hr, h.at? _ (by omega),
      List.getElem?_append_right (Nat.le_refl _), Nat.sub_self, List.head?_eq_getElem?]

namespace Streams

/-! ## The source -/

theorem get?_step (s : Streams) (e : Event) (key : String) :
    (s.step e).memory.get? key = e.after key (s.memory.get? key) := by
  cases e with
  | publish k text =>
    simp only [step, Event.after, Memory.get?_publish, eq_comm]
  | remove k =>
    simp only [step, Event.after, Memory.get?_remove, eq_comm]
  | subscribe k => rfl
  | receive i => rfl

theorem get?_run (s : Streams) (es : List Event) (key : String) :
    (s.run es).memory.get? key = text key (s.memory.get? key) es := by
  induction es generalizing s with
  | nil => rfl
  | cons e es ih =>
    rw [run, List.foldl_cons, ← run, ih, get?_step]
    rfl

/-- What a subscribed key sees of an event: nothing, or that its text turns and that this is sent. -/
theorem step_cases (s : Streams) (e : Event) {key : String}
    (hs : (s.memory.channels.get? key).isSome) :
    e.turn? key (s.memory.get? key) = none ∧
        (s.step e).memory.channel key = s.memory.channel key ∧
        (s.step e).memory.get? key = s.memory.get? key ∨
      ∃ turn change, e.turn? key (s.memory.get? key) = some turn ∧ Change.Reports key turn change ∧
        (s.step e).memory.channel key = (s.memory.channel key).send change ∧
        (s.step e).memory.get? key = change.value := by
  cases e with
  | publish k text =>
    simp only [step, Event.turn?, Memory.channel_publish, Memory.get?_publish]
    by_cases hk : k = key
    · subst hk
      rw [if_pos rfl, if_pos ⟨rfl, hs⟩, if_pos rfl]
      refine Or.inr ⟨_, _, rfl, ?_, rfl, rfl⟩
      cases s.memory.get? k <;> constructor <;> simp [ChangeKind.between]
    · rw [if_neg hk, if_neg fun h => hk h.1, if_neg (Ne.symm hk)]
      exact Or.inl ⟨rfl, rfl, rfl⟩
  | remove k =>
    simp only [step, Event.turn?, Memory.channel_remove, Memory.get?_remove]
    by_cases hk : k = key
    · subst hk
      by_cases ht : (s.memory.get? k).isSome
      · rw [if_pos ⟨rfl, ht⟩, if_pos ⟨rfl, ht, hs⟩, if_pos rfl]
        refine Or.inr ⟨_, _, rfl, ?_, rfl, rfl⟩
        constructor <;> simp [ht]
      · rw [if_neg fun h => ht h.2, if_neg fun h => ht h.2.1, if_pos rfl]
        exact Or.inl ⟨rfl, rfl, (by simpa using ht : s.memory.get? k = none).symm⟩
    · rw [if_neg fun h => hk h.1, if_neg fun h => hk h.1, if_neg (Ne.symm hk)]
      exact Or.inl ⟨rfl, rfl, rfl⟩
  | subscribe k => exact Or.inl ⟨rfl, s.memory.channel_subscribe key k, rfl⟩
  | receive i => exact Or.inl ⟨rfl, rfl, rfl⟩

theorem isSome_channels_step (s : Streams) (e : Event) {key : String}
    (hs : (s.memory.channels.get? key).isSome) :
    ((s.step e).memory.channels.get? key).isSome := by
  cases e with
  | publish k text => rwa [step, Memory.isSome_channels_publish]
  | remove k => rwa [step, Memory.isSome_channels_remove]
  | subscribe k =>
    simp only [step, Memory.subscribe, Dict.get?_insert]
    split
    · rfl
    · exact hs
  | receive i => exact hs

theorem getElem?_subscribers_step {s : Streams} {e : Event} {i : Nat} {sub : Subscriber}
    (he : e ≠ .receive i) (h : s.subscribers[i]? = some sub) :
    (s.step e).subscribers[i]? = some sub := by
  cases e with
  | publish k text | remove k => exact h
  | subscribe k => exact List.getElem?_append_left (List.getElem?_eq_some_iff.1 h).1 ▸ h
  | receive j =>
    have hij : j ≠ i := fun hij => he (hij ▸ rfl)
    rw [step, List.getElem?_modify_ne _ _ hij]
    exact h

theorem capacity_step (s : Streams) (e : Event) (key : String) :
    ((s.step e).memory.channel key).capacity = (s.memory.channel key).capacity := by
  cases e with
  | publish k text =>
    rw [step, Memory.channel_publish]
    split <;> rfl
  | remove k =>
    rw [step, Memory.channel_remove]
    split <;> rfl
  | subscribe k => rw [step, Memory.channel_subscribe]
  | receive i => rfl

theorem capacity_run (s : Streams) (es : List Event) (key : String) :
    ((s.run es).memory.channel key).capacity = (s.memory.channel key).capacity := by
  induction es generalizing s with
  | nil => rfl
  | cons e es ih => rw [run, List.foldl_cons, ← run, ih, capacity_step]

/-! ## Reading -/

/-- What one more event does to the subscriber with number `i`: when it reads, its next notice is
added to those it has received, if there is one; at all other events it stays as it is. -/
structure Receives (s : Streams) (i : Nat) (sub : Subscriber) : Prop where
  notice : ∀ n r, sub.next? s.memory = some (n, r) →
    (s.step (.receive i)).subscribers[i]? =
      some { sub with receiver := r, received := sub.received ++ [n] }
  nothing : sub.next? s.memory = none → (s.step (.receive i)).subscribers[i]? = some sub
  other : ∀ e, e ≠ .receive i → (s.step e).subscribers[i]? = some sub

theorem getElem?_receive {s : Streams} {i : Nat} {sub : Subscriber}
    (h : s.subscribers[i]? = some sub) :
    (s.step (.receive i)).subscribers[i]? = some (sub.receive s.memory) := by
  rw [step, List.getElem?_modify_eq, h]
  rfl

theorem receives_of_getElem? {s : Streams} {i : Nat} {sub : Subscriber}
    (h : s.subscribers[i]? = some sub) : s.Receives i sub where
  notice n r hr := by rw [getElem?_receive h, Subscriber.receive_of_some hr]
  nothing hr := by rw [getElem?_receive h, Subscriber.receive_of_none hr]
  other e he := getElem?_subscribers_step he h

theorem run_receives (s : Streams) (i n : Nat) :
    s.run (List.replicate n (.receive i)) =
      { s with subscribers := s.subscribers.modify i (Subscriber.receive s.memory)^[n] } := by
  induction n generalizing s with
  | zero =>
    rw [Function.iterate_zero, List.modify_id]
    rfl
  | succ n ih =>
    rw [List.replicate_succ, run, List.foldl_cons, ← run, ih, step, List.modify_modify_eq,
      Function.iterate_succ]

theorem memory_run_receives (s : Streams) (i n : Nat) :
    (s.run (List.replicate n (.receive i))).memory = s.memory := by
  rw [run_receives]

/-- To read changes nothing. -/
theorem turns_receives (key : String) (text : Option String) (i n : Nat) :
    turns key text (List.replicate n (.receive i)) = [] := by
  induction n with
  | zero => rfl
  | succ n ih => exact ih

/-- What becomes of the subscriber with number `i` when it reads that often: it takes all notices
that there are, which tell it of all these changes, and knows the text of its key. -/
structure Drains (s : Streams) (i : Nat) (sub : Subscriber) (changes : List Change) (reads : Nat) :
    Prop where
  memory_eq : (s.run (List.replicate reads (.receive i))).memory = s.memory
  sub_eq : (s.run (List.replicate reads (.receive i))).subscribers[i]? = some (sub.drain s.memory)
  next?_eq : (sub.drain s.memory).next? s.memory = none
  tells : Tells (sub.drain s.memory).received changes
  latest_eq : (sub.drain s.memory).latest = s.memory.get? sub.key

/-! ## A subscriber -/

/-- How far the subscriber with number `i` is: of the changes sent since it subscribed, it has been
told of some, and the others are there for it or will be counted as lost. -/
structure Delivers (s : Streams) (i : Nat) (sub : Subscriber) (told unread : List Change) :
    Prop where
  sub_eq : s.subscribers[i]? = some sub
  subscribed : (s.memory.channels.get? sub.key).isSome
  capacity_pos : 0 < (s.memory.channel sub.key).capacity
  carries : ∃ base, (s.memory.channel sub.key).Carries base (told ++ unread) ∧
    sub.receiver.next = base + told.length
  tells : Tells sub.received told
  text_eq : s.memory.get? sub.key = Change.replay sub.initial (told ++ unread)
  latest_eq : unread = [] → sub.latest = Change.replay sub.initial told

variable {s : Streams} {i : Nat} {sub : Subscriber} {told unread : List Change}

namespace Delivers

theorem next?_eq (h : s.Delivers i sub told unread) :
    (sub.next? s.memory).map Prod.fst =
      if (s.memory.channel sub.key).capacity < unread.length then
        some (.lagged (unread.length - (s.memory.channel sub.key).capacity))
      else unread.head?.map .message := by
  obtain ⟨base, hc, hnext⟩ := h.carries
  rw [Subscriber.next?, hc.receive?_eq hnext]
  split
  · rfl
  · rw [Option.map_map]
    rfl

theorem unread_eq_nil (h : s.Delivers i sub told unread) (hnone : sub.next? s.memory = none) :
    unread = [] := by
  have hnext := h.next?_eq
  rw [hnone, Option.map_none] at hnext
  split at hnext
  · cases hnext
  · exact List.head?_eq_none_iff.1 (Option.map_eq_none_iff.1 hnext.symm)

theorem latest_eq_get? (h : s.Delivers i sub told unread) (hnone : sub.next? s.memory = none) :
    sub.latest = s.memory.get? sub.key := by
  have hnil := h.unread_eq_nil hnone
  rw [h.text_eq, h.latest_eq hnil, hnil, List.append_nil]

/-- Nothing changes for a subscriber if nothing happens to its key. -/
theorem frame (h : s.Delivers i sub told unread) {s' : Streams}
    (hsub : s'.subscribers[i]? = some sub)
    (hsubscribed : (s'.memory.channels.get? sub.key).isSome)
    (hchannel : s'.memory.channel sub.key = s.memory.channel sub.key)
    (htext : s'.memory.get? sub.key = s.memory.get? sub.key) :
    s'.Delivers i sub told unread where
  sub_eq := hsub
  subscribed := hsubscribed
  capacity_pos := hchannel ▸ h.capacity_pos
  carries := hchannel ▸ h.carries
  tells := h.tells
  text_eq := htext.trans h.text_eq
  latest_eq := h.latest_eq

/-- A change of its key is one more to read. -/
theorem send (h : s.Delivers i sub told unread) {s' : Streams} {change : Change}
    (hsub : s'.subscribers[i]? = some sub)
    (hsubscribed : (s'.memory.channels.get? sub.key).isSome)
    (hchannel : s'.memory.channel sub.key = (s.memory.channel sub.key).send change)
    (htext : s'.memory.get? sub.key = change.value) :
    s'.Delivers i sub told (unread ++ [change]) where
  sub_eq := hsub
  subscribed := hsubscribed
  capacity_pos := hchannel ▸ h.capacity_pos
  carries := by
    obtain ⟨base, hc, hnext⟩ := h.carries
    refine ⟨base, ?_, hnext⟩
    rw [hchannel, ← List.append_assoc]
    exact hc.send h.capacity_pos change
  tells := h.tells
  text_eq := by
    rw [htext, ← List.append_assoc, Change.replay_append _ (told ++ unread)]
    rfl
  latest_eq hnil := absurd hnil (by simp)

/-- A notice about the first unread changes moves the subscriber on to the rest. -/
theorem takes {first rest : List Change} (h : s.Delivers i sub told (first ++ rest))
    {n : Notice Change} {r : Receiver} (hr : sub.next? s.memory = some (n, r))
    (hnext : r.next = sub.receiver.next + first.length)
    (htells : Tells (sub.received ++ [n]) (told ++ first))
    (hlatest : rest = [] → Change.replay sub.initial
        ((sub.received ++ [n]).filterMap Notice.message?) =
      Change.replay sub.initial (told ++ first)) :
    (s.step (.receive i)).Delivers i (sub.receive s.memory) (told ++ first) rest := by
  have hsub := getElem?_receive h.sub_eq
  obtain ⟨base, hc, hbase⟩ := h.carries
  rw [← List.append_assoc] at hc
  rw [Subscriber.receive_of_some hr] at hsub ⊢
  refine ⟨hsub, h.subscribed, h.capacity_pos, ⟨base, hc, ?_⟩, htells, ?_, hlatest⟩
  · rw [List.length_append, ← Nat.add_assoc, ← hbase]
    exact hnext
  · rw [List.append_assoc]
    exact h.text_eq

/-- Taking a notice moves the subscriber on. -/
theorem receive (h : s.Delivers i sub told unread) :
    ∃ told' unread', (s.step (.receive i)).Delivers i (sub.receive s.memory) told' unread' ∧
      told' ++ unread' = told ++ unread := by
  obtain ⟨base, hc, hbase⟩ := h.carries
  have hr := hc.receive?_eq hbase
  rw [← Subscriber.next?, ← hbase] at hr
  by_cases hlt : (s.memory.channel sub.key).capacity < unread.length
  · -- The oldest changes are lost, and the channel has as many left as it keeps.
    rw [if_pos hlt] at hr
    have hpos := h.capacity_pos
    generalize hm : unread.length - (s.memory.channel sub.key).capacity = m at hr
    have hlen : (unread.take m).length = m := List.length_take_of_le (by omega)
    have hne : unread.take m ≠ [] := List.ne_nil_of_length_pos (by omega)
    have hrest : unread.drop m ≠ [] := List.ne_nil_of_length_pos (by rw [List.length_drop]; omega)
    have htells := h.tells.lagged (unread.take m) hne
    rw [hlen] at htells
    rw [← List.take_append_drop m unread] at h
    exact ⟨told ++ unread.take m, unread.drop m,
      h.takes hr (by rw [hlen]) htells fun hnil => absurd hnil hrest, by simp⟩
  · rw [if_neg hlt] at hr
    cases unread with
    | nil =>
      have hsub := getElem?_receive h.sub_eq
      rw [Subscriber.receive_of_none hr] at hsub ⊢
      exact ⟨told, [], h.frame hsub h.subscribed rfl rfl, rfl⟩
    | cons change unread =>
      -- All that was told before may have had losses, but this change is the latest of all.
      have hlatest : Change.replay sub.initial
            ((sub.received ++ [Notice.message change]).filterMap Notice.message?) =
          Change.replay sub.initial (told ++ [change]) := by
        rw [List.filterMap_append, Change.replay_append, Change.replay_append]
        rfl
      have htells := h.tells.message change
      have h : s.Delivers i sub told ([change] ++ unread) := h
      exact ⟨told ++ [change], unread, h.takes hr rfl htells fun _ => hlatest,
        (List.append_cons _ _ _).symm⟩

/-- What an event changes is what the subscriber has to read in addition. -/
theorem step (h : s.Delivers i sub told unread) (e : Event) :
    ∃ sub' told' unread' sent, (s.step e).Delivers i sub' told' unread' ∧ sub'.key = sub.key ∧
      sub'.initial = sub.initial ∧ told' ++ unread' = told ++ unread ++ sent ∧
      List.Forall₂ (Change.Reports sub.key) (e.turn? sub.key (s.memory.get? sub.key)).toList
        sent := by
  by_cases he : e = .receive i
  · subst he
    obtain ⟨told', unread', h', hlog⟩ := h.receive
    exact ⟨sub.receive s.memory, told', unread', [], h', rfl, rfl,
      by rw [hlog, List.append_nil], .nil⟩
  · have hsub := getElem?_subscribers_step he h.sub_eq
    have hsubscribed := isSome_channels_step s e h.subscribed
    rcases s.step_cases e h.subscribed with ⟨ht, hc, hg⟩ | ⟨turn, change, ht, hr, hc, hg⟩
    · refine ⟨sub, told, unread, [], h.frame hsub hsubscribed hc hg, rfl, rfl,
        (List.append_nil _).symm, ?_⟩
      rw [ht]
      exact .nil
    · refine ⟨sub, told, unread ++ [change], [change], h.send hsub hsubscribed hc hg, rfl, rfl,
        (List.append_assoc ..).symm, ?_⟩
      rw [ht]
      exact .cons hr .nil

theorem run (h : s.Delivers i sub told unread) (es : List Event) :
    ∃ sub' told' unread' sent, (s.run es).Delivers i sub' told' unread' ∧ sub'.key = sub.key ∧
      sub'.initial = sub.initial ∧ told' ++ unread' = told ++ unread ++ sent ∧
      List.Forall₂ (Change.Reports sub.key) (turns sub.key (s.memory.get? sub.key) es) sent := by
  induction es generalizing s sub told unread with
  | nil => exact ⟨sub, told, unread, [], h, rfl, rfl, (List.append_nil _).symm, .nil⟩
  | cons e es ih =>
    obtain ⟨sub₁, told₁, unread₁, sent₁, h₁, hkey₁, hinitial₁, hlog₁, hturn₁⟩ := h.step e
    obtain ⟨sub₂, told₂, unread₂, sent₂, h₂, hkey₂, hinitial₂, hlog₂, hturn₂⟩ := ih h₁
    refine ⟨sub₂, told₂, unread₂, sent₁ ++ sent₂, h₂, hkey₂.trans hkey₁,
      hinitial₂.trans hinitial₁, ?_, ?_⟩
    · rw [hlog₂, hlog₁, List.append_assoc]
    · rw [hkey₁, get?_step] at hturn₂
      exact List.rel_append hturn₁ hturn₂

/-- A subscriber that reads as often as there are changes to read has taken all notices. -/
theorem getElem?_run_receives (h : s.Delivers i sub told unread) {reads : Nat}
    (hreads : unread.length ≤ reads) :
    (s.run (List.replicate reads (.receive i))).subscribers[i]? = some (sub.drain s.memory) := by
  obtain ⟨base, hc, hbase⟩ := h.carries
  have hsent := hc.sent
  rw [List.length_append] at hsent
  rw [run_receives, List.getElem?_modify_eq, h.sub_eq, Option.map_eq_map, Option.map_some,
    Subscriber.iterate_receive, Inbox.iterate_take _ (by omega) (by omega), Subscriber.drain]

theorem drains (h : s.Delivers i sub told unread) {reads : Nat} (hreads : unread.length ≤ reads) :
    s.Drains i sub (told ++ unread) reads := by
  have hmemory := s.memory_run_receives i reads
  have hsub := h.getElem?_run_receives hreads
  -- The run of readings is a run like any other, in which no change is made.
  obtain ⟨drained, told', unread', sent, h', -, -, hlog, hturns⟩ :=
    h.run (List.replicate reads (.receive i))
  rw [turns_receives, List.forall₂_nil_left_iff] at hturns
  obtain rfl := Option.some.inj (h'.sub_eq.symm.trans hsub)
  have hnext : (sub.drain s.memory).next? (s.run (List.replicate reads (.receive i))).memory =
      none := by
    rw [hmemory]
    exact sub.next?_drain s.memory
  have hlatest := h'.latest_eq_get? hnext
  rw [h'.unread_eq_nil hnext, hturns, List.append_nil, List.append_nil] at hlog
  rw [hmemory] at hnext hlatest
  exact ⟨hmemory, hsub, hnext, hlog ▸ h'.tells, hlatest⟩

end Delivers

/-- Whoever has just subscribed has nothing to read. -/
theorem delivers_subscribe (s : Streams) (key : String) (hpos : 0 < (s.memory.channel key).capacity) :
    (s.step (.subscribe key)).Delivers s.subscribers.length
      { toSubscription := (s.memory.subscribe key).1 } [] [] where
  sub_eq := by
    rw [step, List.getElem?_concat_length]
  subscribed := by
    simp [step, Memory.subscribe]
  capacity_pos := by
    rw [step, Memory.channel_subscribe]
    exact hpos
  carries := by
    refine ⟨(s.memory.channel key).sent, ?_, rfl⟩
    rw [step, Memory.channel_subscribe]
    exact .nil _
  tells := .nil
  text_eq := rfl
  latest_eq _ := rfl

/-- **Every subscriber is told the changes of its key, and nothing else.** Take the one that joins
after `before`. The changes that the later events make are those that it has been told of, together
with the `unread` ones: its next notice is about these, and counts how many it has lost if there
are more than the channel keeps. It receives that notice when it reads; and when it has read often
enough, it has been told of all changes and knows the text of its key. -/
theorem subscriber_told (capacity : Nat) (before after : List Event) (key : String) :
    let s := (new capacity).run (before ++ .subscribe key :: after)
    let i := ((new capacity).run before).subscribers.length
    let kept := capacity.nextPowerOfTwo
    ∃ sub told unread,
      s.subscribers[i]? = some sub ∧
      sub.key = key ∧ sub.initial = text key none before ∧
      List.Forall₂ (Change.Reports key) (turns key sub.initial after) (told ++ unread) ∧
      Tells sub.received told ∧
      (sub.next? s.memory).map Prod.fst =
        (if kept < unread.length then some (.lagged (unread.length - kept))
        else unread.head?.map .message) ∧
      s.Receives i sub ∧
      (∀ reads, unread.length ≤ reads → s.Drains i sub (told ++ unread) reads) ∧
      (sub.next? s.memory = none → sub.latest = s.memory.get? key) ∧
      s.memory.get? key = text key none (before ++ .subscribe key :: after) := by
  intro s i kept
  set s₀ := (new capacity).run before with hs₀
  have hcapacity : ∀ es, (((new capacity).run es).memory.channel key).capacity = kept := fun es =>
    (new capacity).capacity_run es key
  have hpos : 0 < (s₀.memory.channel key).capacity := by
    have h : 0 < (Channel.ofCapacity capacity : Channel Change).capacity :=
      Channel.capacity_ofCapacity_pos capacity
    rwa [hs₀, hcapacity]
  obtain ⟨sub, told, unread, sent, h, hkey, hinitial, hlog, hturns⟩ :=
    (s₀.delivers_subscribe key hpos).run after
  have hrun : (s₀.step (.subscribe key)).run after = s := by
    simp only [s, hs₀, run, List.foldl_append, List.foldl_cons]
  have htext : s₀.memory.get? key = text key none before := (new capacity).get?_run before key
  rw [hrun] at h
  obtain rfl : sub.key = key := hkey
  have hinitial : sub.initial = s₀.memory.get? sub.key := hinitial
  refine ⟨sub, told, unread, h.sub_eq, rfl, hinitial.trans htext, ?_, h.tells, ?_,
    receives_of_getElem? h.sub_eq, fun _ hreads => h.drains hreads, h.latest_eq_get?,
    (new capacity).get?_run _ _⟩
  · rw [hlog, hinitial]
    exact hturns
  · rw [h.next?_eq, hcapacity]

/-- A source that keeps one change, and a subscriber that has not read the three there were. -/
def threeBehind : Streams :=
  (new 1).run [.subscribe "k", .publish "k" "a", .publish "k" "b", .publish "k" "c"]

/-- It has lost two of them, receives the third, and then knows the text. -/
theorem subscriber_told_threeBehind :
    ∃ drained, (threeBehind.run (List.replicate 3 (.receive 0))).subscribers[0]? = some drained ∧
      drained.received = [.lagged 2, .message ⟨"k", some "c", .modified⟩] ∧
      drained.next? threeBehind.memory = none ∧ drained.latest = threeBehind.memory.get? "k" ∧
      threeBehind.memory.get? "k" = some "c" := by
  obtain ⟨sub, told, unread, hsub, hkey, -, hturns, -, -, -, hdrains, -, htext⟩ :=
    subscriber_told 1 [] [.publish "k" "a", .publish "k" "b", .publish "k" "c"] "k"
  have hlength : 3 = (told ++ unread).length := hturns.length_eq
  rw [List.length_append] at hlength
  have h := hdrains 3 (by omega)
  have hreceived : threeBehind.subscribers[0]?.map (fun sub =>
      (sub.drain threeBehind.memory).received) =
        some [.lagged 2, .message ⟨"k", some "c", .modified⟩] := by decide +kernel
  rw [show threeBehind.subscribers[0]? = some sub from hsub] at hreceived
  have hlatest := h.latest_eq
  rw [hkey] at hlatest
  exact ⟨_, h.sub_eq, Option.some.inj hreceived, h.next?_eq, hlatest, htext⟩

end Streams
end CallRouting
