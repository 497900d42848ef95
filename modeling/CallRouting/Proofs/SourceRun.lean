import CallRouting.Proofs.ChannelLog
import CallRouting.Source.Kinds

/-!
# Sources at work

What can happen to a source, one thing after the other, and what each of them does to the channel
of a key.

* `Source.Event`, `Feed.step`, `Feed.run` : publishing, removing, subscribing, edits of the files
  and polls, in any order; a `Feed` holds the source, the files and the subscriptions so far;
* `Feed.step_channel` : one step sends at most one change on the channel of a key, and its key is
  that one;
* `Memory.channel_publish`, `Memory.channel_remove` : what the owner of a subscribed key sends;
* `Directory.get?_watched_poll` : what a poll does to a watched key;
* `Source.Joined` : what a new subscriber gets and what it leaves behind;
* `Feed.run_capacity` : the channels of a source are as large as it was told, and stay open.
-/

namespace CallRouting

open Channel (Carries)

/-! ## Events -/

/-- What can happen to a source. A source in memory knows no files, and a folder no publishers. -/
inductive Source.Event where
  | publish (key text : String)
  | remove (key : String)
  | subscribe (key : String)
  /-- From now on these are the files. -/
  | edit (files : FileTree)
  | poll

/-- A source with the files that it may read and the subscriptions that were made so far. -/
structure Feed where
  files : FileTree := {}
  source : Source
  subs : List Subscription := []

def Feed.step (f : Feed) : Source.Event → Feed
  | .publish key text =>
    match f.source with
    | .memory m => { f with source := .memory (m.publish key text) }
    | .directory _ => f
  | .remove key =>
    match f.source with
    | .memory m => { f with source := .memory (m.remove key) }
    | .directory _ => f
  | .subscribe key =>
    match f.source.subscribe f.files key with
    | .ok (sub, source) => { f with source, subs := f.subs ++ [sub] }
    | .error _ => f
  | .edit files => { f with files }
  | .poll =>
    match f.source with
    | .memory _ => f
    | .directory d => { f with source := .directory (d.poll f.files).2 }

def Feed.run (f : Feed) (events : List Source.Event) : Feed := events.foldl Feed.step f

/-- Nobody has used the source yet. -/
def Source.IsNew : Source → Prop
  | .memory m => m.values = .empty ∧ m.channels = .empty
  | .directory d => d.watched = .empty

/-- The capacity that the source was told to give its channels. -/
def Source.capacity : Source → Nat
  | .memory m => m.capacity
  | .directory d => d.capacity

def Source.isMemory : Source → Bool
  | .memory _ => true
  | .directory _ => false

theorem Source.isMemory_iff (s : Source) : s.isMemory ↔ ∃ m, s = .memory m := by
  cases s <;> simp [isMemory]

theorem Source.isMemory_eq_false_iff (s : Source) : s.isMemory = false ↔ ∃ d, s = .directory d := by
  cases s <;> simp [isMemory]

/-- Whether the key has a channel. -/
def Source.Subscribed (s : Source) (key : String) : Prop :=
  match s with
  | .memory m => (m.channels.get? key).isSome
  | .directory d => (d.watched.get? key).isSome

theorem Feed.run_append (f : Feed) (es es' : List Source.Event) :
    f.run (es ++ es') = (f.run es).run es' := List.foldl_append

/-- What every step keeps, every run keeps. -/
theorem Feed.run_induction {P : Feed → Prop} (hstep : ∀ f e, P f → P (f.step e)) {f : Feed}
    (hf : P f) (es : List Source.Event) : P (f.run es) := by
  induction es generalizing f with
  | nil => exact hf
  | cons e es ih => exact ih (hstep f e hf)

/-! ## A source in memory -/

namespace Memory

variable (m : Memory) (key : String)

@[simp] theorem values_notify (change : Change) : (m.notify change).values = m.values := by
  unfold notify
  split <;> rfl

theorem channel_of_get?_eq_some {c : Channel Change} (h : m.channels.get? key = some c) :
    m.channel key = c := by
  rw [channel, h, Option.getD_some]

/-- A key that is subscribed to gets every change of its own, and no other. -/
theorem channel_notify (change : Change) :
    (m.notify change).channel key =
      if change.key = key ∧ (m.channels.get? key).isSome then (m.channel key).send change
      else m.channel key := by
  unfold notify
  split
  · next c hc =>
    by_cases hk : change.key = key
    · subst hk
      simp [channel, hc]
    · simp [channel, hk, Ne.symm hk]
  · next hc =>
    rw [if_neg]
    rintro ⟨rfl, h⟩
    simp [hc] at h

theorem isSome_channels_notify (change : Change) :
    ((m.notify change).channels.get? key).isSome = (m.channels.get? key).isSome := by
  unfold notify
  split
  · next c hc =>
    by_cases hk : key = change.key
    · subst hk
      simp [hc]
    · simp [hk]
  · rfl

theorem channel_publish (k text : String) :
    (m.publish k text).channel key =
      if k = key ∧ (m.channels.get? key).isSome then
        (m.channel key).send
          { key := k, value := some text, kind := .between (m.get? k) (some text) }
      else m.channel key := by
  rw [publish, channel_notify]
  rfl

theorem get?_publish (k text : String) :
    (m.publish k text).get? key = if key = k then some text else m.get? key := by
  simp [publish, get?]

theorem channel_remove (k : String) :
    (m.remove k).channel key =
      if k = key ∧ (m.get? k).isSome ∧ (m.channels.get? key).isSome then
        (m.channel key).send { key := k, value := none, kind := .deleted }
      else m.channel key := by
  unfold remove
  split
  · next h =>
    rw [channel_notify]
    simp only [h, true_and]
    rfl
  · next h => simp [h]

theorem get?_remove (k : String) :
    (m.remove k).get? key = if key = k then none else m.get? key := by
  unfold remove
  split
  · simp [get?]
  · next h =>
    split
    · next hk =>
      subst hk
      simpa using h
    · rfl

theorem isSome_channels_publish (k text : String) :
    ((m.publish k text).channels.get? key).isSome = (m.channels.get? key).isSome := by
  rw [publish, isSome_channels_notify]

theorem isSome_channels_remove (k : String) :
    ((m.remove k).channels.get? key).isSome = (m.channels.get? key).isSome := by
  unfold remove
  split
  · rw [isSome_channels_notify]
  · rfl

theorem channel_subscribe (k : String) : (m.subscribe k).2.channel key = m.channel key := by
  by_cases hk : key = k
  · subst hk
    simp [subscribe, channel]
  · simp [subscribe, channel, hk]

end Memory

/-! ## A source in a folder -/

theorem Watched.channel_see (w : Watched) (key : String)
    (read : Except SourceError (Option String)) :
    (w.see key read).1.channel = w.channel ∨
      ∃ change : Change, change.key = key ∧ (w.see key read).1.channel = w.channel.send change := by
  unfold see
  split
  · exact Or.inl rfl
  · split
    · exact Or.inl rfl
    · exact Or.inr ⟨_, rfl, rfl⟩

namespace Directory

variable (d : Directory) (files : FileTree) (key : String)

theorem get?_watched_poll :
    (d.poll files).2.watched.get? key =
      (d.watched.get? key).map fun w => (w.see key (d.read files key)).1 := by
  simp [poll, Option.map_map, Function.comp_def]

theorem channel_of_get?_eq_some {w : Watched} (h : d.watched.get? key = some w) :
    d.channel key = w.channel := by
  rw [channel, h]

theorem channel_poll :
    (d.poll files).2.channel key = d.channel key ∨
      ∃ change : Change, change.key = key ∧
        (d.poll files).2.channel key = (d.channel key).send change := by
  cases h : d.watched.get? key with
  | none =>
    have h' := get?_watched_poll d files key
    rw [h, Option.map_none] at h'
    refine Or.inl ?_
    rw [channel, h', channel, h]
    rfl
  | some w =>
    have h' := get?_watched_poll d files key
    rw [h, Option.map_some] at h'
    rw [channel_of_get?_eq_some _ key h', channel_of_get?_eq_some _ key h]
    exact w.channel_see key (d.read files key)

end Directory

/-! ## Either source -/

namespace Source

theorem subscribe_directory (d : Directory) {files : FileTree} {key : String}
    {text : Option String} (h : d.read files key = .ok text) :
    (directory d).subscribe files key =
      .ok ({ key, initial := text, receiver := (d.channel key).subscribe },
        directory { d with
          watched := d.watched.insert key { last := text, channel := d.channel key } }) := by
  simp only [subscribe, Directory.subscribe, h]
  rfl

theorem subscribe_directory_error (d : Directory) {files : FileTree} {key : String}
    {e : SourceError} (h : d.read files key = .error e) :
    (directory d).subscribe files key = .error e := by
  simp only [subscribe, Directory.subscribe, h]
  rfl

/-- The second source is the first one after `sub` has subscribed to the key. -/
structure Joined (s s' : Source) (files : FileTree) (key : String) (sub : Subscription) : Prop where
  initial : s.read files key = .ok sub.initial
  key_eq : sub.key = key
  receiver : sub.receiver = (s.channel key).subscribe
  subscribed : s'.Subscribed key
  capacity : s'.capacity = s.capacity
  isMemory : s'.isMemory = s.isMemory
  channel : ∀ k, s'.channel k = s.channel k
  read : ∀ files k, s'.read files k = s.read files k

theorem joined_of_subscribe {s s' : Source} {files : FileTree} {key : String} {sub : Subscription}
    (h : s.subscribe files key = .ok (sub, s')) : Joined s s' files key sub := by
  cases s with
  | memory m =>
    simp only [subscribe, Except.ok.injEq, Prod.mk.injEq] at h
    obtain ⟨rfl, rfl⟩ := h
    exact ⟨rfl, rfl, rfl, by simp [Subscribed, Memory.subscribe], rfl, rfl,
      fun k => m.channel_subscribe k key, fun _ _ => rfl⟩
  | directory d =>
    cases hr : d.read files key with
    | error e =>
      rw [subscribe_directory_error d hr] at h
      cases h
    | ok initial =>
      rw [subscribe_directory d hr] at h
      simp only [Except.ok.injEq, Prod.mk.injEq] at h
      obtain ⟨rfl, rfl⟩ := h
      refine ⟨hr, rfl, rfl, by simp [Subscribed], rfl, rfl, fun k => ?_, fun _ _ => rfl⟩
      by_cases hk : k = key
      · subst hk
        simp [channel, Directory.channel]
      · simp [channel, Directory.channel, hk]

end Source

namespace Feed

variable (f : Feed) (e : Source.Event) (key : String)

/-- One step sends at most one change of the key. -/
theorem step_channel :
    (f.step e).source.channel key = f.source.channel key ∨
      ∃ change : Change, change.key = key ∧
        (f.step e).source.channel key = (f.source.channel key).send change := by
  obtain ⟨files, s, subs⟩ := f
  cases e with
  | publish k text =>
    cases s with
    | directory d => exact Or.inl rfl
    | memory m =>
      simp only [step, Source.channel, Memory.channel_publish]
      split
      · next h => exact Or.inr ⟨_, h.1, rfl⟩
      · exact Or.inl rfl
  | remove k =>
    cases s with
    | directory d => exact Or.inl rfl
    | memory m =>
      simp only [step, Source.channel, Memory.channel_remove]
      split
      · next h => exact Or.inr ⟨_, h.1, rfl⟩
      · exact Or.inl rfl
  | subscribe k =>
    simp only [step]
    split
    · next h => exact Or.inl ((Source.joined_of_subscribe h).channel key)
    · exact Or.inl rfl
  | edit files => exact Or.inl rfl
  | poll =>
    cases s with
    | memory m => exact Or.inl rfl
    | directory d => exact d.channel_poll files key

theorem isMemory_step : (f.step e).source.isMemory = f.source.isMemory := by
  obtain ⟨files, s, subs⟩ := f
  cases e with
  | subscribe k =>
    simp only [step]
    split
    · next h => exact (Source.joined_of_subscribe h).isMemory
    · rfl
  | publish k text => cases s <;> rfl
  | remove k => cases s <;> rfl
  | poll => cases s <;> rfl
  | edit files => rfl

/-- A step of a source in memory changes the text of a key with subscribers exactly when it sends a
change, and that has the new text. -/
theorem step_memory {m : Memory} (hm : f.source = .memory m)
    (hs : (m.channels.get? key).isSome) :
    ∃ m', (f.step e).source = .memory m' ∧ (m'.channels.get? key).isSome ∧
      (m'.channel key = m.channel key ∧ m'.get? key = m.get? key ∨
        ∃ change : Change, m'.channel key = (m.channel key).send change ∧
          m'.get? key = change.value) := by
  obtain ⟨files, s, subs⟩ := f
  obtain rfl : s = .memory m := hm
  cases e with
  | publish k text =>
    refine ⟨m.publish k text, rfl, ?_, ?_⟩
    · rw [m.isSome_channels_publish]
      exact hs
    · rw [m.channel_publish, m.get?_publish]
      by_cases hk : k = key
      · rw [if_pos ⟨hk, hs⟩, if_pos hk.symm]
        exact Or.inr ⟨_, rfl, rfl⟩
      · rw [if_neg fun h => hk h.1, if_neg (Ne.symm hk)]
        exact Or.inl ⟨rfl, rfl⟩
  | remove k =>
    refine ⟨m.remove k, rfl, ?_, ?_⟩
    · rw [m.isSome_channels_remove]
      exact hs
    · rw [m.channel_remove, m.get?_remove]
      by_cases hk : k = key
      · subst hk
        by_cases ht : (m.get? k).isSome
        · rw [if_pos ⟨rfl, ht, hs⟩, if_pos rfl]
          exact Or.inr ⟨_, rfl, rfl⟩
        · rw [if_neg fun h => ht h.2.1, if_pos rfl]
          exact Or.inl ⟨rfl, (by simpa using ht : m.get? k = none).symm⟩
      · rw [if_neg fun h => hk h.1, if_neg (Ne.symm hk)]
        exact Or.inl ⟨rfl, rfl⟩
  | subscribe k =>
    refine ⟨(m.subscribe k).2, rfl, ?_, Or.inl ⟨m.channel_subscribe key k, rfl⟩⟩
    simp only [Memory.subscribe, Dict.get?_insert]
    split
    · rfl
    · exact hs
  | edit files => exact ⟨m, rfl, hs, Or.inl ⟨rfl, rfl⟩⟩
  | poll => exact ⟨m, rfl, hs, Or.inl ⟨rfl, rfl⟩⟩

theorem capacity_step_channel :
    ((f.step e).source.channel key).capacity = (f.source.channel key).capacity := by
  rcases f.step_channel e key with h | ⟨change, -, h⟩ <;> rw [h]
  rfl

theorem closed_step_channel :
    ((f.step e).source.channel key).closed = (f.source.channel key).closed := by
  rcases f.step_channel e key with h | ⟨change, -, h⟩ <;> rw [h]
  rfl

end Feed

theorem Source.IsNew.channel {s : Source} (h : s.IsNew) (key : String) :
    s.channel key = .ofCapacity s.capacity := by
  cases s with
  | memory m => simp [Source.channel, Memory.channel, h.2, capacity]
  | directory d =>
    have hd : d.watched = .empty := h
    simp [Source.channel, Directory.channel, hd, capacity]

/-- The channels of a source are as large as it was told, and stay open. -/
theorem Feed.run_capacity {s : Source} (hs : s.IsNew) (files : FileTree)
    (es : List Source.Event) (key : String) :
    let c := ((Feed.run { files, source := s } es).source.channel key)
    c.capacity = s.capacity.nextPowerOfTwo ∧ c.closed = false := by
  refine run_induction (P := fun f => (f.source.channel key).capacity = s.capacity.nextPowerOfTwo ∧
    (f.source.channel key).closed = false) (fun f e hf => ?_) ?_ es
  · rw [capacity_step_channel, closed_step_channel]
    exact hf
  · rw [hs.channel key]
    exact ⟨rfl, rfl⟩

end CallRouting
