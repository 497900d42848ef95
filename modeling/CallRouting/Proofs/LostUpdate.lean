import CallRouting.Proofs.SourceRun
import Mathlib.Data.List.Induction

/-!
# Updates that a folder keeps from a subscriber

All subscribers of a key share what the folder last read for it. A poll compares with that, and so
does not tell an earlier subscriber of a text that a later one was given when it subscribed.

* `Subscription.known` : the text that a subscriber knows once it has taken all its notices;
* `Feed.Watches`, `Watched.after` : what each event does to a watched key;
* `Feed.readings` : what polls and subscriptions find in the course of a run;
* `Feed.known_poll_ne_iff` : a poll keeps a text from a subscriber exactly when it is the one that
  was read last and the subscriber knows another;
* `Feed.Overtaken` : over whole runs, that is when someone else has subscribed since and was given
  that text, and nobody has found another one after that.
-/

namespace CallRouting

deriving instance DecidableEq for Subscription

/-! ## What a subscriber knows -/

/-- The text that a subscriber knows once it has taken all its notices: the one of the last change
since it subscribed, or else the one that it was given then. -/
def Subscription.known (sub : Subscription) (c : Channel Change) : Option String :=
  match (c.since sub.receiver.next).getLast? with
  | some change => change.value
  | none => sub.initial

namespace Subscription

variable (sub : Subscription) (c : Channel Change)

theorem known_of_next_eq (h : sub.receiver.next = c.sent) : sub.known c = sub.initial := by
  rw [known, h, Channel.since_sent, List.getLast?_nil]

theorem known_send (hc : 0 < c.capacity) (h : sub.receiver.next ≤ c.sent) (change : Change) :
    sub.known (c.send change) = change.value := by
  rw [known, Channel.getLast?_since, Channel.sent_send, if_pos (by omega),
    Channel.getLast?_recent_send c change hc]

/-- It is what the last of the notices says that the subscriber finds in the channel. -/
theorem known_eq_drain (hc : 0 < c.capacity) (h : sub.receiver.next ≤ c.sent) :
    sub.known c = match (c.drain sub.receiver).1.getLast? with
      | some (.message change) => change.value
      | _ => sub.initial := by
  rw [Channel.getLast?_drain c hc sub.receiver h, known]
  cases (c.since sub.receiver.next).getLast? <;> rfl

end Subscription

/-! ## Watched keys -/

/-- The source is a folder, and this is what it holds for the key. -/
def Feed.Watches (f : Feed) (key : String) (w : Watched) : Prop :=
  ∃ d, f.source = .directory d ∧ d.watched.get? key = some w

/-- Whether an event reads the file of the key. -/
def Source.Event.reads (key : String) : Source.Event → Bool
  | .poll => true
  | .subscribe k => k = key
  | _ => false

/-- What an event leaves of a watched key, given what reading it gives. -/
def Watched.after (w : Watched) (key : String) (read : Except SourceError (Option String)) :
    Source.Event → Watched
  | .poll => (w.see key read).1
  | .subscribe k =>
    match read with
    | .ok text => if k = key then { w with last := text } else w
    | .error _ => w
  | _ => w

theorem Watched.see_of_last_eq {w : Watched} {key : String}
    {read : Except SourceError (Option String)} (h : ∀ text, read = .ok text → text = w.last) :
    (w.see key read).1 = w := by
  unfold see
  split
  · rfl
  · next text => rw [if_pos (h text rfl)]

theorem Watched.after_of_last_eq {w : Watched} {key : String}
    {read : Except SourceError (Option String)} {e : Source.Event}
    (h : e.reads key → ∀ text, read = .ok text → text = w.last) : w.after key read e = w := by
  cases e with
  | poll => exact see_of_last_eq (h rfl)
  | subscribe k =>
    cases read with
    | error e => rfl
    | ok text =>
      simp only [after]
      split
      · next hk => rw [h (decide_eq_true hk) text rfl]
      · rfl
  | publish | remove | edit => rfl

namespace Feed

theorem Watches.channel {f : Feed} {key : String} {w : Watched} (h : f.Watches key w) :
    f.source.channel key = w.channel := by
  obtain ⟨d, hd, hw⟩ := h
  rw [hd]
  exact d.channel_of_get?_eq_some key hw

theorem Watches.unique {f : Feed} {key : String} {w w' : Watched} (h : f.Watches key w)
    (h' : f.Watches key w') : w = w' := by
  obtain ⟨d, hd, hw⟩ := h
  obtain ⟨d', hd', hw'⟩ := h'
  obtain rfl : d = d' := Source.directory.inj (hd.symm.trans hd')
  exact Option.some.inj (hw.symm.trans hw')

theorem Watches.step {f : Feed} {key : String} {w : Watched} (h : f.Watches key w)
    (e : Source.Event) :
    (f.step e).Watches key (w.after key (f.source.read f.files key) e) := by
  obtain ⟨d, hd, hw⟩ := h
  obtain ⟨files, s, subs⟩ := f
  obtain rfl : s = .directory d := hd
  cases e with
  | publish k text => exact ⟨d, rfl, hw⟩
  | remove k => exact ⟨d, rfl, hw⟩
  | edit files => exact ⟨d, rfl, hw⟩
  | poll =>
    refine ⟨_, rfl, ?_⟩
    rw [Directory.get?_watched_poll, hw]
    rfl
  | subscribe k =>
    cases hr : d.read files k with
    | error e =>
      simp only [Feed.step, Source.subscribe_directory_error d hr, Watched.after, Source.read]
      refine ⟨d, rfl, ?_⟩
      split
      · next text hk =>
        have : k ≠ key := fun h => by
          rw [h, hk] at hr
          cases hr
        rw [if_neg this, hw]
      · exact hw
    | ok initial =>
      simp only [Feed.step, Source.subscribe_directory d hr, Watched.after, Source.read]
      refine ⟨_, rfl, ?_⟩
      by_cases hk : k = key
      · subst hk
        simp [hr, Directory.channel, hw]
      · have : key ≠ k := Ne.symm hk
        simp only [Dict.get?_insert, if_neg this, hw, if_neg hk]
        split <;> rfl

theorem Watches.last_of_subscribe {f : Feed} {key : String} {text : Option String} {w : Watched}
    (h : (f.step (.subscribe key)).Watches key w) (hr : f.source.read f.files key = .ok text) :
    w.last = text := by
  obtain ⟨d', hd', hw⟩ := h
  obtain ⟨files, s, subs⟩ := f
  cases s with
  | memory m => cases hd'
  | directory d =>
    have hr : d.read files key = .ok text := hr
    simp only [Feed.step, Source.subscribe_directory d hr, Source.directory.injEq] at hd'
    subst hd'
    simp only [Dict.get?_insert, if_true, Option.some.injEq] at hw
    rw [← hw]

/-- What polls and subscriptions find for the key in the course of a run. -/
def readings (key : String) : Feed → List Source.Event → List (Option String)
  | _, [] => []
  | f, e :: es =>
    (if e.reads key then (f.source.read f.files key).toOption.toList else []) ++
      readings key (f.step e) es

theorem readings_append (key : String) (f : Feed) (es es' : List Source.Event) :
    f.readings key (es ++ es') = f.readings key es ++ (f.run es).readings key es' := by
  induction es generalizing f with
  | nil => rfl
  | cons e es ih =>
    simp only [List.cons_append, readings, ih, List.append_assoc]
    rfl

/-- A key that is always found the way it was last read stays as it is. -/
theorem Watches.run {f : Feed} {key : String} {w : Watched} (h : f.Watches key w)
    (es : List Source.Event) (hr : ∀ text ∈ f.readings key es, text = w.last) :
    (f.run es).Watches key w := by
  induction es generalizing f with
  | nil => exact h
  | cons e es ih =>
    simp only [readings, List.mem_append] at hr
    have hstep := h.step e
    rw [Watched.after_of_last_eq (w := w) (fun he text ht => hr text (Or.inl (by
      rw [if_pos he, ht]
      exact List.mem_singleton_self text)))] at hstep
    exact ih hstep fun text ht => hr text (Or.inr ht)

/-- After a poll that could read the file, a subscriber does not know what is in it exactly when the
folder has read that before and the subscriber did not know it then. -/
theorem known_poll_ne_iff {f : Feed} {w : Watched} {sub : Subscription} {text : Option String}
    (h : f.Watches sub.key w) (hc : 0 < w.channel.capacity)
    (hn : sub.receiver.next ≤ w.channel.sent) (hr : f.source.read f.files sub.key = .ok text) :
    sub.known ((f.step .poll).source.channel sub.key) ≠ text ↔
      w.last = text ∧ sub.known w.channel ≠ text := by
  rw [(h.step .poll).channel, hr]
  simp only [Watched.after, Watched.see]
  by_cases he : text = w.last
  · rw [if_pos he, and_iff_right he.symm]
  · rw [if_neg he, Subscription.known_send sub w.channel hc hn]
    exact ⟨fun hne => absurd rfl hne, fun hne => absurd hne.1.symm he⟩

/-! ## Subscribers of a folder -/

theorem subs_step_of_ne {f : Feed} {e : Source.Event} (h : ∀ k, e ≠ .subscribe k) :
    (f.step e).subs = f.subs := by
  obtain ⟨files, s, subs⟩ := f
  cases e with
  | subscribe k => exact absurd rfl (h k)
  | publish k text => cases s <;> rfl
  | remove k => cases s <;> rfl
  | poll => cases s <;> rfl
  | edit files => rfl

theorem mem_subs_step {f : Feed} {e : Source.Event} {sub : Subscription}
    (h : sub ∈ (f.step e).subs) :
    sub ∈ f.subs ∨ e = .subscribe sub.key ∧
      Source.Joined f.source (f.step e).source f.files sub.key sub := by
  by_cases he : ∃ k, e = .subscribe k
  · obtain ⟨k, rfl⟩ := he
    cases hs : f.source.subscribe f.files k with
    | error _ =>
      simp only [step, hs] at h
      exact Or.inl h
    | ok p =>
      obtain ⟨new, s'⟩ := p
      have hj := Source.joined_of_subscribe hs
      simp only [step, hs] at h ⊢
      rcases List.mem_append.1 h with h | h
      · exact Or.inl h
      · obtain rfl := List.mem_singleton.1 h
        obtain rfl := hj.key_eq
        exact Or.inr ⟨rfl, hj⟩
  · rw [subs_step_of_ne fun k hk => he ⟨k, hk⟩] at h
    exact Or.inl h

/-- Every subscriber reads a watched key, and from a position that there has been. -/
structure Sound (f : Feed) : Prop where
  isMemory : f.source.isMemory = false
  watches : ∀ sub ∈ f.subs, ∃ w, f.Watches sub.key w ∧ sub.receiver.next ≤ w.channel.sent

theorem Sound.step {f : Feed} (h : f.Sound) (e : Source.Event) : (f.step e).Sound where
  isMemory := (f.isMemory_step e).trans h.isMemory
  watches sub hs := by
    rcases mem_subs_step hs with hs | ⟨-, hj⟩
    · obtain ⟨w, hw, hn⟩ := h.watches sub hs
      refine ⟨_, hw.step e, ?_⟩
      rw [← (hw.step e).channel]
      rcases f.step_channel e sub.key with hc | ⟨change, -, hc⟩
      · rw [hc, hw.channel]
        exact hn
      · rw [hc, hw.channel, Channel.sent_send]
        omega
    · obtain ⟨d, hd⟩ := (Source.isMemory_eq_false_iff _).1 ((f.isMemory_step e).trans h.isMemory)
      have hsub := hj.subscribed
      rw [hd] at hsub
      obtain ⟨w, hw⟩ := Option.isSome_iff_exists.1 hsub
      have hw : (f.step e).Watches sub.key w := ⟨d, hd, hw⟩
      refine ⟨w, hw, ?_⟩
      rw [hj.receiver, ← hj.channel, hw.channel]
      exact Nat.le_refl _

theorem Sound.run {f : Feed} (h : f.Sound) (es : List Source.Event) : (f.run es).Sound :=
  run_induction (fun _ e h => h.step e) h es

/-! ## Overtaken subscribers -/

/-- What holds of a folder as long as nobody has subscribed. -/
structure Begins (start : Feed) : Prop where
  sound : start.Sound
  subs : start.subs = []
  capacity : ∀ es key, 0 < ((start.run es).source.channel key).capacity

/-- The folder `dir` of a file tree. -/
def ofFolder (files : FileTree) (dir : String) (capacity : Nat) : Feed where
  files
  source := .directory { dir, capacity }

theorem begins_ofFolder (files : FileTree) (dir : String) (capacity : Nat) :
    (ofFolder files dir capacity).Begins where
  sound := ⟨rfl, nofun⟩
  subs := rfl
  capacity es key := by
    rw [ofFolder, (run_capacity (s := .directory { dir, capacity }) rfl files es key).1]
    exact Channel.capacity_ofCapacity_pos (α := Change) capacity

variable {start : Feed} {es : List Source.Event} {sub : Subscription} {text : Option String}

/-- In the course of the run someone else subscribed to the key of a subscriber that did not know
the text at that time, and was given it; since then nobody has found another one. -/
def Overtaken (start : Feed) (es : List Source.Event) (sub : Subscription)
    (text : Option String) : Prop :=
  ∃ before after,
    es = before ++ .subscribe sub.key :: after ∧
    sub ∈ (start.run before).subs ∧
    (start.run before).source.read (start.run before).files sub.key = .ok text ∧
    sub.known ((start.run before).source.channel sub.key) ≠ text ∧
    ∀ t ∈ (start.run (before ++ [.subscribe sub.key])).readings sub.key after, t = text

theorem Overtaken.snoc (h : Overtaken start es sub text) {e : Source.Event}
    (he : e.reads sub.key → ∀ t,
      (start.run es).source.read (start.run es).files sub.key = .ok t → t = text) :
    Overtaken start (es ++ [e]) sub text := by
  obtain ⟨before, after, rfl, hsub, hread, hne, hlast⟩ := h
  refine ⟨before, after ++ [e], by simp, hsub, hread, hne, fun t ht => ?_⟩
  rw [readings_append, List.mem_append] at ht
  rcases ht with ht | ht
  · exact hlast t ht
  · rw [← run_append, List.append_assoc, List.singleton_append] at ht
    simp only [readings, List.append_nil] at ht
    split at ht
    · next hr =>
      refine he hr t ?_
      cases hread : (start.run (before ++ .subscribe sub.key :: after)).source.read
          (start.run (before ++ .subscribe sub.key :: after)).files sub.key with
      | error _ => simp [hread, Except.toOption] at ht
      | ok t' =>
        simp only [hread, Except.toOption, Option.toList_some, List.mem_singleton] at ht
        rw [ht]
    · cases ht

/-- A subscriber that does not know what was last read for its key has been overtaken. -/
theorem overtaken_of_ne_last (hstart : start.Begins) {w : Watched}
    (hsub : sub ∈ (start.run es).subs) (hw : (start.run es).Watches sub.key w)
    (hne : sub.known w.channel ≠ w.last) : Overtaken start es sub w.last := by
  induction es using List.reverseRecOn generalizing w with
  | nil =>
    simp only [run, List.foldl_nil, hstart.subs] at hsub
    cases hsub
  | append_singleton es e ih =>
    rw [run_append] at hsub hw
    rcases mem_subs_step hsub with hold | ⟨rfl, hj⟩
    · -- The subscriber was there before the step, and its key was watched.
      obtain ⟨v, hv, hn⟩ := (hstart.sound.run es).watches sub hold
      obtain rfl := hw.unique (hv.step e)
      by_cases hlast : e.reads sub.key → ∀ t,
          (start.run es).source.read (start.run es).files sub.key = .ok t → t = v.last
      · rw [Watched.after_of_last_eq hlast] at hne ⊢
        exact (ih hold hv hne).snoc hlast
      · simp only [not_forall] at hlast
        obtain ⟨he, t, hread, ht⟩ := hlast
        simp only [hread] at hne ⊢
        cases e with
        | poll =>
          have hc := hstart.capacity es sub.key
          rw [hv.channel] at hc
          simp only [Watched.after, Watched.see, if_neg ht, Subscription.known_send sub _ hc hn,
            ne_eq, not_true] at hne
        | subscribe k =>
          obtain rfl : k = sub.key := of_decide_eq_true he
          simp only [Watched.after, if_true] at hne ⊢
          rw [← hv.channel] at hne
          exact ⟨es, [], rfl, hold, hread, hne, nofun⟩
        | publish | remove | edit => cases he
    · -- Whoever has just subscribed knows what was read for it.
      have hw : ((start.run es).step (.subscribe sub.key)).Watches sub.key w := hw
      rw [hw.last_of_subscribe hj.initial, ← hw.channel, hj.channel] at hne
      exact absurd (Subscription.known_of_next_eq sub _ (by rw [hj.receiver]; rfl)) hne

/-- **When a folder keeps a text from a subscriber.** After a poll that finds a text for its key, a
subscriber does not know that text exactly when it has been overtaken on it. -/
theorem unaware_iff_overtaken (files : FileTree) (dir : String) (capacity : Nat)
    (es : List Source.Event) (sub : Subscription) (text : Option String)
    (hsub : sub ∈ ((ofFolder files dir capacity).run es).subs)
    (hread : ((ofFolder files dir capacity).run es).source.read
      ((ofFolder files dir capacity).run es).files sub.key = .ok text) :
    sub.known (((ofFolder files dir capacity).run (es ++ [.poll])).source.channel sub.key) ≠ text ↔
      Overtaken (ofFolder files dir capacity) es sub text := by
  have hstart := begins_ofFolder files dir capacity
  generalize ofFolder files dir capacity = start at *
  obtain ⟨w, hw, hn⟩ := (hstart.sound.run es).watches sub hsub
  have hc := hstart.capacity es sub.key
  rw [hw.channel] at hc
  rw [run_append]
  refine (known_poll_ne_iff hw hc hn hread).trans ⟨?_, ?_⟩
  · rintro ⟨rfl, hne⟩
    exact overtaken_of_ne_last hstart hsub hw hne
  · rintro ⟨before, after, rfl, hsub', hread', hne, hlast⟩
    obtain ⟨v, hv, -⟩ := (hstart.sound.run before).watches sub hsub'
    -- The other subscriber leaves the text as the one that was read last, and so does the rest.
    have hjoin := hv.step (.subscribe sub.key)
    simp only [hread', Watched.after, if_true] at hjoin
    have hend := hjoin.run after (by rwa [run_append] at hlast)
    obtain rfl := hw.unique (by rwa [run_append])
    rw [hv.channel] at hne
    exact ⟨rfl, hne⟩

/-- One subscriber, a first text for its key, and another subscriber. -/
def secondJoins : List Source.Event :=
  [.subscribe "k", .edit { entries := ⟨[("rules", .folder), ("rules/k.yaml", .file [118, 49])]⟩ },
    .subscribe "k"]

def noTexts : FileTree := { entries := ⟨[("rules", .folder)]⟩ }

theorem overtaken_secondJoins :
    Overtaken (ofFolder noTexts "rules" 16) secondJoins ⟨"k", none, ⟨0⟩⟩ (some "v1") :=
  (unaware_iff_overtaken noTexts "rules" 16 secondJoins ⟨"k", none, ⟨0⟩⟩ (some "v1")
    (by decide +kernel) (by decide +kernel)).1 (by decide +kernel)

/-- After every poll that finds a text for its key, each subscriber that has missed no notice knows
that text. -/
def Informs (start : Feed) : Prop :=
  ∀ es, ∀ sub ∈ (start.run es).subs, ∀ text,
    (start.run es).source.read (start.run es).files sub.key = .ok text →
    let c := (start.run (es ++ [.poll])).source.channel sub.key
    c.oldest ≤ sub.receiver.next → sub.known c = text

/-- Not every folder informs its subscribers: the first of two never hears of the text that the
second was given. -/
theorem not_informs : ¬ ∀ files dir capacity, (ofFolder files dir capacity).Informs := by
  intro h
  have h1 := h noTexts "rules" 16 secondJoins ⟨"k", none, ⟨0⟩⟩ (by decide +kernel) (some "v1")
    (by decide +kernel) (by decide +kernel)
  revert h1
  decide +kernel

end Feed
end CallRouting
