import CallRouting.Proofs.DictOrder
import CallRouting.Proofs.LostUpdate
import CallRouting.Proofs.Streams
import Mathlib.Data.Finset.Card
import Mathlib.Data.List.Destutter

/-!
# What polls report

A poll tells the subscribers of a key what is new in its file, and passes over a file that it cannot
read. So the changes that are sent for a key with one subscription are the turns of its file from
one readable state to the next different one, and an outage leaves no trace.

* `Feed.polled`, `Feed.sent` : what polls find for a key in the course of a run, and which changes
  of it are sent;
* `states` : the readable ones of these findings, without immediate repetitions;
* `Feed.reports_run` : while nobody subscribes to a watched key, the changes sent are the turns from
  one of its states to the next;
* `Feed.withoutOutages` : a run without the polls that cannot read the file of a key; by
  `Feed.sent_withoutOutages` the same changes of it are sent;
* `Feed.changed`, `Feed.Records.changed_eq` : a poll answers how many keys differ from what was last
  read;
* `Feed.polls_report` : all of this for one run of a folder.
-/

namespace CallRouting

open Channel (Carries)

/-- The texts that could be read, after a first one, without immediate repetitions. -/
def states (initial : Option String) (found : List (Except SourceError (Option String))) :
    List (Option String) :=
  (initial :: found.filterMap Except.toOption).destutter (· ≠ ·)

namespace Feed

/-! ## Runs seen from one key -/

/-- What each poll finds for the key in the course of a run. -/
def polled (key : String) : Feed → List Source.Event → List (Except SourceError (Option String))
  | _, [] => []
  | f, .poll :: es => f.source.read f.files key :: polled key (f.step .poll) es
  | f, e :: es => polled key (f.step e) es

/-- The changes of the key that are sent in the course of a run. -/
def sent (key : String) : Feed → List Source.Event → List Change
  | _, [] => []
  | f, e :: es =>
    ((f.step e).source.channel key).since (f.source.channel key).sent ++ sent key (f.step e) es

/-- The events of a run without the polls that cannot read the file of the key. -/
def withoutOutages (key : String) : Feed → List Source.Event → List Source.Event
  | _, [] => []
  | f, .poll :: es =>
    (if (f.source.read f.files key).isOk then [.poll] else []) ++
      withoutOutages key (f.step .poll) es
  | f, e :: es => e :: withoutOutages key (f.step e) es

/-- All that is sent in the course of a run is what the channel carries in addition. -/
theorem carries_sent {f : Feed} {key : String} {base : Nat} {log : List Change}
    (h : (f.source.channel key).Carries base log) (hc : 0 < (f.source.channel key).capacity)
    (es : List Source.Event) :
    ((f.run es).source.channel key).Carries base (log ++ f.sent key es) := by
  induction es generalizing f log with
  | nil =>
    rw [sent, List.append_nil]
    exact h
  | cons e es ih =>
    have hc' : 0 < ((f.step e).source.channel key).capacity := by
      rwa [capacity_step_channel]
    rw [sent, ← List.append_assoc]
    refine ih ?_ hc'
    rcases f.step_channel e key with hs | ⟨change, -, hs⟩
    · rw [hs, Channel.since_sent, List.append_nil]
      exact h
    · rw [hs, Channel.since_send _ _ hc]
      exact h.send hc change

/-! ## One subscription -/

theorem subs_prefix_step (f : Feed) (e : Source.Event) : f.subs <+: (f.step e).subs := by
  by_cases he : ∃ k, e = .subscribe k
  · obtain ⟨k, rfl⟩ := he
    simp only [step]
    split
    · exact List.prefix_append _ _
    · exact List.prefix_refl _
  · rw [subs_step_of_ne fun k hk => he ⟨k, hk⟩]

theorem subs_prefix_run (f : Feed) (es : List Source.Event) : f.subs <+: (f.run es).subs := by
  induction es generalizing f with
  | nil => exact List.prefix_refl _
  | cons e es ih => exact (f.subs_prefix_step e).trans (ih (f.step e))

/-- The subscriptions to the key. -/
def subsOf (f : Feed) (key : String) : List Subscription := f.subs.filter (·.key = key)

/-- If a run brings no subscription to the key, neither does its first step, nor the rest. -/
theorem subsOf_step_of_run {f : Feed} {key : String} {e : Source.Event} {es : List Source.Event}
    (h : (f.run (e :: es)).subsOf key = f.subsOf key) :
    (f.step e).subsOf key = f.subsOf key ∧
      ((f.step e).run es).subsOf key = (f.step e).subsOf key := by
  have hfirst : f.subsOf key <+: (f.step e).subsOf key := (f.subs_prefix_step e).filter _
  have hrest : (f.step e).subsOf key <+: ((f.step e).run es).subsOf key :=
    ((f.step e).subs_prefix_run es).filter _
  have hrun : ((f.step e).run es).subsOf key = f.subsOf key := h
  have hstep : (f.step e).subsOf key = f.subsOf key :=
    (hfirst.eq_of_length_le (hrun ▸ hrest.length_le)).symm
  exact ⟨hstep, hrun.trans hstep.symm⟩

/-- Unless somebody subscribes to it, only a poll does anything to a watched key. -/
theorem Watches.step_of_subsOf {f : Feed} {key : String} {w : Watched} (h : f.Watches key w)
    {e : Source.Event} (hs : (f.step e).subsOf key = f.subsOf key) (he : e ≠ .poll) :
    (f.step e).Watches key w := by
  have hstep := h.step e
  cases e with
  | poll => exact absurd rfl he
  | publish | remove | edit => exact hstep
  | subscribe k =>
    simp only [Watched.after] at hstep
    cases hr : f.source.read f.files key with
    | error _ => rwa [hr] at hstep
    | ok text =>
      rw [hr] at hstep
      by_cases hk : k = key
      · -- The key can be read, so the subscription succeeds and is one more.
        subst hk
        obtain ⟨d, hd, -⟩ := h
        rw [hd] at hr
        have hlen := congrArg List.length hs
        simp only [Feed.step, hd, Source.subscribe_directory d hr, subsOf, List.filter_append,
          List.filter_singleton, decide_true, cond_true, List.length_append,
          List.length_singleton] at hlen
        omega
      · simp only [if_neg hk] at hstep
        exact hstep

/-! ## What is sent -/

theorem reports_turn (key : String) (old new : Option String) (h : new ≠ old) :
    Change.Reports key (old, new) { key, value := new, kind := .between old new } := by
  cases old <;> cases new <;> constructor <;> simp_all [ChangeKind.between]

theorem destutter'_eq_cons {α : Type} {R : α → α → Prop} [DecidableRel R] (a : α) (l : List α) :
    ∃ t, l.destutter' R a = a :: t := by
  induction l with
  | nil => exact ⟨[], rfl⟩
  | cons b l ih =>
    by_cases h : R a b
    · exact ⟨_, List.destutter'_cons_pos _ h⟩
    · rw [List.destutter'_cons_neg _ h]
      exact ih

theorem states_error (initial : Option String) (e : SourceError)
    (found : List (Except SourceError (Option String))) :
    states initial (.error e :: found) = states initial found := rfl

theorem states_same (initial : Option String) (found : List (Except SourceError (Option String))) :
    states initial (.ok initial :: found) = states initial found :=
  List.destutter'_cons_neg _ (not_not.2 rfl)

theorem states_turn {initial text : Option String} (h : text ≠ initial)
    (found : List (Except SourceError (Option String))) :
    states initial (.ok text :: found) = initial :: states text found :=
  List.destutter'_cons_pos _ h.symm

/-- The states of a key begin with the first one. -/
theorem states_eq_cons (initial : Option String)
    (found : List (Except SourceError (Option String))) :
    ∃ later, states initial found = initial :: later :=
  destutter'_eq_cons _ _

/-- As long as nobody subscribes to a watched key, each turn of its file from one readable state to
another is reported, and nothing else. -/
theorem reports_run {f : Feed} {key : String} {w : Watched} (h : f.Watches key w)
    (hc : 0 < w.channel.capacity) {es : List Source.Event}
    (hs : (f.run es).subsOf key = f.subsOf key) :
    List.Forall₂ (Change.Reports key)
      ((states w.last (f.polled key es)).zip (states w.last (f.polled key es)).tail)
      (f.sent key es) := by
  induction es generalizing f w with
  | nil => exact .nil
  | cons e es ih =>
    obtain ⟨hfirst, hrest⟩ := subsOf_step_of_run hs
    by_cases he : e = .poll
    · subst he
      have hstep := h.step .poll
      simp only [polled, sent, hstep.channel, h.channel]
      simp only [Watched.after, Watched.see] at hstep ⊢
      cases hr : f.source.read f.files key with
      | error e =>
        simp only [hr] at hstep ⊢
        rw [Channel.since_sent, states_error]
        exact ih hstep hc hrest
      | ok text =>
        simp only [hr] at hstep ⊢
        by_cases ht : text = w.last
        · subst ht
          rw [if_pos rfl] at hstep ⊢
          rw [Channel.since_sent, states_same]
          exact ih hstep hc hrest
        · rw [if_neg ht] at hstep ⊢
          obtain ⟨later, hl⟩ := states_eq_cons text (polled key (f.step .poll) es)
          have ih := ih hstep hc hrest
          simp only [hl] at ih
          rw [Channel.since_send _ _ hc, states_turn ht, hl]
          exact .cons (reports_turn key w.last text ht) ih
    · have hstep := h.step_of_subsOf hfirst he
      have hpolled : polled key f (e :: es) = polled key (f.step e) es := by
        cases e <;> first | rfl | exact absurd rfl he
      rw [hpolled, sent, hstep.channel, h.channel, Channel.since_sent]
      exact ih hstep hc hrest

/-! ## Outages -/

/-- Two feeds that read alike and have the same of the key. -/
structure Agree (key : String) (f g : Feed) : Prop where
  files : f.files = g.files
  read : ∀ files, f.source.read files key = g.source.read files key
  watches : ∃ w, f.Watches key w ∧ g.Watches key w

/-- A folder stays the same folder, so what it would read does not depend on what has happened. -/
theorem read_step (f : Feed) (hf : f.source.isMemory = false) (e : Source.Event)
    (files : FileTree) (key : String) :
    (f.step e).source.read files key = f.source.read files key := by
  obtain ⟨d, hd⟩ := (Source.isMemory_eq_false_iff _).1 hf
  obtain ⟨files', s, subs⟩ := f
  obtain rfl : s = .directory d := hd
  cases e with
  | subscribe k =>
    simp only [step]
    split
    · next h => exact (Source.joined_of_subscribe h).read files key
    · rfl
  | publish | remove | edit | poll => rfl

/-- The files are those of the last edit. -/
theorem files_step (f : Feed) (e : Source.Event) :
    (f.step e).files = match e with
      | .edit files => files
      | _ => f.files := by
  obtain ⟨files, s, subs⟩ := f
  cases e with
  | publish | remove | poll => cases s <;> rfl
  | edit files => rfl
  | subscribe k =>
    simp only [step]
    split <;> rfl

namespace Agree

variable {key : String} {f g : Feed}

theorem isMemory (h : Agree key f g) : f.source.isMemory = false ∧ g.source.isMemory = false := by
  obtain ⟨w, ⟨d, hd, -⟩, ⟨d', hd', -⟩⟩ := h.watches
  rw [hd, hd']
  exact ⟨rfl, rfl⟩

theorem channel (h : Agree key f g) : f.source.channel key = g.source.channel key := by
  obtain ⟨w, hf, hg⟩ := h.watches
  rw [hf.channel, hg.channel]

theorem step (h : Agree key f g) (e : Source.Event) : Agree key (f.step e) (g.step e) where
  files := by
    rw [files_step, files_step, h.files]
  read files := by
    rw [read_step f h.isMemory.1, read_step g h.isMemory.2, h.read]
  watches := by
    obtain ⟨w, hf, hg⟩ := h.watches
    refine ⟨_, hf.step e, ?_⟩
    rw [h.read, h.files]
    exact hg.step e

/-- To one of them, a poll that cannot read the file of the key may happen alone. -/
theorem step_outage (h : Agree key f g) (ho : (f.source.read f.files key).isOk = false) :
    Agree key (f.step .poll) g where
  files := (files_step f .poll).trans h.files
  read files := by
    rw [read_step f h.isMemory.1, h.read]
  watches := by
    obtain ⟨w, hf, hg⟩ := h.watches
    have hstep := hf.step .poll
    cases hr : f.source.read f.files key with
    | ok text =>
      rw [hr] at ho
      cases ho
    | error e =>
      rw [hr] at hstep
      exact ⟨w, hstep, hg⟩

theorem sent_withoutOutages (h : Agree key f g) (es : List Source.Event) :
    f.sent key es = g.sent key (f.withoutOutages key es) := by
  induction es generalizing f g with
  | nil => rfl
  | cons e es ih =>
    have hboth : f.sent key (e :: es) =
        g.sent key (e :: (f.step e).withoutOutages key es) := by
      rw [sent, sent, ih (h.step e), (h.step e).channel, h.channel]
    by_cases he : e = .poll
    · subst he
      rw [withoutOutages]
      by_cases ho : (f.source.read f.files key).isOk
      · rw [if_pos ho]
        exact hboth
      · have ho : (f.source.read f.files key).isOk = false := by simpa using ho
        have hpoll := h.step_outage ho
        rw [ho, if_neg Bool.false_ne_true, List.nil_append, sent, ih hpoll, hpoll.channel,
          ← h.channel, Channel.since_sent, List.nil_append]
    · have hevents : f.withoutOutages key (e :: es) = e :: (f.step e).withoutOutages key es := by
        cases e <;> first | rfl | exact absurd rfl he
      rw [hevents]
      exact hboth

end Agree

/-- Polls that cannot read the file of a watched key do not matter to what is sent for it. -/
theorem Watches.sent_withoutOutages {f : Feed} {key : String} {w : Watched} (h : f.Watches key w)
    (es : List Source.Event) : f.sent key (f.withoutOutages key es) = f.sent key es :=
  (Agree.sent_withoutOutages ⟨rfl, fun _ => rfl, w, h, h⟩ es).symm

/-! ## What a poll answers -/

/-- How many keys a poll finds changed. -/
def changed (f : Feed) : Nat :=
  match f.source with
  | .memory _ => 0
  | .directory d => (d.poll f.files).1

/-- After these events the file of the key can be read, and is not as it was last read. -/
def Differs (start : Feed) (es : List Source.Event) (key : String) : Prop :=
  match (start.run es).source.read (start.run es).files key with
  | .ok text => (start.readings key es).getLast? ≠ some text
  | .error _ => False

instance (start : Feed) (es : List Source.Event) : DecidablePred (start.Differs es) := fun key =>
  match h : (start.run es).source.read (start.run es).files key with
  | .ok text => decidable_of_iff ((start.readings key es).getLast? ≠ some text) (by rw [Differs, h])
  | .error _ => isFalse (by rw [Differs, h]; exact not_false)

end Feed

theorem Watched.see_see (w : Watched) (key : String) (read : Except SourceError (Option String)) :
    (w.see key read).1.see key read = ((w.see key read).1, false) := by
  cases read with
  | error e => rfl
  | ok text =>
    by_cases h : text = w.last
    · simp only [see, if_pos h]
    · simp only [see, if_neg h, if_true]

/-- What was last read for a key is what an event has read, if it has read anything. -/
theorem Watched.last_after (w : Watched) (key : String)
    (read : Except SourceError (Option String)) (e : Source.Event) :
    some (w.after key read e).last =
      ((if e.reads key then read.toOption.toList else []).getLast?).or (some w.last) := by
  cases read with
  | error _ => cases e <;> simp [after, see, Source.Event.reads, Except.toOption]
  | ok text =>
    cases e with
    | poll =>
      by_cases h : text = w.last <;>
        simp [after, see, Source.Event.reads, Except.toOption, h]
    | subscribe k =>
      by_cases h : k = key <;> simp [after, Source.Event.reads, Except.toOption, h]
    | publish | remove | edit => simp [after, Source.Event.reads]

namespace Directory

variable (d : Directory) (files : FileTree)

theorem watched_poll :
    (d.poll files).2.watched = d.watched.map fun key w => (w.see key (d.read files key)).1 := by
  rw [poll, Dict.map_map]

theorem poll_fst :
    (d.poll files).1 = d.watched.toList.countP fun e => (e.2.see e.1 (d.read files e.1)).2 := by
  simp only [poll, Dict.toList_map, List.filter_map, List.length_map, List.countP_eq_length_filter]
  rfl

/-- The second of two polls of the same files finds nothing, and does nothing. -/
theorem poll_poll : (d.poll files).2.poll files = (0, (d.poll files).2) := by
  have hread : (d.poll files).2.read files = d.read files := rfl
  refine Prod.ext ?_ ?_
  · rw [poll_fst, watched_poll, Dict.toList_map, List.countP_map, List.countP_eq_zero, hread]
    intro e _
    simp [Watched.see_see]
  · have hwatched : ((d.poll files).2.poll files).2.watched = (d.poll files).2.watched := by
      simp only [watched_poll, Dict.map_map, hread, Watched.see_see]
    simp only [poll] at hwatched ⊢
    rw [hwatched]

end Directory

namespace Feed

theorem poll_poll (f : Feed) :
    (f.step .poll).changed = 0 ∧ (f.step .poll).step .poll = f.step .poll := by
  obtain ⟨files, s, subs⟩ := f
  cases s with
  | memory m => exact ⟨rfl, rfl⟩
  | directory d => simp only [changed, step, Directory.poll_poll, and_self]

/-- What a folder has on record after some events: the keys are those that somebody subscribed to,
each with what was last read for it. -/
structure Records (start : Feed) (es : List Source.Event) (d : Directory) : Prop where
  source : (start.run es).source = .directory d
  ordered : d.watched.Ordered
  isSome_iff : ∀ key, (d.watched.get? key).isSome ↔ key ∈ (start.run es).subs.map (·.key)
  last : ∀ key w, d.watched.get? key = some w → (start.readings key es).getLast? = some w.last

namespace Records

variable {start : Feed} {es : List Source.Event} {d : Directory}

/-- A key that was on record is so with what was last read for it. -/
theorem last_snoc (h : start.Records es d) {key : String} {w : Watched}
    (hw : d.watched.get? key = some w) {e : Source.Event} {d' : Directory}
    (hd' : (start.run (es ++ [e])).source = .directory d') {w' : Watched}
    (hw' : d'.watched.get? key = some w') :
    (start.readings key (es ++ [e])).getLast? = some w'.last := by
  have hbefore : (start.run es).Watches key w := ⟨d, h.source, hw⟩
  have hafter : (start.run (es ++ [e])).Watches key w' := ⟨d', hd', hw'⟩
  rw [run_append] at hafter
  rw [hafter.unique (hbefore.step e), Watched.last_after, readings_append, List.getLast?_append,
    h.last key w hw]
  simp only [readings, List.append_nil]

/-- An event that leaves the keys and the subscriptions as they are. -/
theorem snoc_of_keys (h : start.Records es d) {e : Source.Event} {d' : Directory}
    (hd' : (start.run (es ++ [e])).source = .directory d') (hordered : d'.watched.Ordered)
    (hkeys : ∀ key, (d'.watched.get? key).isSome = (d.watched.get? key).isSome)
    (hsubs : (start.run (es ++ [e])).subs = (start.run es).subs) :
    start.Records (es ++ [e]) d' where
  source := hd'
  ordered := hordered
  isSome_iff key := by
    rw [hkeys, hsubs, h.isSome_iff]
  last key w' hw' := by
    have hsome := hkeys key
    rw [hw', Option.isSome_some, eq_comm, Option.isSome_iff_exists] at hsome
    obtain ⟨w, hw⟩ := hsome
    exact h.last_snoc hw hd' hw'

theorem snoc (h : start.Records es d) (e : Source.Event) : ∃ d', start.Records (es ++ [e]) d' := by
  have hrun : start.run (es ++ [e]) = (start.run es).step e := by
    rw [run_append]
    rfl
  have hs := h.source
  cases e with
  | publish | remove | edit =>
    refine ⟨d, h.snoc_of_keys ?_ h.ordered (fun _ => rfl) ?_⟩ <;> simp only [hrun, step, hs]
  | poll =>
    refine ⟨(d.poll (start.run es).files).2, h.snoc_of_keys ?_ ?_ (fun key => ?_) ?_⟩
    · simp only [hrun, step, hs]
    · rw [Directory.watched_poll]
      exact h.ordered.map _
    · rw [Directory.get?_watched_poll, Option.isSome_map]
    · simp only [hrun, step, hs]
  | subscribe k =>
    cases hr : d.read (start.run es).files k with
    | error _ =>
      refine ⟨d, h.snoc_of_keys ?_ h.ordered (fun _ => rfl) ?_⟩ <;>
        simp only [hrun, step, hs, Source.subscribe_directory_error d hr]
    | ok text =>
      have hstep : (start.run (es ++ [.subscribe k])).source = .directory { d with
            watched := d.watched.insert k { last := text, channel := d.channel k } } ∧
          (start.run (es ++ [.subscribe k])).subs = (start.run es).subs ++
            [{ key := k, initial := text, receiver := (d.channel k).subscribe }] := by
        simp only [hrun, step, hs, Source.subscribe_directory d hr, and_self]
      refine ⟨_, hstep.1, h.ordered.insert k _, fun key => ?_, fun key w' hw' => ?_⟩
      · rw [hstep.2, List.map_append, List.mem_append, ← h.isSome_iff, Dict.get?_insert]
        by_cases hk : key = k <;> simp [hk]
      · by_cases hk : key = k
        · subst hk
          rw [Dict.get?_insert, if_pos rfl, Option.some.injEq] at hw'
          rw [readings_append, ← hw', List.getLast?_append]
          simp [readings, Source.Event.reads, hs, Source.read, hr, Except.toOption]
        · have hw := hw'
          rw [Dict.get?_insert, if_neg hk] at hw
          exact h.last_snoc hw hstep.1 hw'

/-- A watched key differs if a poll takes what it reads for a change. -/
theorem differs_iff (h : start.Records es d) {key : String} {w : Watched}
    (hw : d.watched.get? key = some w) :
    start.Differs es key ↔ (w.see key (d.read (start.run es).files key)).2 = true := by
  have hread : (start.run es).source.read (start.run es).files key =
      d.read (start.run es).files key := by
    rw [h.source]
    rfl
  rw [Differs, hread, h.last key w hw]
  cases d.read (start.run es).files key with
  | error _ => simp [Watched.see]
  | ok text =>
    by_cases ht : text = w.last
    · simp [Watched.see, ht]
    · simp [Watched.see, ht, Ne.symm ht]

end Records

/-- The number of keys that a poll finds changed is that of the keys with a subscription whose files
differ from what was last read. -/
theorem Records.changed_eq {start : Feed} {es : List Source.Event} {d : Directory}
    (h : start.Records es d) :
    (start.run es).changed =
      (((start.run es).subs.map (·.key)).toFinset.filter (start.Differs es)).card := by
  have hkeys : ((start.run es).subs.map (·.key)).toFinset = d.watched.keys.toFinset := by
    ext key
    rw [List.mem_toFinset, List.mem_toFinset, ← h.isSome_iff, Option.isSome_iff_exists, Dict.keys,
      List.mem_map]
    constructor
    · rintro ⟨w, hw⟩
      exact ⟨(key, w), h.ordered.mem_toList_iff.2 hw, rfl⟩
    · rintro ⟨⟨k, w⟩, hw, rfl⟩
      exact ⟨w, h.ordered.mem_toList_iff.1 hw⟩
  have hnodup : d.watched.keys.Nodup := h.ordered.imp String.ne_of_lt
  have hfilter : d.watched.keys.toFinset.filter (start.Differs es) =
      (d.watched.keys.filter fun key => start.Differs es key).toFinset := by
    ext key
    simp
  rw [hkeys, hfilter, List.toFinset_card_of_nodup (hnodup.filter _),
    ← List.countP_eq_length_filter, Dict.keys, List.countP_map, changed, h.source]
  simp only [Directory.poll_fst]
  refine List.countP_congr fun e he => ?_
  obtain ⟨key, w⟩ := e
  rw [Function.comp_apply, decide_eq_true_iff]
  exact (h.differs_iff (h.ordered.mem_toList_iff.1 he)).symm

theorem begins_records (files : FileTree) (dir : String) (capacity : Nat)
    (es : List Source.Event) : ∃ d, (ofFolder files dir capacity).Records es d := by
  induction es using List.reverseRecOn with
  | nil =>
    exact ⟨{ dir, capacity }, rfl, Dict.ordered_empty, fun key => by simp [ofFolder, run], nofun⟩
  | append_singleton es e ih =>
    obtain ⟨d, h⟩ := ih
    exact h.snoc e

/-! ## Polls at work -/

theorem values_of_reports {key : String} {turns : List (Option String × Option String)}
    {changes : List Change} (h : List.Forall₂ (Change.Reports key) turns changes) :
    changes.map (·.value) = turns.map Prod.snd := by
  induction h with
  | nil => rfl
  | cons hr _ ih => rw [List.map_cons, List.map_cons, hr.value_eq, ih]

/-- A subscription that stays the only one to its key is the first one. -/
theorem subsOf_of_once {f : Feed} {sub : Subscription} {es : List Source.Event}
    (hjoin : (f.step (.subscribe sub.key)).subs = f.subs ++ [sub])
    (honce : ((f.step (.subscribe sub.key)).run es).subsOf sub.key = [sub]) :
    (f.step (.subscribe sub.key)).subsOf sub.key = [sub] ∧ sub ∉ f.subs := by
  have hsubs : (f.step (.subscribe sub.key)).subsOf sub.key = f.subsOf sub.key ++ [sub] := by
    rw [subsOf, hjoin, List.filter_append, subsOf]
    simp
  have hprefix : (f.step (.subscribe sub.key)).subsOf sub.key <+: [sub] := by
    rw [← honce]
    exact ((f.step (.subscribe sub.key)).subs_prefix_run es).filter _
  have hnone : f.subsOf sub.key = [] := by
    have hlen := hprefix.length_le
    simp only [hsubs, List.length_append, List.length_singleton] at hlen
    exact List.length_eq_zero_iff.1 (by omega)
  refine ⟨by rw [hsubs, hnone, List.nil_append], fun hmem => ?_⟩
  exact List.filter_eq_nil_iff.1 hnone sub hmem (by simp)

/-- **A polled folder reports the turns of its files, and ignores outages.** Take a key to which
`sub` is the only subscription, and what the polls after it find in its file. The changes that are
sent have the readable states as their values, in order and without immediate repetitions, and say
which state turned into which. Without the polls that could not read the file they would be the
same. And at any time a poll answers how many of the keys that are subscribed to differ from what
was last read of them; if the next poll sees the same files, it finds nothing and does nothing. -/
theorem polls_report (files : FileTree) (dir : String) (capacity : Nat)
    (before after : List Source.Event) (sub : Subscription)
    (hjoin : ((ofFolder files dir capacity).run (before ++ [.subscribe sub.key])).subs =
      ((ofFolder files dir capacity).run before).subs ++ [sub])
    (honce : ((ofFolder files dir capacity).run
      (before ++ .subscribe sub.key :: after)).subsOf sub.key = [sub]) :
    let start := ofFolder files dir capacity
    let joined := start.run (before ++ [.subscribe sub.key])
    let found := states sub.initial (joined.polled sub.key after)
    let changes := joined.sent sub.key after
    ((joined.run after).source.channel sub.key).Carries sub.receiver.next changes ∧
      changes.map (·.value) = found.tail ∧
      List.Forall₂ (Change.Reports sub.key) (found.zip found.tail) changes ∧
      joined.sent sub.key (joined.withoutOutages sub.key after) = changes ∧
      ∀ es,
        (start.run es).changed =
          (((start.run es).subs.map (·.key)).toFinset.filter (start.Differs es)).card ∧
        (start.run (es ++ [.poll])).changed = 0 ∧
        start.run (es ++ [.poll, .poll]) = start.run (es ++ [.poll]) := by
  intro start joined found changes
  have hstart : start.Begins := begins_ofFolder files dir capacity
  have hjoined : joined = (start.run before).step (.subscribe sub.key) := start.run_append _ _
  have hsubs : joined.subs = (start.run before).subs ++ [sub] := hjoin
  have honce : (joined.run after).subsOf sub.key = [sub] := by
    rwa [List.append_cons, run_append] at honce
  -- The subscription is a new one, and was given what was last read.
  obtain ⟨honly, hnew⟩ := subsOf_of_once (hjoined ▸ hsubs) (hjoined ▸ honce)
  have hmem : sub ∈ joined.subs := by
    rw [hsubs]
    exact List.mem_append_right _ (List.mem_singleton_self sub)
  have hj := ((mem_subs_step (hjoined ▸ hmem)).resolve_left hnew).2
  obtain ⟨w, hw, -⟩ := (hstart.sound.run (before ++ [.subscribe sub.key])).watches sub hmem
  have hw : joined.Watches sub.key w := hw
  have hlast : w.last = sub.initial := (hjoined ▸ hw).last_of_subscribe hj.initial
  have hpos := hstart.capacity (before ++ [.subscribe sub.key]) sub.key
  have hquiet : (joined.run after).subsOf sub.key = joined.subsOf sub.key := by
    rw [honce, hjoined, honly]
  have hreports := reports_run hw (by rwa [hw.channel] at hpos) hquiet
  rw [hlast] at hreports
  refine ⟨?_, ?_, hreports, hw.sent_withoutOutages after, fun es => ⟨?_, ?_, ?_⟩⟩
  · have hnext : sub.receiver.next = (joined.source.channel sub.key).sent := by
      rw [hjoined, hj.channel, hj.receiver]
      rfl
    rw [hnext]
    exact carries_sent (.nil _) hpos after
  · rw [values_of_reports hreports]
    exact List.map_snd_zip (by simp)
  · obtain ⟨d, h⟩ := begins_records files dir capacity es
    exact h.changed_eq
  · rw [run_append]
    exact (start.run es).poll_poll.1
  · rw [run_append, run_append]
    exact (start.run es).poll_poll.2

/-- A first text for the key, then a time without the folder, then the folder without the text. -/
def textThenOutage : List Source.Event :=
  [.edit { entries := ⟨[("rules", .folder), ("rules/k.yaml", .file [118, 49])]⟩ }, .poll,
    .edit {}, .poll, .edit noTexts, .poll]

theorem polls_report_outage :
    (((ofFolder noTexts "rules" 1).run [.subscribe "k"]).sent "k" textThenOutage).map
        (·.value) = [some "v1", none] ∧
      ((ofFolder noTexts "rules" 1).run (.subscribe "k" :: textThenOutage.take 1)).changed = 1 := by
  obtain ⟨-, hvalues, -, -, hpolls⟩ := polls_report noTexts "rules" 1 [] textThenOutage
    ⟨"k", none, ⟨0⟩⟩ (by decide +kernel) (by decide +kernel)
  refine ⟨hvalues.trans (by decide +kernel), ?_⟩
  exact (hpolls (.subscribe "k" :: textThenOutage.take 1)).1.trans (by decide +kernel)

end Feed
end CallRouting
