import CallRouting.Channel
import Mathlib.Logic.Function.Iterate

/-!
# The log of a channel

A channel keeps only its latest messages. Its log is the list of all that it has carried from some
position on; the two agree wherever the channel can still be asked.

* `Channel.at?` : the message at a position, if it is kept;
* `Carries c base log` : from position `base` on, the messages of `c` are those of `log`
  (`Carries.nil`, `Carries.send`);
* `receive?_eq_some` : what a receiver finds is the next message of the log, or the loss of
  everything up to the oldest message that is kept; `receive?_eq_none_iff` : it finds nothing
  exactly when it has read everything;
* `since` : what a channel has carried since it was last looked at;
* `drain_cons`, `drain_nil` : draining is receiving again and again;
* `Inbox` : a receiver that keeps what it finds; `Inbox.iterate_take` : whoever takes notices often
  enough has drained the channel.
-/

namespace CallRouting.Channel

variable {α : Type}

/-! ## Sending -/

@[simp] theorem sent_send (c : Channel α) (a : α) : (c.send a).sent = c.sent + 1 := rfl

@[simp] theorem capacity_send (c : Channel α) (a : α) : (c.send a).capacity = c.capacity := rfl

theorem capacity_ofCapacity_pos (n : Nat) : 0 < (ofCapacity n : Channel α).capacity :=
  Nat.pos_of_ne_zero fun h => by
    have := Nat.isPowerOfTwo_nextPowerOfTwo n
    obtain ⟨k, hk⟩ := this
    have h2 := Nat.two_pow_pos k
    simp only [ofCapacity] at h
    omega

theorem oldest_eq (c : Channel α) : c.oldest = c.sent - c.capacity := by
  have := c.length_recent
  unfold oldest
  omega

/-- The message at a position, if it is kept. -/
def at? (c : Channel α) (i : Nat) : Option α :=
  if i < c.oldest then none else c.recent[i - c.oldest]?

theorem receive?_eq (c : Channel α) (r : Receiver) :
    c.receive? r = if r.next < c.oldest then some (.lagged (c.oldest - r.next), ⟨c.oldest⟩)
      else (c.at? r.next).map fun a => (.message a, ⟨r.next + 1⟩) := by
  unfold receive? at?
  split <;> rfl

theorem at?_send (c : Channel α) (a : α) (hc : 0 < c.capacity) (i : Nat)
    (hi : (c.send a).oldest ≤ i) :
    (c.send a).at? i = if i = c.sent then some a else c.at? i := by
  have hlen := c.length_recent
  have hold := oldest_eq c
  have hold' := oldest_eq (c.send a)
  rw [sent_send, capacity_send] at hold'
  rw [at?, if_neg (by omega), at?, if_neg (show ¬ i < c.oldest by omega), hold', hold]
  simp only [send, List.getElem?_drop]
  split
  · rw [List.getElem?_append_right (by omega)]
    simp only [show c.recent.length + 1 - c.capacity + (i - (c.sent + 1 - c.capacity)) -
      c.recent.length = 0 by omega, List.getElem?_cons_zero]
  · by_cases hlt : i < c.sent
    · rw [List.getElem?_append_left (by omega)]
      congr 1
      omega
    · rw [List.getElem?_eq_none (by simp; omega), List.getElem?_eq_none (by omega)]

/-! ## Logs -/

/-- From position `base` on, the messages of the channel are those of the log, as far as they are
kept. -/
structure Carries (c : Channel α) (base : Nat) (log : List α) : Prop where
  sent : c.sent = base + log.length
  at? : ∀ i, c.oldest ≤ base + i → c.at? (base + i) = log[i]?

theorem Carries.nil (c : Channel α) : c.Carries c.sent [] where
  sent := rfl
  at? i hi := by
    have := c.length_recent
    rw [Channel.at?, if_neg (by omega)]
    simp only [List.getElem?_nil, List.getElem?_eq_none_iff, oldest]
    omega

theorem Carries.send {c : Channel α} {base : Nat} {log : List α} (h : c.Carries base log)
    (hc : 0 < c.capacity) (a : α) : (c.send a).Carries base (log ++ [a]) where
  sent := by
    rw [sent_send, h.sent, List.length_append, List.length_singleton]
    omega
  at? i hi := by
    have hsent := h.sent
    rw [at?_send c a hc _ hi]
    split
    · rw [show i = log.length by omega]
      simp
    · have hold : c.oldest ≤ base + i := by
        rw [oldest_eq] at hi ⊢
        rw [sent_send, capacity_send] at hi
        omega
      rw [h.at? i hold, List.getElem?_append]
      split
      · rfl
      · rw [List.getElem?_eq_none (by omega), List.getElem?_eq_none (by simp; omega)]

/-- What a receiver finds: the next message of the log, or the loss of all that is not kept. -/
theorem Carries.receive?_eq_some {c : Channel α} {base : Nat} {log : List α}
    (h : c.Carries base log) {r r' : Receiver} {n : Notice α} (hb : base ≤ r.next)
    (hr : c.receive? r = some (n, r')) :
    (∃ a, n = .message a ∧ log[r.next - base]? = some a ∧ r'.next = r.next + 1) ∨
      (n = .lagged (c.oldest - r.next) ∧ r.next < c.oldest ∧ r'.next = c.oldest) := by
  rw [receive?_eq] at hr
  split at hr
  · next hlt =>
    simp only [Option.some.injEq, Prod.mk.injEq] at hr
    obtain ⟨rfl, rfl⟩ := hr
    exact Or.inr ⟨rfl, hlt, rfl⟩
  · next hge =>
    obtain ⟨a, ha, he⟩ := Option.map_eq_some_iff.1 hr
    simp only [Prod.mk.injEq] at he
    obtain ⟨rfl, rfl⟩ := he
    refine Or.inl ⟨a, rfl, ?_, rfl⟩
    rw [← h.at? (r.next - base) (by omega), show base + (r.next - base) = r.next by omega, ha]

/-- A receiver finds nothing exactly when it has read everything. -/
theorem receive?_eq_none_iff (c : Channel α) (r : Receiver) (hr : r.next ≤ c.sent) :
    c.receive? r = none ↔ r.next = c.sent := by
  have hlen := c.length_recent
  rw [receive?_eq]
  split
  · next hlt =>
    rw [oldest] at hlt
    simp only [reduceCtorEq, false_iff]
    omega
  · next hge =>
    rw [Option.map_eq_none_iff, at?, if_neg hge, List.getElem?_eq_none_iff]
    rw [oldest] at hge ⊢
    omega

/-! ## What is new -/

/-- The messages from a position on, as far as they are kept. -/
def since (c : Channel α) (position : Nat) : List α := c.recent.drop (position - c.oldest)

@[simp] theorem since_sent (c : Channel α) : c.since c.sent = [] := by
  have := c.length_recent
  simp only [since, oldest, List.drop_eq_nil_iff]
  omega

@[simp] theorem since_send (c : Channel α) (a : α) (hc : 0 < c.capacity) :
    (c.send a).since c.sent = [a] := by
  have hlen := c.length_recent
  rw [since, oldest_eq, sent_send, capacity_send]
  simp only [send, List.drop_drop]
  rw [show c.recent.length + 1 - c.capacity + (c.sent - (c.sent + 1 - c.capacity)) =
    c.recent.length by omega, List.drop_left]

/-- Whatever is new ends with the latest message. -/
theorem getLast?_since (c : Channel α) (n : Nat) :
    (c.since n).getLast? = if n < c.sent then c.recent.getLast? else none := by
  have hlen := c.length_recent
  rw [since, List.getLast?_drop, oldest]
  split
  · next hle =>
    split
    · next hlt =>
      have hnil : c.recent = [] := List.length_eq_zero_iff.1 (by omega)
      rw [hnil, List.getLast?_nil]
    · rfl
  · next hgt => rw [if_pos (by omega)]

theorem getLast?_recent_send (c : Channel α) (a : α) (hc : 0 < c.capacity) :
    (c.send a).recent.getLast? = some a := by
  have hlen := c.length_recent
  simp only [send]
  rw [List.getLast?_drop, if_neg (by simp; omega), List.getLast?_append, List.getLast?_singleton,
    Option.some_or]

/-! ## Draining -/

theorem drain_nil (c : Channel α) (r : Receiver) (h : c.receive? r = none) :
    c.drain r = ([], r) := by
  rw [drain]
  split
  · rfl
  · simp_all

theorem drain_cons (c : Channel α) (r r' : Receiver) (n : Notice α)
    (h : c.receive? r = some (n, r')) :
    c.drain r = (n :: (c.drain r').1, (c.drain r').2) := by
  rw [drain]
  split
  · simp_all
  · simp_all

/-- After all its notices there is none left for a receiver. -/
theorem receive?_drain (c : Channel α) (r : Receiver) : c.receive? (c.drain r).2 = none := by
  induction hd : c.sent - r.next using Nat.strongRecOn generalizing r with
  | ind d ih =>
    cases h : c.receive? r with
    | none => rwa [drain_nil c r h]
    | some p =>
      obtain ⟨n, r'⟩ := p
      obtain ⟨hlt, hle⟩ := lt_of_receive? h
      rw [drain_cons c r r' n h]
      exact ih (c.sent - r'.next) (by omega) r' rfl

theorem at?_last (c : Channel α) (n : Nat) (hn : n + 1 = c.sent) (hold : c.oldest ≤ n) :
    c.at? n = c.recent.getLast? := by
  have hlen := c.length_recent
  rw [at?, if_neg (by omega), List.getLast?_eq_getElem?, oldest] at *
  congr 1
  omega

/-- A receiver that takes all its notices ends with the latest message, if one was new to it. -/
theorem getLast?_drain (c : Channel α) (hc : 0 < c.capacity) (r : Receiver)
    (hr : r.next ≤ c.sent) :
    (c.drain r).1.getLast? = (c.since r.next).getLast?.map .message := by
  induction hd : c.sent - r.next using Nat.strongRecOn generalizing r with
  | ind d ih =>
    have hlen := c.length_recent
    cases h : c.receive? r with
    | none =>
      rw [drain_nil c r h, (receive?_eq_none_iff c r hr).1 h, since_sent]
      rfl
    | some p =>
      obtain ⟨n, r'⟩ := p
      obtain ⟨hlt, hle⟩ := lt_of_receive? h
      have ih := ih (c.sent - r'.next) (by omega) r' hle rfl
      rw [getLast?_since] at ih ⊢
      rw [if_pos (by omega), drain_cons c r r' n h, List.getLast?_cons, ih]
      by_cases hend : r'.next < c.sent
      · rw [if_pos hend]
        cases hlast : c.recent.getLast? with
        | none =>
          rw [List.getLast?_eq_none_iff.1 hlast, List.length_nil] at hlen
          omega
        | some a => rfl
      · rw [if_neg hend]
        rw [receive?_eq] at h
        split at h
        · next hlt =>
          simp only [Option.some.injEq, Prod.mk.injEq] at h
          obtain ⟨-, rfl⟩ := h
          simp only [oldest] at hend
          omega
        · next hge =>
          obtain ⟨a, ha, he⟩ := Option.map_eq_some_iff.1 h
          simp only [Prod.mk.injEq] at he
          obtain ⟨rfl, rfl⟩ := he
          rw [at?_last c r.next (by simp only at hend hle; omega) (by omega)] at ha
          rw [ha]
          rfl

end CallRouting.Channel

namespace CallRouting

/-! ## Inboxes -/

def Notice.message? {α : Type} : Notice α → Option α
  | message a => some a
  | lagged _ => none

/-- A receiver, with all notices that it has found so far. -/
structure Inbox (α : Type) where
  receiver : Receiver
  received : List (Notice α) := []

namespace Inbox

variable {α : Type}

/-- The messages among the notices. -/
def messages (b : Inbox α) : List α := b.received.filterMap Notice.message?

/-- Takes the next notice, if there is one. -/
def take (c : Channel α) (b : Inbox α) : Inbox α :=
  match c.receive? b.receiver with
  | some (n, receiver) => { receiver, received := b.received ++ [n] }
  | none => b

/-- Takes all notices that there are. -/
def drain (c : Channel α) (b : Inbox α) : Inbox α where
  receiver := (c.drain b.receiver).2
  received := b.received ++ (c.drain b.receiver).1

variable {c : Channel α} {b : Inbox α}

theorem take_of_some {n : Notice α} {r : Receiver} (h : c.receive? b.receiver = some (n, r)) :
    b.take c = ⟨r, b.received ++ [n]⟩ := by
  rw [take, h]

theorem take_of_none (h : c.receive? b.receiver = none) : b.take c = b := by
  rw [take, h]

/-- Whoever takes as many notices as there are messages to read has taken all of them. -/
theorem iterate_take (c : Channel α) {n : Nat} {b : Inbox α} (hb : b.receiver.next ≤ c.sent)
    (hn : c.sent ≤ b.receiver.next + n) :
    (take c)^[n] b = b.drain c := by
  induction n generalizing b with
  | zero =>
    have hnone : c.receive? b.receiver = none := (c.receive?_eq_none_iff _ hb).2 (by omega)
    rw [drain, c.drain_nil _ hnone, List.append_nil]
    rfl
  | succ n ih =>
    rw [Function.iterate_succ_apply]
    cases h : c.receive? b.receiver with
    | none =>
      have hend := (c.receive?_eq_none_iff _ hb).1 h
      rw [take_of_none h]
      exact ih hb (by omega)
    | some p =>
      obtain ⟨m, r⟩ := p
      obtain ⟨hlt, hle⟩ := Channel.lt_of_receive? h
      rw [take_of_some h, ih hle (by simp only; omega), drain, drain, c.drain_cons _ r m h]
      simp only [List.append_assoc, List.singleton_append]

end Inbox
end CallRouting
