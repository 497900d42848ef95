/-!
# Broadcast channels

A `Channel` carries messages to any number of receivers, each of which reads at its own pace. It
keeps only the most recent messages; a receiver that falls behind further than that is told how many
messages it missed and goes on with the oldest one that is left.

* `Channel.send` : one more message, which may push out the oldest one;
* `Channel.receive?` : the next notice for a receiver, or nothing if it has read everything;
* `Receiver.lt_of_receive?` : every notice moves the receiver forward, so
* `Channel.drain` : all notices for a receiver come to an end.
-/

namespace CallRouting

structure Channel (α : Type) where
  capacity : Nat
  /-- How many messages have been sent so far. -/
  sent : Nat := 0
  /-- The messages that are kept, the oldest first. -/
  recent : List α := []
  closed : Bool := false
  length_recent : recent.length = min sent capacity := by simp

/-- A reader of a channel. -/
structure Receiver where
  /-- The position of the next message to read, counted from the first that was sent. -/
  next : Nat
deriving DecidableEq

/-- What a receiver finds. -/
inductive Notice (α : Type) where
  | message (a : α)
  | lagged (missed : Nat)
deriving DecidableEq

namespace Channel

variable {α : Type}

/-- A channel that keeps at least `capacity` messages, and at least one: the number that it keeps is
a power of two. -/
def ofCapacity (capacity : Nat) : Channel α := { capacity := capacity.nextPowerOfTwo }

def send (c : Channel α) (a : α) : Channel α where
  capacity := c.capacity
  sent := c.sent + 1
  recent := (c.recent ++ [a]).drop (c.recent.length + 1 - c.capacity)
  closed := c.closed
  length_recent := by simp [c.length_recent]; omega

def close (c : Channel α) : Channel α := { c with closed := true }

/-- A receiver of the messages sent from now on. -/
def subscribe (c : Channel α) : Receiver := ⟨c.sent⟩

/-- The position of the oldest message that is kept. -/
def oldest (c : Channel α) : Nat := c.sent - c.recent.length

def receive? (c : Channel α) (r : Receiver) : Option (Notice α × Receiver) :=
  if r.next < c.oldest then some (.lagged (c.oldest - r.next), ⟨c.oldest⟩)
  else c.recent[r.next - c.oldest]?.map fun a => (.message a, ⟨r.next + 1⟩)

theorem lt_of_receive? {c : Channel α} {r r' : Receiver} {n : Notice α}
    (h : c.receive? r = some (n, r')) : r.next < r'.next ∧ r'.next ≤ c.sent := by
  have hlen := c.length_recent
  unfold receive? at h
  split at h
  · simp only [Option.some.injEq, Prod.mk.injEq] at h
    obtain ⟨-, rfl⟩ := h
    simp only [oldest] at *
    omega
  · obtain ⟨a, ha, he⟩ := Option.map_eq_some_iff.1 h
    simp only [Prod.mk.injEq] at he
    obtain ⟨-, rfl⟩ := he
    obtain ⟨hlt, -⟩ := List.getElem?_eq_some_iff.1 ha
    simp only [oldest] at *
    omega

/-- All notices for a receiver, and the receiver after them. -/
def drain (c : Channel α) (r : Receiver) : List (Notice α) × Receiver :=
  match h : c.receive? r with
  | none => ([], r)
  | some (n, r') =>
    have := lt_of_receive? h
    let (ns, r'') := c.drain r'
    (n :: ns, r'')
  termination_by c.sent - r.next

end Channel
end CallRouting
