import CallRouting.Dict
import CallRouting.Source.Basic

/-!
# A source in memory

* `Memory.publish`, `Memory.remove` : change the text of a key; removing a text that is not there is
  no change;
* `Memory.subscribe` : the text of a key and a receiver of its later changes.
-/

namespace CallRouting

structure Memory where
  values : Dict String := .empty
  /-- A channel for each key that has ever been subscribed to. -/
  channels : Dict (Channel Change) := .empty
  /-- The capacity of the channels. -/
  capacity : Nat := Source.defaultCapacity

namespace Memory

def get? (m : Memory) (key : String) : Option String := m.values.get? key

def channel (m : Memory) (key : String) : Channel Change :=
  (m.channels.get? key).getD (.ofCapacity m.capacity)

/-- Tells the subscribers of the key, if it has any. -/
def notify (m : Memory) (change : Change) : Memory :=
  match m.channels.get? change.key with
  | some c => { m with channels := m.channels.insert change.key (c.send change) }
  | none => m

def publish (m : Memory) (key text : String) : Memory :=
  { m with values := m.values.insert key text }.notify
    { key, value := some text, kind := .between (m.get? key) (some text) }

def remove (m : Memory) (key : String) : Memory :=
  if (m.get? key).isSome then
    { m with values := m.values.erase key }.notify { key, value := none, kind := .deleted }
  else m

def subscribe (m : Memory) (key : String) : Subscription × Memory :=
  let c := m.channel key
  ({ key, initial := m.get? key, receiver := c.subscribe },
    { m with channels := m.channels.insert key c })

end Memory
end CallRouting
