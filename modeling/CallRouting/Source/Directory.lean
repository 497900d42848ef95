import CallRouting.Source.Basic

/-!
# A source in a folder

A `Directory` has a file for each key in one folder. Nobody tells it of changes: it looks for them
each time it polls, and compares what it reads with what it knows.

* `Directory.read` : a missing file means that there is no text; a missing folder, or a key that is
  no plain file name, means that there is no source;
* `Directory.poll` : what cannot be read is passed over, so an outage looks like no change;
* `Directory.subscribe` : what is read for a new subscriber is what polls compare with from then on.
-/

namespace CallRouting

/-- A key that someone subscribed to. -/
structure Watched where
  /-- What was last read for it. -/
  last : Option String
  channel : Channel Change

structure Directory where
  dir : String
  /-- The capacity of the channels. -/
  capacity : Nat := Source.defaultCapacity
  watched : Dict Watched := .empty

/-- Takes what was read for the key, and says whether it is a change. -/
def Watched.see (w : Watched) (key : String) (read : Except SourceError (Option String)) :
    Watched × Bool :=
  match read with
  | .error _ => (w, false)
  | .ok text =>
    if text = w.last then (w, false)
    else
      let change : Change := { key, value := text, kind := .between w.last text }
      ({ last := text, channel := w.channel.send change }, true)

namespace Directory

def pathFor (d : Directory) (key : String) : String := Path.join d.dir (key ++ ".yaml")

/-- Whether a key names a file of the folder itself, and not a hidden one. -/
def isFileName (key : String) : Bool :=
  let cs := key.toList
  !cs.isEmpty && !cs.contains '/' && !cs.contains '\\' && cs.head? ≠ some '.'

def read (d : Directory) (files : FileTree) (key : String) :
    Except SourceError (Option String) :=
  if !isFileName key then .error (.notAFileName key)
  else match files.readText (d.pathFor key) with
    | .ok text => .ok (some text)
    | .error .notFound => if files.isFolder d.dir then .ok none else .error (.noDirectory key d.dir)
    | .error e => .error (.file (d.pathFor key) e)

/-- How many keys had changed, and the source after telling their subscribers. -/
def poll (d : Directory) (files : FileTree) : Nat × Directory :=
  let seen := d.watched.map fun key w => w.see key (d.read files key)
  ((seen.toList.filter (·.2.2)).length, { d with watched := seen.map fun _ => (·.1) })

/-- The channel for a key that has a new subscriber. -/
def channel (d : Directory) (key : String) : Channel Change :=
  match d.watched.get? key with
  | some w => w.channel
  | none => .ofCapacity d.capacity

def subscribe (d : Directory) (files : FileTree) (key : String) :
    Except SourceError (Subscription × Directory) := do
  let initial ← d.read files key
  let c := d.channel key
  return ({ key, initial, receiver := c.subscribe },
    { d with watched := d.watched.insert key { last := initial, channel := c } })

end Directory
end CallRouting
