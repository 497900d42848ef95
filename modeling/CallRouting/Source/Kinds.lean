import CallRouting.Source.Directory
import CallRouting.Source.Memory

/-!
# Either source

A `Source` is a source of one kind or the other. What it reads may depend on the files there are.
-/

namespace CallRouting

inductive Source where
  | memory (m : Memory)
  | directory (d : Directory)

namespace Source

def read (s : Source) (files : FileTree) (key : String) : Except SourceError (Option String) :=
  match s with
  | memory m => .ok (m.get? key)
  | directory d => d.read files key

def channel (s : Source) (key : String) : Channel Change :=
  match s with
  | memory m => m.channel key
  | directory d => d.channel key

def subscribe (s : Source) (files : FileTree) (key : String) :
    Except SourceError (Subscription × Source) :=
  match s with
  | memory m =>
    let (sub, m) := m.subscribe key
    .ok (sub, memory m)
  | directory d => do
    let (sub, d) ← d.subscribe files key
    return (sub, directory d)

end Source
end CallRouting
