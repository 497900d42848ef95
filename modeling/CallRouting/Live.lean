import CallRouting.Service
import CallRouting.Source.Kinds

/-!
# Live services

A `Live` service follows its rule: tasks carry each change of the rule's text from the source to the
service, and each announcement of the service to its plan. Tasks take turns and nothing else happens
while one has its turn, so a turn is a function.

* `Live.attach` : subscribes to the rule of an application and starts the tasks;
* `Service.hear` : what a service does with one notice of its source;
* `poll`, `listen`, `invalidate`, `report` : one turn of each task, until it has nothing left to do;
* `settle` : turns in the order in which one task wakes the next, after which all of them wait;
* `advance` : lets time pass between two settled states.
-/

namespace CallRouting

/-- Takes one notice of a source that can be read anew after missed changes. -/
def Service.hear (read : Except SourceError (Option String)) (s : Service) :
    Notice Change → Service
  | .message change => (s.process change).2
  | .lagged _ => (s.resync read).2

/-- A task that polls a folder at fixed times. -/
structure Poller where
  /-- In milliseconds. -/
  interval : Nat
  next : Nat := 0
  done : Bool := false

/-- Passes over the times that are already gone. There is no poller with an interval of zero. -/
def Poller.after (p : Poller) (clock : Nat) : Poller :=
  if p.interval = 0 then { p with done := true }
  else { p with next := (clock / p.interval + 1) * p.interval }

/-- A task that reads a channel. -/
structure Reader where
  receiver : Receiver
  done : Bool := false

/-- All that the reader has not yet read, and the reader after that; it is done once the channel is
closed. -/
def Reader.take {α : Type} (r : Reader) (c : Channel α) : List (Notice α) × Reader :=
  if r.done then ([], r)
  else
    let (notices, receiver) := c.drain r.receiver
    (notices, { receiver, done := c.closed })

structure Live where
  /-- In milliseconds since the start. -/
  clock : Nat := 0
  files : FileTree := {}
  source : Source
  /-- The changes that the service listens to, if they do not come from the source. -/
  stream : Option (Channel Change) := none
  service : Service
  poller : Option Poller := none
  listener : Reader
  invalidator : Reader
  /-- Reports where calls go after each announcement. -/
  reporter : Option Reader := none

namespace Live

/-! ## Turns -/

def key (l : Live) : String := l.service.router.key

/-- The channel that the listener reads. -/
def changes (l : Live) : Channel Change := l.stream.getD (l.source.channel l.key)

def pollSource (l : Live) : Live :=
  match l.source with
  | .memory _ => l
  | .directory d => { l with source := .directory (d.poll l.files).2 }

def poll (l : Live) : Live :=
  match l.poller with
  | some p =>
    if p.done || l.clock < p.next then l
    else
      let p := p.after l.clock
      if p.done then { l with poller := some p } else { l.pollSource with poller := some p }
  | none => l

def listen (l : Live) : Live :=
  let (notices, listener) := l.listener.take l.changes
  { l with
    listener
    service := notices.foldl (Service.hear (l.source.read l.files l.key)) l.service }

def invalidate (l : Live) : Live :=
  let (notices, invalidator) := l.invalidator.take l.service.announcements
  { l with
    invalidator
    service := notices.foldl (fun s _ => s.invalidate) l.service }

/-- What a report is about: where a call of which nothing is known goes. -/
def reportOnce (s : Service) : Service := (s.route {}).2

def report (l : Live) : Live :=
  match l.reporter with
  | some r =>
    let (notices, r) := r.take l.service.announcements
    { l with
      reporter := some r
      service := notices.foldl (fun s _ => reportOnce s) l.service }
  | none => l

def settle (l : Live) : Live := l.poll.listen.invalidate.report

def advance (l : Live) (ms : Nat) : Live :=
  let l := l.settle
  { l with clock := l.clock + ms }.settle

/-- Ends all tasks. -/
def cancel (l : Live) : Live :=
  let l := l.settle
  { l with
    poller := l.poller.map ({ · with done := true })
    listener := { l.listener with done := true }
    invalidator := { l.invalidator with done := true }
    reporter := l.reporter.map ({ · with done := true }) }

/-- Which of the poller, if there is one, the listener and the invalidator have ended. -/
def finished (l : Live) : List Bool :=
  (l.poller.map (·.done)).toList ++ [l.listener.done, l.invalidator.done]

/-! ## Starting -/

/-- The tasks of a service that has announced nothing yet, with a receiver of its changes. -/
def start (files : FileTree) (source : Source) (service : Service) (receiver : Receiver) :
    Live where
  files
  source
  service
  listener := { receiver }
  invalidator := { receiver := service.announcements.subscribe }

/-- Follows the rule of an application, from the text that is there now. -/
def attach (files : FileTree) (source : Source) (application : String) (compiler : Compiler)
    (capacity : Nat) (baseline : Call) (pool : Pool) : Except InstallError Live := do
  let (sub, source) ← (source.subscribe files (ruleKey application)).mapError .source
  let router ← Router.build compiler sub.key sub.initial
  return start files source (.ofRouter router capacity baseline pool) sub.receiver

/-- Follows a stream of changes. The memory gives the first text, and texts after missed changes. -/
def detached (memory : Memory) (streamCapacity : Nat) (application : String) (compiler : Compiler)
    (capacity : Nat) (baseline : Call) (pool : Pool) : Except InstallError Live := do
  let key := ruleKey application
  let router ← Router.build compiler key (memory.get? key)
  let stream := Channel.ofCapacity streamCapacity
  return { start {} (.memory memory) (.ofRouter router capacity baseline pool) stream.subscribe with
    stream := some stream }

def withPoller (l : Live) (interval : Nat) : Live := { l with poller := some { interval } }

/-- With reports, of which the first is made at once. -/
def withReporter (l : Live) : Live :=
  let service := reportOnce l.service
  { l with service, reporter := some { receiver := service.announcements.subscribe } }

end Live
end CallRouting
