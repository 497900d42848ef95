import CallRouting.Chain
import CallRouting.Meters
import CallRouting.Router

/-!
# Services

A `Service` routes the calls of one application: its router holds the rule, its chain the pool, and
its listener part takes new texts of the rule and announces each one that it has put in force.

* `Service.apply` : a text that is malformed or has a clause that is refused is rejected, and the
  rule in force stays;
* `Service.process` : one change from a source; changes of other keys are passed over;
* `Service.resync` : takes what reading the source gave, after changes were missed;
* `Service.route` : routes one call.
-/

namespace CallRouting

/-- What a listener is doing. -/
inductive Phase where
  | idle
  | parsing
  | installing
deriving DecidableEq

def Phase.name : Phase → String
  | idle => "Idle"
  | parsing => "Parsing"
  | installing => "Installing"

/-- Says that a rule is now in force. -/
structure Announcement where
  key : String
  version : Nat
  valid : Bool
  force : Bool
  runtime : Bool
deriving DecidableEq

def Announcement.ofSnapshot (key : String) (s : Snapshot) : Announcement where
  key
  version := s.version
  valid := s.rule.isValid
  force := s.rule.force
  runtime := s.rule.runtime

structure Service where
  router : Router
  chain : Chain
  phase : Phase := .idle
  announcements : Channel Announcement
  meters : Meters := {}

namespace Service

/-- A service that has announced nothing yet. -/
def ofRouter (router : Router) (capacity : Nat) (baseline : Call) (pool : Pool) : Service where
  router
  chain := .ofPool baseline pool
  announcements := .ofCapacity capacity

/-! ## New rules -/

def enter (s : Service) (p : Phase) : Service := { s with phase := p }

/-- Gives a text up for this reason. -/
def reject (s : Service) (e : InstallError) : Except InstallError Snapshot × Service :=
  (.error e, { s.enter .idle with meters := { s.meters with rejected := s.meters.rejected + 1 } })

/-- Announces the rule that this router has in force. -/
def announce (s : Service) (router : Router) : Except InstallError Snapshot × Service :=
  (.ok router.active,
    { s.enter .idle with
      router
      meters := { s.meters with installed := s.meters.installed + 1 }
      announcements := s.announcements.send (.ofSnapshot router.key router.active) })

def applyRule (s : Service) (rule : Rule) : Except InstallError Snapshot × Service :=
  match s.router.installRule rule with
  | .ok router => s.announce router
  | .error e => s.reject e

def apply (s : Service) (text : Option String) : Except InstallError Snapshot × Service :=
  let s := s.enter .parsing
  match Rule.parse text with
  | .ok rule => (s.enter .installing).applyRule rule
  | .error e => s.reject (.rule e)

def process (s : Service) (change : Change) : Except InstallError Snapshot × Service :=
  if change.key = s.router.key then s.apply change.value else (.ok s.router.active, s)

/-- Takes what reading the key's source has given. -/
def resync (s : Service) (text : Except SourceError (Option String)) :
    Except InstallError Snapshot × Service :=
  match text with
  | .ok text => s.apply text
  | .error e => s.reject (.source e)

/-- Puts a text in force without announcing it. -/
def install (s : Service) (text : Option String) : Except InstallError Snapshot × Service :=
  match s.router.install text with
  | .ok router => (.ok router.active, { s with router })
  | .error e => (.error e, s)

def installRule (s : Service) (rule : Rule) : Except InstallError Snapshot × Service :=
  match s.router.installRule rule with
  | .ok router => (.ok router.active, { s with router })
  | .error e => (.error e, s)

/-! ## Calls -/

/-- Routes a call under a snapshot and to a pool that were current when the call came in. -/
def routeWith (s : Service) (snapshot : Snapshot) (candidates : Candidates) (call : Call) :
    Except RoutingError Pool × Service :=
  let served := s.chain.serve s.router.key snapshot candidates call
  (served.result, { s with chain := served.chain, meters := s.meters.addRun? served.run })

def route (s : Service) (call : Call) : Except RoutingError Pool × Service :=
  s.routeWith s.router.active s.chain.candidates call

/-- Filters a pool for one call, under any snapshot. -/
def evaluate (s : Service) (snapshot : Snapshot) (call : Call) (pool : Pool) :
    Except RoutingError Pool × Service :=
  (snapshot.evaluated call pool,
    { s with meters := s.meters.addRun? (snapshot.evaluate call pool) })

/-- Filters a pool ahead of calls, under any snapshot. -/
def outcome (s : Service) (snapshot : Snapshot) (call : Call) (pool : Pool) :
    Except RoutingError Outcome × Service :=
  (snapshot.outcome call pool, { s with meters := s.meters.addRun? (snapshot.plan call pool) })

def setPool (s : Service) (pool : Pool) : Service := { s with chain := s.chain.setPool pool }

def invalidate (s : Service) : Service := { s with chain := s.chain.invalidate }

end Service
end CallRouting
