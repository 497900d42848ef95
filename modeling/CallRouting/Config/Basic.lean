import CallRouting.FileTree
import CallRouting.Router
import CallRouting.Text.Lowercase

/-!
# Configurations

* `Config.withEnvironment` : what environment variables change; a value that cannot be read is
  passed over;
* `Config.validate` : the first thing that is wrong with a configuration, in a fixed order;
* `Logging.directives` : the levels in the form that the log understands.
-/

namespace CallRouting

inductive SourceKind where
  | file
  | memory
deriving DecidableEq

namespace SourceKind

def name : SourceKind → String
  | file => "file"
  | memory => "memory"

def ofName? (s : String) : Option SourceKind :=
  if s = "file" then some file else if s = "memory" then some memory else none

/-- By its name in upper or lower case. -/
def parse (s : String) : Except String SourceKind :=
  match ofName? (Text.lowercase s) with
  | some k => .ok k
  | none => .error ("Invalid source kind: " ++ s)

end SourceKind

inductive LogFormat where
  | pretty
  | json
deriving DecidableEq

namespace LogFormat

def name : LogFormat → String
  | pretty => "pretty"
  | json => "json"

def ofName? (s : String) : Option LogFormat :=
  if s = "pretty" then some pretty else if s = "json" then some json else none

/-- By its name in upper or lower case. -/
def parse (s : String) : Except String LogFormat :=
  match ofName? (Text.lowercase s) with
  | some f => .ok f
  | none => .error ("Invalid log format: " ++ s)

end LogFormat

structure Logging where
  level : String := "info"
  format : LogFormat := .pretty
  /-- Levels for single parts of the program. -/
  modules : Dict String := .empty
deriving DecidableEq

structure Config where
  application : String := "demo"
  sourceKind : SourceKind := .file
  /-- The folder of the rules. -/
  dir : String := "rules"
  /-- In milliseconds. -/
  pollInterval : Nat := 1000
  /-- How many messages are kept for slow receivers. -/
  capacity : Nat := Source.defaultCapacity
  logging : Logging := {}
deriving DecidableEq

/-- Why a configuration cannot be used, or not be written. -/
inductive ConfigError where
  | read (path : String) (e : FileError)
  | notFound (path : String)
  /-- The file is no configuration. -/
  | malformed (path : String)
  | invalid (field reason : String)
  | unknownLevel (field level : String)
  | unknownModule (module : String)
  /-- The file to write is there already. -/
  | taken (path : String)
  | write (path : String) (e : FileError)
deriving DecidableEq

/-! ## Logging -/

namespace Logging

def levels : List String := ["trace", "debug", "info", "warn", "error", "off"]

/-- The parts of the program that have levels of their own. -/
def moduleNames : List String :=
  ["chain", "cli", "condition", "config", "listener", "routing", "rule", "source"]

def checkLevel (field level : String) : Except ConfigError Unit :=
  if Text.lowercase level ∈ levels then .ok () else .error (.unknownLevel field level)

def checkModule (name level : String) : Except ConfigError Unit :=
  if name ∈ moduleNames then checkLevel ("logging.modules." ++ name) level
  else .error (.unknownModule name)

def validate (l : Logging) : Except ConfigError Unit := do
  checkLevel "logging.level" l.level
  l.modules.toList.forM fun (name, level) => checkModule name level

def directives (l : Logging) : String :=
  Text.lowercase l.level ++ String.join (l.modules.toList.map fun (name, level) =>
    ",condgate::" ++ name ++ "=" ++ Text.lowercase level)

end Logging

def ConfigError.message : ConfigError → String
  | read path e => "Failed to read config " ++ path ++ ": " ++ e.message
  | notFound path => "Config file not found: " ++ path
  | malformed path => "Failed to parse config " ++ path
  | invalid field reason => "Invalid value for '" ++ field ++ "': " ++ reason
  | unknownLevel field level =>
    "Unknown log level '" ++ level ++ "' for '" ++ field ++ "' (expected one of " ++
      ", ".intercalate Logging.levels ++ ")"
  | unknownModule name =>
    "Unknown module '" ++ name ++ "' in [logging.modules] (expected one of " ++
      ", ".intercalate Logging.moduleNames ++ ")"
  | taken path => path ++ " already exists; pass --force to replace it"
  | write path e => "Failed to write " ++ path ++ ": " ++ e.message

/-! ## Configurations -/

namespace Config

/-- The key of the application's rule. -/
def ruleKey (c : Config) : String := CallRouting.ruleKey c.application

def checkApplication (application : String) : Except ConfigError Unit :=
  let name := Text.trim application.toList
  if name = [] then .error (.invalid "router.application" "application cannot be empty")
  else if name.contains '/' || name.contains '\\' then
    .error (.invalid "router.application" "application cannot contain path separators")
  else .ok ()

def validate (c : Config) : Except ConfigError Unit := do
  checkApplication c.application
  if c.sourceKind = .file ∧ c.pollInterval = 0 then
    throw (.invalid "source.poll_interval_ms" "poll interval must be non-zero")
  if c.capacity = 0 then throw (.invalid "notifications.capacity" "capacity must be non-zero")
  c.logging.validate

/-- Changes a configuration by a value, if there is one and it can be read. -/
def override {α : Type} (c : Config) (value : Option α) (set : Config → α → Config) : Config :=
  value.elim c (set c)

def withEnvironment (c : Config) (environment : Dict String) : Config :=
  let get (name : String) : Option String := environment.get? ("CONDGATE_" ++ name)
  let c := c.override (get "APPLICATION") fun c s => { c with application := s }
  let c := c.override ((get "SOURCE").bind fun s => (SourceKind.parse s).toOption)
    fun c k => { c with sourceKind := k }
  let c := c.override (get "RULES_DIR") fun c s => { c with dir := s }
  let c := c.override ((get "POLL_INTERVAL_MS").bind fun s =>
      Text.natBelow? UInt64.size s.toList)
    fun c n => { c with pollInterval := n }
  let c := c.override (get "LOG_LEVEL") fun c s => { c with logging.level := s }
  c.override ((get "LOG_FORMAT").bind fun s => (LogFormat.parse s).toOption)
    fun c f => { c with logging.format := f }

end Config
end CallRouting
