import CallRouting.Config.Basic
import CallRouting.Toml.Document
import CallRouting.Toml.Fields

/-!
# Configuration files

* `Config.parse?` : the configuration that a text describes; what it leaves out is as in the
  configuration for everyone;
* `Config.load` : the configuration in a file;
* `Pool.parse?` : the endpoints that a text lists.
-/

namespace CallRouting

open Toml (Value Fields field?)

/-! ## Configurations -/

def Logging.ofValue? (v : Value) : Option Logging := do
  let fs ← v.fields? ["level", "format", "modules"]
  let d : Logging := {}
  return {
    level := ← field? fs "level" (some d.level) Value.string?
    format := ← field? fs "format" (some d.format) (Value.choice? LogFormat.ofName?)
    modules := ← field? fs "modules" (some d.modules) Value.texts? }

namespace Config

def applicationOfValue? (v : Value) : Option String := do
  field? (← v.fields? ["application"]) "application" (some ({} : Config).application) Value.string?

def capacityOfValue? (v : Value) : Option Nat := do
  field? (← v.fields? ["capacity"]) "capacity" (some ({} : Config).capacity)
    (Value.natBelow? UInt64.size)

/-- A configuration with the source that a value describes. -/
def withSource? (c : Config) (v : Value) : Option Config := do
  let fs ← v.fields? ["kind", "dir", "poll_interval_ms"]
  return { c with
    sourceKind := ← field? fs "kind" (some c.sourceKind) (Value.choice? SourceKind.ofName?)
    dir := ← field? fs "dir" (some c.dir) Value.string?
    pollInterval := ← field? fs "poll_interval_ms" (some c.pollInterval)
      (Value.natBelow? UInt64.size) }

def ofValue? (v : Value) : Option Config := do
  let fs ← v.fields? ["router", "source", "notifications", "logging"]
  let d : Config := {}
  let application ← field? fs "router" (some d.application) applicationOfValue?
  let c ← field? fs "source" (some d) d.withSource?
  let capacity ← field? fs "notifications" (some d.capacity) capacityOfValue?
  let logging ← field? fs "logging" (some d.logging) Logging.ofValue?
  return { c with application, capacity, logging }

def parse? (text : String) : Option Config := do ofValue? (← Toml.parse? text)

def read (files : FileTree) (path : String) : Except ConfigError Config := do
  let text ← (files.readText path).mapError (.read path)
  match parse? text with
  | some c => return c
  | none => throw (.malformed path)

/-- The configuration in a file that must be there. -/
def load (files : FileTree) (path : String) : Except ConfigError Config :=
  if files.contains path then read files path else .error (.notFound path)

end Config

/-! ## Endpoints -/

def Endpoint.ofValue? (v : Value) : Option Endpoint := do
  let fs ← v.fields? ["id", "host", "port", "attributes"]
  return {
    id := ← field? fs "id" none Value.string?
    host := ← field? fs "host" none Value.string?
    port := UInt16.ofNat (← field? fs "port" (some 0) (Value.natBelow? UInt16.size))
    attributes := ← field? fs "attributes" (some .empty) Value.texts? }

/-- The endpoints that a text lists, in the order in which they are listed. -/
def Pool.parse? (text : String) : Option Pool := do
  let fs ← (← Toml.parse? text).fields? ["endpoints"]
  field? fs "endpoints" (some []) fun v => do (← v.array?).mapM Endpoint.ofValue?

end CallRouting
