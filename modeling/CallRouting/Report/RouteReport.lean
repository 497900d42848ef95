import CallRouting.Report.Json
import CallRouting.Report.Table
import CallRouting.Report.Time
import CallRouting.Report.Tint
import CallRouting.Snapshot

/-!
# Reports on routes

A `RouteReport` says where a call goes and under which rule: as a table or as JSON.
-/

namespace CallRouting

open Report (Json Moment Table answer)

/-- How the endpoints for a call are found. -/
inductive RouteMode where
  /-- The rule filters nothing. -/
  | passThrough
  /-- They are the same for all calls. -/
  | precomputed
  | perCall
deriving DecidableEq

namespace RouteMode

def label : RouteMode → String
  | passThrough => "pass-through"
  | precomputed => "precomputed"
  | perCall => "per-call"

def name : RouteMode → String
  | passThrough => "pass_through"
  | precomputed => "precomputed"
  | perCall => "per_call"

def ofSnapshot (s : Snapshot) : RouteMode :=
  if !s.rule.isValid then passThrough else if s.isRuntime then perCall else precomputed

end RouteMode

/-- A time as reports write it: short for a line of text, in full for JSON. -/
structure Stamp where
  short : String
  full : String

def Stamp.ofMoment (m : Moment) : Stamp := ⟨m.summary, m.exact⟩

structure RouteReport where
  key : String
  version : Nat
  installed : Stamp
  mode : RouteMode
  force : Bool
  /-- How many endpoints there were to choose from. -/
  candidates : Nat
  endpoints : Pool

namespace RouteReport

/-! ## Table -/

def summary (r : RouteReport) (colours : Bool) : String :=
  r.key ++ " v" ++ toString r.version ++ " (installed " ++ r.installed.short ++ " UTC)  mode: " ++
    r.mode.label ++ "  force: " ++ answer colours r.force ++
    "  kept " ++ toString r.endpoints.length ++ "/" ++ toString r.candidates

def attributesText (attributes : Attributes) : String :=
  ", ".intercalate (attributes.toList.map fun (k, v) => k ++ "=" ++ v)

def table (r : RouteReport) : Table where
  header := ["Endpoint", "Address", "Attributes"]
  rows := r.endpoints.map fun e => [e.id, e.address, attributesText e.attributes]

def text (r : RouteReport) (colours : Bool) : String :=
  r.summary colours ++ "\n" ++ r.table.draw

/-! ## JSON -/

def endpointJson (e : Endpoint) : Json :=
  .ofFields [("id", .text e.id), ("address", .text e.address),
    ("attributes", .object ((e.attributes.map fun _ v => Json.text v).toList))]

def json (r : RouteReport) : Json :=
  .ofFields [("route", .ofFields [
    ("key", .text r.key), ("version", .number r.version),
    ("installed_at", .text r.installed.full), ("mode", .text r.mode.name),
    ("force", .bool r.force), ("candidates", .number r.candidates),
    ("endpoints", .array (r.endpoints.map endpointJson))])]

end RouteReport
end CallRouting
