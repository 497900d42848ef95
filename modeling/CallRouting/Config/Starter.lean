import CallRouting.Config.File
import CallRouting.Toml.Quoted

/-!
# The first configuration of an application

* `Starter.text` : a configuration with comments, to begin with;
* `Starter.replace` : gives a setting another value, in the first line that sets it;
* `Starter.render` : the text for an application and a folder, and the configuration that it holds.
-/

namespace CallRouting.Starter

def lines : List String := [
  "# condgate configuration",
  "#",
  "# Precedence: CLI flags > CONDGATE_* environment variables > this file > defaults",
  "",
  "[router]",
  "# Rule key is \"<application>.condition-router\"",
  "application = \"demo\"",
  "",
  "[source]",
  "# \"file\": one <key>.yaml file per rule in \x60dir\x60, polled for changes",
  "# \"memory\": in-process only, starts with no rule",
  "kind = \"file\"",
  "dir = \"rules\"",
  "poll_interval_ms = 1000",
  "",
  "[notifications]",
  "# Buffered change messages per receiver",
  "capacity = 16",
  "",
  "[logging]",
  "# trace, debug, info, warn, error, off (RUST_LOG overrides)",
  "level = \"info\"",
  "# \"pretty\" or \"json\"",
  "format = \"pretty\"",
  "",
  "# Per-module levels: chain, cli, condition, config, listener, routing, rule, source",
  "# [logging.modules]",
  "# routing = \"trace\"",
  "# listener = \"debug\""]

/-- Lines, each of them ended by a line break. -/
def unlines (ls : List (List Char)) : List Char := ls.flatMap (· ++ ['\n'])

def text : List Char := unlines (lines.map String.toList)

/-- The lines of a text; a line break at its end starts no further line. -/
def splitLines : List Char → List (List Char)
  | [] => []
  | c :: r =>
    if c = '\n' then [] :: splitLines r
    else match splitLines r with
      | [] => [[c]]
      | l :: ls => (c :: l) :: ls

/-- Puts `new` in place of the first line that begins so. -/
def replaceFirst (start new : List Char) : List (List Char) → List (List Char)
  | [] => []
  | l :: ls => if start.isPrefixOf l then new :: ls else l :: replaceFirst start new ls

/-- Sets a name to a string in the first line that sets it. -/
def replace (t : List Char) (name value : String) : List Char :=
  let start := name.toList ++ " = ".toList
  unlines (replaceFirst start (start ++ Toml.quotedChars value.toList) (splitLines t))

def textFor (application dir : Option String) : List Char :=
  let t := match application with
    | some a => replace text "application" a
    | none => text
  match dir with
  | some d => replace t "dir" d
  | none => t

/-- The text with these settings and the configuration in it, which must be a valid one. The path is
the one that errors name. -/
def render (path : String) (application dir : Option String) :
    Except ConfigError (String × Config) := do
  let t := String.ofList (textFor application dir)
  match Config.parse? t with
  | some c =>
    c.validate
    return (t, c)
  | none => throw (.malformed path)

end CallRouting.Starter
