import CallRouting.Command.Options
import CallRouting.Endpoint

/-!
# Commands

* `Command.parse` : the command that a list of words asks for. Some options of `watch` may be given
  by environment variables too.
-/

namespace CallRouting

/-- Looks for mistakes in the file of a rule. -/
structure CheckCommand where
  rule : String
  json : Bool

/-- Says where one call goes. -/
structure RouteCommand where
  rule : String
  endpoints : String
  call : Call
  json : Bool

/-- Follows the rule of an application. -/
structure WatchCommand where
  config : String
  endpoints : Option String
  application : Option String
  dir : Option String
  level : Option String

/-- Writes a first configuration. -/
structure InitCommand where
  output : String
  force : Bool
  application : Option String
  dir : Option String
  /-- Whether to make the folder of the rules, too. -/
  makeDir : Bool

inductive Command where
  | check (c : CheckCommand)
  | route (c : RouteCommand)
  | watch (c : WatchCommand)
  | init (c : InitCommand)

namespace Command

/-- Where a configuration is, if no path is given. -/
def configPath : String := "condgate.toml"

def required {α : Type} : Option α → Except Refusal α
  | some a => .ok a
  | none => .error .misuse

/-! ## One command each -/

def checkUsage : Usage where
  settings := [{ name := "json" }]
  operand := some .path

def parseCheck (words : List String) : Except Refusal CheckCommand := do
  let g ← checkUsage.read words
  return { rule := ← required g.operands.head?, json := g.has "json" }

def routeUsage : Usage where
  settings := [
    { name := "rule", short := some 'r', kind := .value .path },
    { name := "endpoints", short := some 'e', kind := .value .path },
    { name := "method", short := some 'm', kind := .value .text },
    { name := "arg", kind := .value .text, repeats := true },
    { name := "attr", kind := .value .pair, repeats := true },
    { name := "caller-host", kind := .value .text },
    { name := "json" }]

/-- The call that options describe. -/
def callOf (g : Given) : Call where
  host := g.get? "caller-host"
  method := g.get? "method"
  arguments := g.all "arg"
  attributes := .ofList ((g.all "attr").filterMap fun s => (parsePair s).toOption)

def parseRoute (words : List String) : Except Refusal RouteCommand := do
  let g ← routeUsage.read words
  return {
    rule := ← required (g.get? "rule")
    endpoints := ← required (g.get? "endpoints")
    call := callOf g
    json := g.has "json" }

def watchUsage : Usage where
  settings := [
    { name := "config", short := some 'c', kind := .value .path },
    { name := "endpoints", short := some 'e', kind := .value .path },
    { name := "application", short := some 'a', kind := .value .text },
    { name := "rules-dir", short := some 'd', kind := .value .path },
    { name := "log-level", short := some 'l', kind := .value .text }]

/-- The value of an option, or else that of an environment variable. -/
def valueOr (g : Given) (name : String) (environment : Dict String) (key : String) :
    Option String :=
  (g.get? name).orElse fun _ => environment.get? key

def parseWatch (environment : Dict String) (words : List String) : Except Refusal WatchCommand := do
  let g ← watchUsage.read words
  let dir := valueOr g "rules-dir" environment "CONDGATE_RULES_DIR"
  if dir = some "" then throw .misuse
  return {
    config := (g.get? "config").getD configPath
    endpoints := g.get? "endpoints"
    application := valueOr g "application" environment "CONDGATE_APPLICATION"
    dir
    level := valueOr g "log-level" environment "CONDGATE_LOG_LEVEL" }

def initUsage : Usage where
  settings := [
    { name := "output", short := some 'o', kind := .value .path },
    { name := "force", short := some 'f' },
    { name := "application", short := some 'a', kind := .value .text },
    { name := "rules-dir", short := some 'd', kind := .value .path },
    { name := "create-rules-dir" }]

def parseInit (words : List String) : Except Refusal InitCommand := do
  let g ← initUsage.read words
  return {
    output := (g.get? "output").getD configPath
    force := g.has "force"
    application := g.get? "application"
    dir := g.get? "rules-dir"
    makeDir := g.has "create-rules-dir" }

/-! ## All commands -/

/-- The names after `help` that there is help on. -/
def helpTopics : List (List String) :=
  [[], ["check"], ["route"], ["watch"], ["config"], ["config", "init"], ["config", "help"],
    ["help"]]

/-- The refusal of words that name no command; options that ask for help may be among them. -/
def refuse (settings : List Setting) (word : String) : Refusal :=
  match ({ settings } : Usage).read [word] with
  | .error r => r
  | .ok _ => .misuse

def helpOn (topics : List (List String)) (words : List String) : Refusal :=
  if words ∈ topics then .help else .misuse

def parseConfig : List String → Except Refusal Command
  | [] => .error .misuse
  | "init" :: words => (parseInit words).map .init
  | "help" :: words => .error (helpOn [[], ["init"], ["help"]] words)
  | word :: _ => .error (refuse [] word)

def parse (environment : Dict String) : List String → Except Refusal Command
  | [] => .error .misuse
  | "check" :: words => (parseCheck words).map .check
  | "route" :: words => (parseRoute words).map .route
  | "watch" :: words => (parseWatch environment words).map .watch
  | "config" :: words => parseConfig words
  | "help" :: words => .error (helpOn helpTopics words)
  | word :: _ => .error (refuse [{ name := "version", short := some 'V', kind := .help }] word)

end Command
end CallRouting
