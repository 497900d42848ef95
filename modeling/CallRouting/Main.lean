import CallRouting.Command.Run
import Std.Time.DateTime.Timestamp

/-!
# The program

`main` carries out the command that its words ask for. What it needs of the files is looked at
first, so that the command itself is a function, and afterwards the files that it has changed are
written.
-/

namespace CallRouting.Main

/-! ## Files -/

/-- What is at a path. -/
def lookAt (path : String) : IO (Option Entry) := do
  match ← (IO.FS.realPath (path ++ "/.")).toBaseIO with
  | .ok _ => return some .folder
  | .error _ =>
    match ← (IO.FS.readBinFile path).toBaseIO with
    | .ok content => return some (.file content.toList)
    | .error _ => return none

/-- The paths of the folders on the way, and the path itself. -/
def pathsTo (path : String) : List String :=
  let p := Path.ofText path
  let root := if p.absolute then "/" else ""
  (List.range p.names.length).map fun n => root ++ FileTree.key (p.names.take (n + 1))

/-- Takes in what is at a path now. -/
def observe (files : FileTree) (path : String) : IO FileTree :=
  (pathsTo path).foldlM (fun files path => do
    match files.locate path with
    | .error _ => return files
    | .ok place =>
      match ← lookAt path with
      | some entry => return files.put place entry
      | none => return files.remove place) files

def observeAll (files : FileTree) (paths : List String) : IO FileTree := paths.foldlM observe files

/-- The working folder, of which nothing is known yet. -/
def surroundings : IO FileTree := do
  let here := (Path.ofText (toString (← IO.currentDir))).names
  let above := (List.range here.length).map fun n => here.take (n + 1)
  return { above.foldl (·.put · .folder) ({} : FileTree) with here }

/-- Writes what is new or has changed. Folders come before what is in them. -/
def store (old new : FileTree) : IO Unit :=
  new.entries.toList.forM fun (k, entry) => do
    if old.entries.get? k ≠ some entry then
      match entry with
      | .folder => IO.FS.createDirAll ("/" ++ k)
      | .file content => IO.FS.writeBinFile ("/" ++ k) ⟨content.toArray⟩

/-! ## Surroundings -/

def variableNames : List String :=
  ["APPLICATION", "SOURCE", "RULES_DIR", "POLL_INTERVAL_MS", "LOG_LEVEL", "LOG_FORMAT"].map
    ("CONDGATE_" ++ ·)

def environment : IO (Dict String) := do
  let found ← variableNames.filterMapM fun name => do
    return (← IO.getEnv name).map (name, ·)
  return .ofList found

def now : IO Report.Moment := do
  let t ← Std.Time.Timestamp.now
  return ⟨t.val.second.val, t.val.nano.val.toNat⟩

/-- What a command looks at, or may write. -/
def pathsOf : Command → List String
  | .check c => [c.rule]
  | .route c => [c.rule, c.endpoints]
  | .watch c => c.config :: c.endpoints.toList
  | .init c => c.output :: ({} : Config).dir :: c.dir.toList

/-! ## Following a rule -/

/-- Says which rule is in force and where calls go. -/
def announce (l : Live) : IO Unit := do
  let router := l.service.router
  let target := match (l.service.route {}).1 with
    | .ok pool => ", ".intercalate (pool.map (·.id))
    | .error e => e.message
  IO.println (router.key ++ " v" ++ toString router.active.version ++ ": " ++ target)
  (← IO.getStdout).flush

/-- Polls for ever, and announces each new rule. -/
partial def follow (path : String) (interval : Nat) (l : Live) : IO Unit := do
  IO.sleep interval.toUInt32
  let next := { l with files := ← observe l.files path }.advance interval
  if next.service.router.active.version ≠ l.service.router.active.version then announce next
  follow path interval next

def watch (c : WatchCommand) (config : Config) (files : FileTree) : IO (Except Failure Unit) := do
  let path := Path.join config.dir (config.ruleKey ++ ".yaml")
  let files ← observe files path
  let started : Except Failure Live := do
    let pool ← match c.endpoints with
      | some path => Pool.load files path
      | none => pure []
    (config.watch files pool).mapError .install
  match started with
  | .error e => return .error e
  | .ok l =>
    announce l.settle
    follow path config.pollInterval l.settle
    return .ok ()

/-! ## Commands -/

def usage : String := "\n".intercalate [
  "Usage: condgate <COMMAND>",
  "",
  "Commands:",
  "  check <RULE> [--json]",
  "  route -r <RULE> -e <ENDPOINTS> [-m <METHOD>] [--arg <ARG>]... [--attr <KEY=VALUE>]...",
  "        [--caller-host <HOST>] [--json]",
  "  watch [-c <CONFIG>] [-e <ENDPOINTS>] [-a <APPLICATION>] [-d <RULES_DIR>] [-l <LOG_LEVEL>]",
  "  config init [-o <OUTPUT>] [-f] [-a <APPLICATION>] [-d <RULES_DIR>] [--create-rules-dir]"]

def fail (e : Failure) : IO UInt32 := do
  IO.eprintln ("Error: " ++ e.message)
  return 1

def carryOut (c : Command) (environment : Dict String) : IO UInt32 := do
  let files ← observeAll (← surroundings) (pathsOf c)
  let (reply, after) := c.run files environment (.ofMoment (← now)) (← (← IO.getStdout).isTty)
  store files after
  match reply, c with
  | .error e, _ => fail e
  | .ok (.report text), _ =>
    IO.println text
    return 0
  | .ok (.written text), _ =>
    IO.print text
    return 0
  | .ok (.watch config), .watch c =>
    match ← watch c config files with
    | .ok () => return 0
    | .error e => fail e
  | .ok (.watch _), _ => return 0

end CallRouting.Main

open CallRouting in
def main (words : List String) : IO UInt32 := do
  let environment ← Main.environment
  match Command.parse environment words with
  | .ok c => Main.carryOut c environment
  | .error .help =>
    IO.println Main.usage
    return 0
  | .error .misuse =>
    IO.eprintln Main.usage
    return 2
