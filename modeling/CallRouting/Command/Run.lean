import CallRouting.Command.Check
import CallRouting.Command.Init
import CallRouting.Command.Route
import CallRouting.Command.Watch

/-!
# Carrying out commands

`Command.run` gives the reply to a command and the files after it. Only `config init` changes files.
-/

namespace CallRouting

/-- What comes of a command. -/
inductive Reply where
  /-- A report to show, without a line break at its end. -/
  | report (text : String)
  /-- Files have been written. The text that says so ends with a line break. -/
  | written (text : String)
  /-- The rule is to be followed under this configuration. -/
  | watch (config : Config)

def Command.run (c : Command) (files : FileTree) (environment : Dict String) (now : Stamp)
    (colours : Bool) : Except Failure Reply × FileTree :=
  match c with
  | check c => ((c.run files colours).map .report, files)
  | route c => ((c.run files now colours).map .report, files)
  | watch c => (((c.run files environment).mapError .config).map .watch, files)
  | init c =>
    let (text, files) := c.run files
    ((text.mapError .config).map .written, files)

end CallRouting
