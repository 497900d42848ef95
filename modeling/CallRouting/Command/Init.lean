import CallRouting.Command.Basic
import CallRouting.Config.Starter

/-!
# Writing a first configuration

`InitCommand.run` writes a configuration only after it has been found valid. Making the folder of
the rules comes last, so if that fails the file is there all the same.
-/

namespace CallRouting.InitCommand

/-- What is said after a configuration has been written. -/
def text (c : InitCommand) (config : Config) : String :=
  let key := config.ruleKey
  "✓ Configuration file created: " ++ c.output ++ "\n" ++
    "  Rule key:  " ++ key ++ "\n" ++
    "  Rule file: " ++ Path.join config.dir (key ++ ".yaml") ++ "\n" ++
    "  Start following it with \x60condgate watch -c " ++ c.output ++ "\x60.\n"

/-- Makes the folder of the rules, if that is asked for. -/
def makeRules (c : InitCommand) (config : Config) (files : FileTree) :
    Except ConfigError Unit × FileTree :=
  if c.makeDir then
    let (made, files) := files.makeFolders config.dir
    (made.mapError (.write config.dir), files)
  else (.ok (), files)

def run (c : InitCommand) (files : FileTree) : Except ConfigError String × FileTree :=
  if files.contains c.output && !c.force then (.error (.taken c.output), files)
  else match Starter.render c.output c.application c.dir with
    | .error e => (.error e, files)
    | .ok (content, config) =>
      match files.writeFile c.output content.toUTF8.toList with
      | .error e => (.error (.write c.output e), files)
      | .ok written =>
        let (made, files) := c.makeRules config written
        (made.map fun () => c.text config, files)

end CallRouting.InitCommand
