import CallRouting.Command.Basic
import CallRouting.Config.File
import CallRouting.Live

/-!
# Following a rule

* `WatchCommand.configuration` : the file, over it the environment, over that the options;
* `Config.watch` : the live service that a configuration describes.
-/

namespace CallRouting

namespace WatchCommand

/-- The configuration to use; a file that is missing is one that sets nothing. -/
def configuration (c : WatchCommand) (files : FileTree) (environment : Dict String) :
    Except ConfigError Config := do
  let config ← if files.contains c.config then Config.load files c.config else pure {}
  let config := config.withEnvironment environment
  return {
    config with
    application := c.application.getD config.application
    dir := c.dir.getD config.dir
    logging.level := c.level.getD config.logging.level }

/-- The configuration to use, if it is valid. -/
def run (c : WatchCommand) (files : FileTree) (environment : Dict String) :
    Except ConfigError Config := do
  let config ← c.configuration files environment
  config.validate
  return config

end WatchCommand

/-- Follows the rule of the application, with a plan for a call of which nothing is known. -/
def Config.watch (c : Config) (files : FileTree) (pool : Pool) : Except InstallError Live := do
  match c.sourceKind with
  | .file =>
    let d : Directory := { dir := c.dir, capacity := c.capacity }
    let l ← Live.attach files (.directory d) c.application .clauses c.capacity {} pool
    return (l.withPoller c.pollInterval).withReporter
  | .memory =>
    let m : Memory := { capacity := c.capacity }
    return (← Live.attach files (.memory m) c.application .clauses c.capacity {} pool).withReporter

end CallRouting
