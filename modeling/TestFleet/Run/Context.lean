import TestFleet.Config.Schema
import TestFleet.Run.Identifier
import TestFleet.Files.Path
import TestFleet.Text.Expansion
import TestFleet.Work.Item
import TestFleet.Result
import TestFleet.Host
/-!
# What scopes know

Each scope has a context: what its rules and backends may look at. The context of a scope holds
that of the scope around it.
-/
namespace TestFleet

/-- What the rules of the run know. -/
structure RunContext where
  runId : RunId
  config : Config
  outputDir : String
  startedAt : Time.Moment
  deriving Inhabited

/-- The output directory with variables and the home directory put in. -/
def RunSettings.expandedOutputDir (s : RunSettings) (env : String → Option String) : String :=
  Text.expand env s.outputDir

/-- The context of a run that starts on a host. -/
def RunContext.ofConfig (config : Config) (runId : RunId) (host : Host) : RunContext :=
  ⟨runId, config, config.run.expandedOutputDir host.env?, host.clock⟩

/-- What the rules of a pool know. -/
structure PoolContext where
  run : RunContext
  pool : DevicePool
  deriving Inhabited

/-- The configuration of the run. -/
def PoolContext.config (c : PoolContext) : Config := c.run.config

/-- What the rules of a device know. -/
structure DeviceContext where
  inPool : PoolContext
  device : Device
  deriving Inhabited

namespace DeviceContext

/-- The pool of the device. -/
def pool (c : DeviceContext) : DevicePool := c.inPool.pool

/-- The configuration of the run. -/
def config (c : DeviceContext) : Config := c.inPool.config

end DeviceContext

/-- What the rules of an attempt, and its backend, know. -/
structure AttemptContext where
  onDevice : DeviceContext
  item : WorkItem
  deriving Inhabited

namespace AttemptContext

/-- The device of the attempt. -/
def device (c : AttemptContext) : Device := c.onDevice.device

/-- The pool of the attempt. -/
def pool (c : AttemptContext) : DevicePool := c.onDevice.pool

/-- The configuration of the run. -/
def config (c : AttemptContext) : Config := c.onDevice.config

/-- The identity that every result of the attempt must have. -/
def identity (c : AttemptContext) : ResultIdentity := ⟨c.pool.id, c.device.id, c.item.test⟩

/-- The directory for the files of the attempt. -/
def artifactRoot (c : AttemptContext) : String :=
  ["artifacts", c.pool.id.name, c.device.id.serial, c.item.test.safeName,
    "attempt-" ++ toString c.item.failures].foldl Files.join c.onDevice.inPool.run.outputDir

end AttemptContext

namespace Hosted

variable {W ε : Type} [Hosted W]

/-- Writes a file below a directory, which is made if need be. -/
def writeArtifact (root name : String) (content : Files.Octets) :
    Action W Files.Failure Artifact :=
  onHost fun h =>
    match h.files.makeDirectories root with
    | .error f => (.failed f, h)
    | .ok files =>
      let path := Files.join root name
      match files.write path content with
      | .error f => (.failed f, { h with files })
      | .ok files => (.done ⟨name, path⟩, { h with files })

end Hosted

end TestFleet
