import TestFleet.CommandLine.Help
import TestFleet.Config.Load
import TestFleet.Plugin.Builtin
import TestFleet.Report.Console
import TestFleet.Report.Json
import TestFleet.Report.JUnit
import TestFleet.Run.Execute
/-!
# The program

The program reads its arguments, loads a configuration, and runs the suite, checks the plan or
lists the devices. It ends with an exit code: that of the run, 1 when it cannot go on, and 2 when
its arguments ask for nothing that it does.
-/
namespace TestFleet.CommandLine

/-- Why the program cannot go on. -/
inductive Trouble where
  | load (path : String) (error : LoadError)
  | run (error : RunError)
  | plan (error : RunError)
  | discover (error : RunError)
  deriving DecidableEq, Repr, Inhabited

/-- What the errors of a configuration come from. -/
def configCauses : ConfigError → List String
  | .plugin _ _ fault => [fault.message]
  | _ => []

/-- What the errors of device providers come from. -/
def providerCauses : ProviderError → List String
  | .io failure => [failure.message]
  | _ => []

/-- What the errors of a suite come from, the error itself included. -/
def suiteCauses : SuiteError → List String
  | .unreadable path failure => ["Failed to read suite file: " ++ path, failure.message]
  | .malformed path => ["Failed to parse suite file: " ++ path]

/-- What stopped a run comes from. -/
def runCauses : RunError → List String
  | .config e => configCauses e
  | .provider e => e.message :: providerCauses e
  | .suite _ e => suiteCauses e
  | .pipeline (.before _ _ reason) => reason.message :: reason.causes
  | .pipeline (.identityChanged ..) | .aborted => []

/-- What the errors of loading come from, the error itself included. -/
def loadCauses : LoadError → List String
  | .unreadable path failure => [(LoadError.unreadable path failure).headline, failure.message]
  | e => [e.headline]

/-- The trouble and its causes. -/
def Trouble.reason : Trouble → Reason
  | .load path e => ⟨"Failed to load config from " ++ path, loadCauses e⟩
  | .run e => ⟨"Run failed", e.message :: runCauses e⟩
  | .plan e => ⟨"Invalid configuration", e.message :: runCauses e⟩
  | .discover e => ⟨e.message, runCauses e⟩

/-- A reason as the program writes it when it gives up. -/
def complaint (r : Reason) : List String :=
  let numbered := (List.range r.causes.length).zip r.causes
  let causes := match r.causes with
    | [] => []
    | [only] => ["", "Caused by:", "    " ++ only]
    | _ => ["", "Caused by:"] ++ numbered.map fun (i, c) => "    " ++ toString i ++ ": " ++ c
  ("Error: " ++ r.message) :: causes

/-- How the program ended. -/
structure Ending where
  exit : Nat
  trouble : Option Trouble
  deriving DecidableEq, Repr, Inhabited

variable {W : Type} [Hosted W]

/-- Prints lines. -/
def printLines (lines : List String) : Action W Trouble Unit :=
  Action.change (Hosted.modify (Console.printAll lines))

/-- Loads the configuration at a path. -/
def load (path : String) : Action W Trouble Config := fun w =>
  ((Outcome.ofExcept (Config.load (Hosted.host w).files path)).mapError (.load path), w)

/-- The reporters that a configuration asks for; a path on the command line goes first. -/
def reporters (config : Config) (junit : Option String) (verbose : Bool) (host : Host) :
    List (Reporter W) :=
  let console := if config.report.console then [Console.reporter verbose] else []
  let outputDir := config.run.expandedOutputDir host.env?
  let json :=
    if config.report.json then [Report.Json.reporter (Files.join outputDir "results.json")]
    else []
  let junit := (junit <|> config.report.junit).toList.map fun path =>
    Report.JUnit.reporter path config.run.name
  console ++ json ++ junit

/-- Runs the suite. -/
def runSuite (registry : Registry W) (id : RunId) (path : String) (verbose ignoreFailures : Bool)
    (junit : Option String) : Action W Trouble Nat := do
  let config ← load path
  let config :=
    if ignoreFailures then { config with run := { config.run with ignoreFailures := true } }
    else config
  let w ← Action.world (W := W)
  let reporter := Reporter.all (reporters config junit verbose (Hosted.host w))
  let r ← (RunPlan.runConfig registry reporter config id).mapError .run
  pure r.exitCode

/-- What is said of a planned pool. -/
def planLine (p : PoolPlan) : String :=
  "  " ++ p.pool.id.name ++ ": " ++ toString p.pool.devices.length ++ " device(s), "
    ++ toString p.items.length ++ " test(s)"

/-- Plans the run and says what was found. -/
def validate (registry : Registry W) (id : RunId) (path : String) : Action W Trouble Nat := do
  let config ← load path
  let plan ← (RunPlan.ofConfig registry config id).mapError .plan
  printLines ("Configuration valid" :: plan.pools.map planLine)
  pure 0

/-- What is said of a device. -/
def deviceLine (d : Device) : String :=
  let model := if d.model.isEmpty then "-" else d.model
  "  " ++ Text.padRight 24 d.id.serial ++ " " ++ Text.padRight 20 model ++ " api "
    ++ Text.padRight 4 (toString d.platformVersion) ++ " " ++ d.display.name

/-- What is said of a pool and its devices. -/
def poolLines (p : DevicePool) : List String :=
  (p.id.name ++ " (" ++ toString p.devices.length ++ " device(s))") :: p.devices.map deviceLine

/-- Lists the pools and their devices. -/
def listDevices (registry : Registry W) (path : String) : Action W Trouble Nat := do
  let config ← load path
  let pools ← (RunPlan.discover registry config).mapError .discover
  printLines (pools.flatMap poolLines)
  pure 0

/-- Does what is asked for. -/
def perform (registry : Registry W) (id : RunId) : Request → Action W Trouble Nat
  | .help topic => (printLines (helpLines topic)).andThen fun _ => .give 0
  | .version => (printLines [versionLine]).andThen fun _ => .give 0
  | .invoke path verbose command =>
    match command with
    | .run ignoreFailures junit => runSuite registry id path verbose ignoreFailures junit
    | .validate => validate registry id path
    | .devices => listDevices registry path

/-- The exit code when the arguments are refused. -/
def refusedExit : Nat := 2

/-- The exit code after a panic. -/
def panicExit : Nat := 101

/-- The program on the arguments it is given. -/
def program (registry : Registry W) (id : RunId) (args : List String) (w : W) : Ending × W :=
  match Request.ofArguments? args with
  | none => (⟨refusedExit, none⟩, w)
  | some request =>
    match perform registry id request w with
    | (.done exit, w) => (⟨exit, none⟩, w)
    | (.failed t, w) => (⟨1, some t⟩, w)
    | (.panicked _, w) => (⟨panicExit, none⟩, w)

end TestFleet.CommandLine
