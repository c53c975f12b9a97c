import TestFleet.CommandLine.Request
/-!
# Help

What the program says about itself and its commands.
-/
namespace TestFleet.CommandLine

/-- What the program says of its version. -/
def versionLine : String := "poolrun 0.1.0"

/-- What a command is for. -/
def about : Topic → String
  | .program => "Retry-aware parallel test scheduler for device pools"
  | .run => "Run the suite on every pool"
  | .validate => "Validate configuration, devices, suite and plugins without running"
  | .devices => "List devices and the pools they are partitioned into"
  | .help => "Print this message or the help of the given subcommand(s)"

/-- How a command is written. -/
def usage : Topic → String
  | .program => "Usage: poolrun [OPTIONS] <COMMAND>"
  | .run => "Usage: poolrun run [OPTIONS]"
  | .validate => "Usage: poolrun validate"
  | .devices => "Usage: poolrun devices"
  | .help => "Usage: poolrun help [COMMAND]..."

/-- Terms and what they stand for, in two columns. -/
def columns (entries : List (String × String)) : List String :=
  let width := entries.foldl (fun w (term, _) => max w term.length) 0
  entries.map fun (term, meaning) => "  " ++ Text.padRight width term ++ "  " ++ meaning

/-- A heading with entries below it. -/
def section_ (heading : String) (entries : List (String × String)) : List String :=
  ["", heading ++ ":"] ++ columns entries

/-- The option for help. -/
def helpOption (term : String) : String × String := (term, "Print help")

/-- The commands and options of a topic. -/
def details : Topic → List String
  | .program =>
    section_ "Commands" [("run", about .run), ("validate", about .validate),
      ("devices", about .devices), ("help", about .help)]
      ++ section_ "Options"
        [("-c, --config <CONFIG>",
            "Configuration file path [default: " ++ defaultConfig ++ "]"),
          ("-v, --verbose", "Verbose output"), helpOption "-h, --help",
          ("-V, --version", "Print version")]
  | .run =>
    section_ "Options"
      [("    --ignore-failures", "Exit with 0 even if failures remain"),
        ("    --junit <JUNIT>", "JUnit XML output path"), helpOption "-h, --help"]
  | .validate | .devices => section_ "Options" [helpOption "-h, --help"]
  | .help => section_ "Arguments" [("[COMMAND]...", "Print help for the subcommand(s)")]

/-- The lines of help on a topic. -/
def helpLines (topic : Topic) : List String :=
  [about topic, "", usage topic] ++ details topic

end TestFleet.CommandLine
