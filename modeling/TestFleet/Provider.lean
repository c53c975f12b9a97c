import TestFleet.Device.Document
import TestFleet.Rule.Hook
import TestFleet.Json.Records
/-!
# Where devices come from

A provider lists the devices of a run. One takes them from its configuration, another runs a
command that prints them as a JSON list.
-/
namespace TestFleet

open Datum

/-- Why there is no list of devices. -/
inductive ProviderError where
  | commandFailed (detail : String)
  /-- What the command printed is not a list of devices. -/
  | unreadable
  | timeout (detail : String)
  | io (failure : Files.Failure)
  | other (detail : String)
  deriving DecidableEq, Repr, Inhabited

/-- The error as people read it. -/
def ProviderError.message : ProviderError → String
  | .commandFailed detail => "Device discovery command failed: " ++ detail
  | .unreadable => "Failed to parse device list"
  | .timeout detail => "Timeout: " ++ detail
  | .io failure => "IO error: " ++ failure.message
  | .other detail => "Provider-specific error: " ++ detail

/-- What lists devices. -/
structure Provider (W : Type) where
  name : String
  devices : Action W ProviderError (List Device)

namespace Provider

variable {W : Type}

/-- Devices that the configuration lists. -/
def listed (devices : List Device) : Provider W := ⟨"builtin.static", .give devices⟩

/-- Reads a provider of listed devices. -/
def listedOfEntry (e : PluginEntry) : Except PluginFault (Provider W) := do
  let devices ← e.parse (withDefault "devices" [] (list? Device.ofParam?))
  pure (listed devices)

/-- The devices that a command printed. -/
def devicesIn? (octets : Files.Octets) : Option (List Device) := do
  (← Json.recordsIn? Device.fieldNames octets).mapM Device.ofDatum?

/-- What is said of a command that failed. -/
def failureText (command : String) (exit : Shell.Exit) (err : Files.Octets) : String :=
  "`" ++ command ++ "` exited with " ++ exit.text ++ ": "
    ++ Text.trim (Text.Utf8.decodeLossy err)

variable [Hosted W]

/-- Devices that a command prints within a time. -/
def ofCommand (shell command : String) (limit : Time.Span) : Provider W where
  name := "builtin.command"
  devices := Hosted.onHost fun host =>
    match Shell.Launch.run ⟨shell, command, [], none, some limit⟩ host with
    | .error f => (.failed (.io f), host)
    | .ok (ended, after) =>
      match ended.exit with
      | some exit =>
        if ended.openFor.nanos < limit.nanos then
          let after := after.wait ended.openFor
          if exit.success then
            match devicesIn? ended.out with
            | some devices => (.done devices, after)
            | none => (.failed .unreadable, after)
          else (.failed (.commandFailed (failureText command exit ended.err)), after)
        else (.failed (late after).1, (late after).2)
      | none => (.failed (late after).1, (late after).2)
where
  late (host : Host) : ProviderError × Host :=
    (.timeout ("`" ++ command ++ "` did not finish in " ++ limit.text), host.wait limit)

/-- Reads a provider that runs a command. -/
def ofCommandEntry (e : PluginEntry) : Except PluginFault (Provider W) := do
  let read : FieldReader (String × String × Nat) := do
    let command ← required "command" text?
    let shell ← withDefault "shell" defaultShell text?
    let seconds ← withDefault "timeout_secs" 60 (nat? 64)
    pure (command, shell, seconds)
  let (command, shell, seconds) ← e.parse read
  pure (ofCommand shell command (.ofSeconds seconds))

end Provider

end TestFleet
