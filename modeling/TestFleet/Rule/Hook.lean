import TestFleet.Rule
import TestFleet.Rule.Placeholder
import TestFleet.Shell.Process
import TestFleet.Config.Document
/-!
# Hooks

A hook runs commands before and after a scope of any kind. A command that cannot be started, or
does not end with status 0, makes the hook fail; the commands after it do not run.
-/
namespace TestFleet

open Datum

/-- Reads parameters that must hold nothing but known names. Dates and times are read as texts. -/
def PluginEntry.parse {α : Type} (e : PluginEntry) (read : FieldReader α) : Except PluginFault α :=
  match record .refused read (.table (Toml.spelledEntries e.params)) with
  | some a => .ok a
  | none => .error (.parameters e.label)

/-- The shell that runs commands unless another is named. -/
def defaultShell : String := "/bin/sh"

/-- The commands of a hook. -/
structure Hook where
  name : String
  before : List String
  after : List String
  shell : String
  deriving DecidableEq, Repr, Inhabited

namespace Hook

/-- Reads a hook from its entry. -/
def ofEntry (e : PluginEntry) : Except PluginFault Hook := do
  let read : FieldReader (List String × List String × String) := do
    let before ← withDefault "before" [] (list? text?)
    let after ← withDefault "after" [] (list? text?)
    let shell ← withDefault "shell" defaultShell text?
    pure (before, after, shell)
  let (before, after, shell) ← e.parse read
  if before.isEmpty && after.isEmpty then
    throw (.refused ("hook '" ++ e.label ++ "' has neither before nor after commands"))
  else pure ⟨e.label, before, after, shell⟩

/-- What is said of a command that failed. -/
def failure (command : String) (exit : Option Shell.Exit) (err : Files.Octets) : Reason :=
  let ending := match exit with | some e => e.text | none => "no end"
  .ofMessage ("hook command `" ++ command ++ "` exited with " ++ ending ++ ": "
    ++ Text.trim (Text.Utf8.decodeLossy err))

variable {W : Type} [Hosted W]

/-- Runs one command and waits for the end of its output. -/
def runCommand (shell command : String) : Action W Reason Unit :=
  Hosted.onHost fun host =>
    match Shell.Launch.run ⟨shell, command, [], none, none⟩ host with
    | .error f =>
      (.failed (.above ("failed to spawn hook command: " ++ command) (.ofMessage f.message)), host)
    | .ok (ended, host) =>
      let host := host.wait ended.openFor
      if ended.exit = some (.code 0) then (.done (), host)
      else (.failed (failure command ended.exit ended.err), host)

/-- Runs templates of commands, in order, up to the first that fails. -/
def runAll (shell : String) (values : List (String × String)) (templates : List String) :
    Action W Reason Unit :=
  Action.each (fun t => runCommand shell (substitute values t)) templates

/-- The hook as a rule of any scope. -/
def rule {C R : Type} [Placeholders C] (h : Hook) : Rule W C R where
  name := h.name
  before ctx := runAll h.shell (Placeholders.placeholders ctx) h.before
  after ctx carried :=
    (runAll h.shell (Placeholders.placeholders ctx) h.after).andThen fun _ => .give carried

end Hook

end TestFleet
