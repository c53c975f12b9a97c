import TestFleet.CommandLine.Program
import Std.Time.DateTime.Timestamp
/-!
# The command line

The files below the current directory, the clock and some variables of the environment make up the
host that the program runs on. What the program changed is written back when it has ended.
-/
namespace TestFleet.CommandLine

/-- The octets of a byte array. -/
def octets (bytes : ByteArray) : Files.Octets := bytes.toList

/-- Puts what is in a directory into a tree. -/
partial def readBelow (entries : Array IO.FS.DirEntry) (place : Files.Place) (t : Files.Tree) :
    IO Files.Tree := do
  let mut t := t
  for e in entries do
    let below := place ++ [e.fileName]
    if ← e.path.isDir then
      t ← readBelow (← e.path.readDir) below (t.put below .directory)
    else
      t := t.put below (.file (octets (← IO.FS.readBinFile e.path)))
  return t

/-- The directories on the way to a place. -/
def directoriesTo (place : Files.Place) (t : Files.Tree) : Files.Tree :=
  (List.range place.length).foldl (fun t n => t.put (place.take (n + 1)) .directory) t

/-- The files below the current directory. -/
def readTree : IO Files.Tree := do
  let directory ← IO.currentDir
  let place := Files.parts directory.toString
  let empty : Files.Tree := ⟨[(["dev"], .directory), (["dev", "null"], .sink)], place, [], []⟩
  readBelow (← directory.readDir) place (directoriesTo place empty)

/-- The variables of the environment that the program sees. -/
def variableNames : List String :=
  ["HOME", "PATH", "USER", "LOGNAME", "SHELL", "LANG", "TMPDIR", "TERM"]

/-- The variables that are set. -/
def readEnvironment : IO (List (String × String)) := do
  let mut found := #[]
  for name in variableNames do
    if let some value ← IO.getEnv name then found := found.push (name, value)
  return found.toList

/-- The time on the system's clock. -/
def readClock : IO Time.Moment := do
  let nanos := (← Std.Time.Timestamp.now).toNanosecondsSinceUnixEpoch.val
  return ⟨nanos / 1000000000, (nanos % 1000000000).toNat⟩

/-- The host that the program runs on. -/
def readHost : IO Host := do
  return ⟨← readTree, ← readEnvironment, ← readClock, [], false⟩

/-- A path from the root to a place. -/
def pathOf (place : Files.Place) : String := "/" ++ "/".intercalate place

/-- Writes what differs between two trees. -/
def writeChanges (before after : Files.Tree) : IO Unit := do
  for (place, node) in after.nodes do
    if before.nodes.lookup place != some node then
      match node with
      | .directory => IO.FS.createDirAll (pathOf place)
      | .file content => IO.FS.writeBinFile (pathOf place) (ByteArray.mk content.toArray)
      | .sink | .link _ => pure ()
  for (place, node) in before.nodes do
    if (after.nodes.lookup place).isNone then
      match node with
      | .file _ => IO.FS.removeFile (pathOf place)
      | _ => pure ()

/-- A number made of random octets. -/
def randomNat (count : USize) : IO Nat := do
  return (octets (← IO.getRandomBytes count)).foldl (fun n b => n * 256 + b.toNat) 0

end TestFleet.CommandLine

open TestFleet TestFleet.CommandLine

/-- Runs the program on the arguments of the process. -/
def main (args : List String) : IO UInt32 := do
  let host ← readHost
  let seed := (← randomNat 8).toUInt64
  let id := RunId.ofRandom (← randomNat 16)
  let (ending, after) := program (Registry.builtin seed) id args host
  IO.print after.output
  writeChanges host.files after.files
  if let some trouble := ending.trouble then
    for line in complaint trouble.reason do IO.eprintln line
  return ending.exit.toUInt32
