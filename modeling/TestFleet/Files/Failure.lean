/-!
# Failures of file operations

Why an operation on files fails: the causes a system knows, with their numbers, and those that are
found before the system is asked.
-/
namespace TestFleet.Files

/-- Why an operation on files failed. -/
inductive Failure where
  | notPermitted
  | notFound
  | badFormat
  | permission
  | exists
  | notDirectory
  | isDirectory
  | notEmpty
  | nameTooLong
  | invalidArgument
  | tooManyLinks
  | notUtf8
  | invalidName
  | nulInArgument
  deriving DecidableEq, Repr, Inhabited

namespace Failure

/-- The failure in few words. -/
def words : Failure → String
  | .notPermitted => "Operation not permitted"
  | .notFound => "No such file or directory"
  | .badFormat => "Exec format error"
  | .permission => "Permission denied"
  | .exists => "File exists"
  | .notDirectory => "Not a directory"
  | .isDirectory => "Is a directory"
  | .notEmpty => "Directory not empty"
  | .nameTooLong => "File name too long"
  | .invalidArgument => "Invalid argument"
  | .tooManyLinks => "Too many levels of symbolic links"
  | .notUtf8 => "stream did not contain valid UTF-8"
  | .invalidName => "file name contained an unexpected NUL byte"
  | .nulInArgument => "nul byte found in provided data"

/-- The system's number for the failure, if it has one. -/
def code? : Failure → Option Nat
  | .notPermitted => some 1
  | .notFound => some 2
  | .badFormat => some 8
  | .permission => some 13
  | .exists => some 17
  | .notDirectory => some 20
  | .isDirectory => some 21
  | .invalidArgument => some 22
  | .nameTooLong => some 36
  | .notEmpty => some 39
  | .tooManyLinks => some 40
  | .notUtf8 | .invalidName | .nulInArgument => none

/-- The failure as people read it. -/
def message (f : Failure) : String :=
  match f.code? with
  | some n => f.words ++ " (os error " ++ toString n ++ ")"
  | none => f.words

end Failure

end TestFleet.Files
